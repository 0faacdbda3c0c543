import Descent.Regex.Search

/-!
# Expressions that match at the start of a text only

If the form of an expression shows that all of its matches begin at the start of a text
(`Regex.startBound`), then nothing is looked for further on. This module says that nothing would be
found there: behind another character, every thread of such a program dies before it comes to a
character or to the end (`matchLength?_of_startBound`). So the shortcut changes no answer
(`find_eq_findFrom`).

Instructions are added in front of what follows them, and what has been added is not changed any
more but for the loops of repetitions without end. So a thread that dies does so as well when more
code has been emitted (`Dies.of_extends`), and that all threads of an expression die is read off the
form by induction on it.
-/

namespace Descent.Regex

/-- What holds before the first turn and is kept by every turn holds behind the last one. -/
theorem repeat_induction {α : Type} {φ : α → Prop} {f : α → α} {a : α} (start : φ a)
    (step : ∀ x, φ x → φ (f x)) (n : Nat) : φ (Nat.repeat f n a) := by
  induction n with
  | zero => exact start
  | succ n ih => exact step _ ih

/-! ### Code that grows -/

namespace Code

variable {code code' code'' : Code} {low : Nat}

/-- There is more code, and the instructions from a number on are the same. -/
structure Extends (low : Nat) (code code' : Code) : Prop where
  /-- No instructions are gone. -/
  size_le : code.size ≤ code'.size
  /-- Those from the number on have not changed. -/
  same : ∀ t, low ≤ t → t < code.size → code'.getD t .accept = code.getD t .accept

theorem Extends.refl (low : Nat) (code : Code) : code.Extends low code :=
  ⟨Nat.le_refl _, fun _ _ _ ↦ rfl⟩

theorem Extends.trans (h : code.Extends low code') (h' : code'.Extends low code'') :
    code.Extends low code'' where
  size_le := Nat.le_trans h.size_le h'.size_le
  same t hlow ht := by rw [h'.same t hlow (Nat.lt_of_lt_of_le ht h.size_le), h.same t hlow ht]

theorem Extends.mono {low' : Nat} (h : code.Extends low code') (hlow : low ≤ low') :
    code.Extends low' code' where
  size_le := h.size_le
  same t ht := h.same t (Nat.le_trans hlow ht)

theorem extends_push (low : Nat) (code : Code) (i : Instruction) :
    code.Extends low (code.push i) where
  size_le := by simp
  same t _ ht := by
    rw [Array.getD_eq_getD_getElem?, Array.getD_eq_getD_getElem?, Array.getElem?_push,
      if_neg (Nat.ne_of_lt ht)]

theorem getD_push (code : Code) (i : Instruction) : (code.push i).getD code.size .accept = i := by
  rw [Array.getD_eq_getD_getElem?, Array.getElem?_push, if_pos rfl]
  rfl

/-- Filling in a loop changes nothing elsewhere. -/
theorem Extends.fillIn (h : code.Extends low code') {n : Nat} (hn : n < low ∨ code.size ≤ n)
    (i : Instruction) : code.Extends low (code'.setIfInBounds n i) where
  size_le := by
    rw [Array.size_setIfInBounds]
    exact h.size_le
  same t hlow ht := by
    rw [Array.getD_eq_getD_getElem?, Array.getElem?_setIfInBounds, if_neg (by omega),
      ← Array.getD_eq_getD_getElem?]
    exact h.same t hlow ht

theorem extends_emitText (code : Code) (text : List Char) (next : Nat) :
    code.Extends 0 (code.emitText text next).2 := by
  induction text with
  | nil => exact .refl 0 code
  | cons c text ih => exact ih.trans (extends_push 0 _ _)

theorem extends_repeat {f : Nat × Code → Nat × Code}
    (h : ∀ x : Nat × Code, x.2.Extends 0 (f x).2) (n : Nat) (x : Nat × Code) :
    x.2.Extends 0 (Nat.repeat f n x).2 :=
  repeat_induction (φ := fun y : Nat × Code ↦ x.2.Extends 0 y.2) (.refl 0 x.2)
    (fun y hy ↦ hy.trans (h y)) n

end Code

/-- The code of an expression stands behind what has been there. -/
theorem extends_emit (r : Regex) (next : Nat) (code : Code) :
    code.Extends 0 (r.emit next code).2 := by
  induction r generalizing next code with
  | empty => exact .refl 0 code
  | literal text => exact code.extends_emitText text next
  | one set => exact code.extends_push 0 _
  | look a => exact code.extends_push 0 _
  | seq a b iha ihb => exact (ihb next code).trans (iha _ _)
  | alt a b iha ihb => exact ((ihb next code).trans (iha next _)).trans (Code.extends_push 0 _ _)
  | repeated a least most? greedy ih =>
    have hturns := Code.extends_repeat (f := fun x ↦ a.emit x.1 x.2) fun x ↦ ih x.1 x.2
    cases most? with
    | some most =>
      refine (Code.extends_repeat (fun x ↦ ?_) (most - least) (next, code)).trans (hturns least _)
      exact (ih x.1 x.2).trans (Code.extends_push 0 _ _)
    | none =>
      have hloop := (code.extends_push 0 .accept).trans (ih code.size (code.push .accept))
      have hfilled := fun i ↦ hloop.fillIn (Or.inr (Nat.le_refl code.size)) i
      simp only [emit, Code.emit]
      split
      · split
        · exact hfilled _
        · exact (hfilled _).trans (Code.extends_push 0 _ _)
      · exact (hfilled _).trans (hturns _ (_, _))
  | group number a ih => exact ih next code

/-! ### Threads that die -/

/-- A thread that comes to the instruction `t` dies before it comes to a character or to the end:
it goes on to others that die, or to none. All of these have numbers from `low` on. -/
inductive Dies (code : Code) (around : Surroundings) (low : Nat) : Nat → Prop where
  /-- An anchor does not hold, or the thread dies behind it. -/
  | look {t next : Nat} {a : Anchor} (hlow : low ≤ t) (ht : t < code.size)
      (here : code.getD t .accept = .look a next)
      (rest : a.holds around = true → Dies code around low next) : Dies code around low t
  /-- Both ways to go on lead nowhere. -/
  | fork {t m n : Nat} (hlow : low ≤ t) (ht : t < code.size)
      (here : code.getD t .accept = .fork m n) (first : Dies code around low m)
      (second : Dies code around low n) : Dies code around low t

namespace Dies

variable {code code' : Code} {around : Surroundings} {low t : Nat}

theorem of_extends (h : Dies code around low t) (hcode : code.Extends low code') :
    Dies code' around low t := by
  induction h with
  | look hlow ht here rest ih =>
    exact .look hlow (Nat.lt_of_lt_of_le ht hcode.size_le) ((hcode.same _ hlow ht).trans here) ih
  | fork hlow ht here first second ih ih' =>
    exact .fork hlow (Nat.lt_of_lt_of_le ht hcode.size_le) ((hcode.same _ hlow ht).trans here) ih
      ih'

theorem mono {low' : Nat} (h : Dies code around low t) (hlow' : low' ≤ low) :
    Dies code around low' t := by
  induction h with
  | look hlow ht here rest ih => exact .look (Nat.le_trans hlow' hlow) ht here ih
  | fork hlow ht here first second ih ih' =>
    exact .fork (Nat.le_trans hlow' hlow) ht here ih ih'

theorem emit (h : Dies code around low t) (r : Regex) (next : Nat) :
    Dies (r.emit next code).2 around low t :=
  h.of_extends ((extends_emit r next code).mono (Nat.zero_le low))

theorem push_look {a : Anchor} {next : Nat} (hlow : low ≤ code.size)
    (h : a.holds around = true → Dies code around low next) :
    Dies (code.push (.look a next)) around low code.size :=
  .look hlow (by simp) (code.getD_push _) fun hholds ↦
    (h hholds).of_extends (code.extends_push low _)

theorem push_fork {m n : Nat} (hlow : low ≤ code.size) (hm : Dies code around low m)
    (hn : Dies code around low n) : Dies (code.push (.fork m n)) around low code.size :=
  .fork hlow (by simp) (code.getD_push _) (hm.of_extends (code.extends_push low _))
    (hn.of_extends (code.extends_push low _))

theorem push_turn {greedy : Bool} {m n : Nat} (hlow : low ≤ code.size)
    (hm : Dies code around low m) (hn : Dies code around low n) :
    Dies (code.push (.turn greedy m n)) around low code.size := by
  cases greedy with
  | true => exact push_fork hlow hm hn
  | false => exact push_fork hlow hn hm

end Dies

section Emit

variable {around : Surroundings}

/-- An expression that consumes nothing hands threads on to where they die. -/
theorem dies_of_staysPut {r : Regex} (h : r.staysPut = true) {low next : Nat} {code : Code}
    (hlow : low ≤ code.size) (hnext : Dies code around low next) :
    Dies (r.emit next code).2 around low (r.emit next code).1 := by
  induction r generalizing next code with
  | empty => exact hnext
  | literal text =>
    obtain rfl : text = [] := List.isEmpty_iff.1 h
    exact hnext
  | one set => cases h
  | look a => exact Dies.push_look hlow fun _ ↦ hnext
  | seq a b iha ihb =>
    obtain ⟨ha, hb⟩ := Bool.and_eq_true_iff.1 h
    have hmore := (extends_emit b next code).size_le
    exact iha ha (Nat.le_trans hlow hmore) (ihb hb hlow hnext)
  | alt a b iha ihb =>
    obtain ⟨ha, hb⟩ := Bool.and_eq_true_iff.1 h
    have hmore := Nat.le_trans hlow (extends_emit b next code).size_le
    have hmore' := Nat.le_trans hmore (extends_emit a next (b.emit next code).2).size_le
    have hfirst := iha ha hmore (hnext.emit b next)
    exact Dies.push_fork hmore' hfirst ((ihb hb hlow hnext).emit a next)
  | repeated a least most? greedy ih =>
    obtain ⟨hmost, ha⟩ := Bool.and_eq_true_iff.1 h
    obtain ⟨most, rfl⟩ := Option.isSome_iff_exists.1 hmost
    have hturn : ∀ y : Nat × Code, low ≤ y.2.size ∧ Dies y.2 around low y.1 →
        low ≤ (a.emit y.1 y.2).2.size ∧ Dies (a.emit y.1 y.2).2 around low (a.emit y.1 y.2).1 :=
      fun y hy ↦ ⟨Nat.le_trans hy.1 (extends_emit a y.1 y.2).size_le, ih ha hy.1 hy.2⟩
    -- Behind each turn that may be left out there are two ways, and one of them is `next`.
    have hoptional := repeat_induction
      (φ := fun y : Nat × Code ↦
        (low ≤ y.2.size ∧ Dies y.2 around low y.1) ∧ Dies y.2 around low next)
      (f := fun y ↦ (a.emit y.1 y.2).2.emit (.turn greedy (a.emit y.1 y.2).1 next))
      (a := (next, code)) ⟨⟨hlow, hnext⟩, hnext⟩
      (fun y hy ↦ by
        obtain ⟨hsize, hdies⟩ := hturn y hy.1
        have hout := hy.2.emit a y.1
        refine ⟨⟨?_, Dies.push_turn hsize hdies hout⟩, hout.of_extends (Code.extends_push low _ _)⟩
        exact Nat.le_trans hsize (Code.extends_push 0 _ _).size_le)
      (most - least)
    exact (repeat_induction (φ := fun y : Nat × Code ↦ low ≤ y.2.size ∧ Dies y.2 around low y.1)
      hoptional.1 hturn least).2
  | group number a ih => exact ih h hlow hnext

/-- Behind another character, the threads of an expression that matches at the start of a text only
die in its own code. -/
theorem dies_of_startBound {r : Regex} (h : r.startBound = true)
    (hbefore : around.before?.isSome = true) (next : Nat) (code : Code) :
    Dies (r.emit next code).2 around code.size (r.emit next code).1 := by
  induction r generalizing next code with
  | empty | literal _ | one _ => cases h
  | look a =>
    cases a with
    | textStart =>
      refine Dies.push_look (Nat.le_refl _) fun hholds ↦ ?_
      rw [Anchor.holds, Option.isNone_iff_eq_none] at hholds
      simp [hholds] at hbefore
    | textEnd | lineStart | lineEnd | lineStartReturn | lineEndReturn | edge _ _ => cases h
  | seq a b iha ihb =>
    have hmore := (extends_emit b next code).size_le
    rcases Bool.or_eq_true_iff.1 h with ha | hab
    · exact (iha ha _ _).mono hmore
    · obtain ⟨ha, hb⟩ := Bool.and_eq_true_iff.1 hab
      exact dies_of_staysPut ha hmore (ihb hb next code)
  | alt a b iha ihb =>
    obtain ⟨ha, hb⟩ := Bool.and_eq_true_iff.1 h
    have hmore := (extends_emit b next code).size_le
    have hmore' := Nat.le_trans hmore (extends_emit a next (b.emit next code).2).size_le
    have hfirst := (iha ha next (b.emit next code).2).mono hmore
    exact Dies.push_fork hmore' hfirst ((ihb hb next code).emit a next)
  | repeated a least most? greedy ih =>
    obtain ⟨hleast, ha⟩ := Bool.and_eq_true_iff.1 h
    obtain ⟨n, rfl⟩ : ∃ n, least = n + 1 :=
      Nat.exists_eq_succ_of_ne_zero (Nat.ne_of_gt (of_decide_eq_true hleast))
    cases most? with
    | some most =>
      -- The turn that is emitted last comes first, and dies whatever stands behind it.
      have hoptional := Code.extends_repeat
        (f := fun x ↦ (a.emit x.1 x.2).2.emit (.turn greedy (a.emit x.1 x.2).1 next))
        (fun x ↦ (extends_emit a x.1 x.2).trans (Code.extends_push 0 _ _)) (most - (n + 1))
        (next, code)
      have hturns := Code.extends_repeat (f := fun x ↦ a.emit x.1 x.2)
        (fun x ↦ extends_emit a x.1 x.2) n
      exact (ih ha _ _).mono (hoptional.trans (hturns _)).size_le
    | none =>
      -- The loop, which is filled in behind the code of its turn, stands in front of that code.
      have hsize : code.size < (code.push .accept).size := by simp
      have hloop := (Code.Extends.refl (code.push .accept).size
        (a.emit code.size (code.push .accept)).2).fillIn (Or.inl hsize)
        (.turn greedy (a.emit code.size (code.push .accept)).1 next)
      have hturn := ((ih ha code.size (code.push .accept)).of_extends hloop).mono
        (Nat.le_of_lt hsize)
      have hmore := Nat.le_trans (Nat.le_of_lt hsize)
        (Nat.le_trans (extends_emit a code.size (code.push .accept)).size_le hloop.size_le)
      exact (repeat_induction
        (φ := fun y : Nat × Code ↦ code.size ≤ y.2.size ∧ Dies y.2 around code.size y.1)
        (f := fun y ↦ a.emit y.1 y.2) ⟨hmore, hturn⟩
        (fun y hy ↦ ⟨Nat.le_trans hy.1 (extends_emit a y.1 y.2).size_le,
          (ih ha y.1 y.2).mono hy.1⟩) n).2
  | group number a ih => exact ih h next code

end Emit

/-! ### Searching -/

/-- Threads that die leave nothing behind but the instructions that they have reached. -/
theorem explore_of_dies {code : Code} {around : Surroundings} {place fuel : Nat} {ts : List Nat}
    {here : Frontier} (h : ∀ t ∈ ts, Dies code around 0 t) :
    (explore code place around fuel ts here).waiting = here.waiting ∧
      (explore code place around fuel ts here).accepted = here.accepted := by
  induction fuel generalizing ts here with
  | zero => exact ⟨rfl, rfl⟩
  | succ fuel ih =>
    cases ts with
    | nil => exact ⟨rfl, rfl⟩
    | cons t ts =>
      obtain ⟨ht, hts⟩ := List.forall_mem_cons.1 h
      rw [explore]
      split
      · exact ih hts
      · cases ht with
        | look hlow hsize hinstr rest =>
          simp only [hinstr]
          split
          · exact ih (List.forall_mem_cons.2 ⟨rest ‹_›, hts⟩)
          · exact ih hts
        | fork hlow hsize hinstr first second =>
          simp only [hinstr]
          exact ih (List.forall_mem_cons.2 ⟨first, List.forall_mem_cons.2 ⟨second, hts⟩⟩)

namespace Program

/-- **Behind another character, an expression bound to the start of a text does not match.** -/
theorem matchLength?_of_startBound {r : Regex} (h : r.startBound = true) (c : Char)
    (text : List Char) : r.program.matchLength? (some c) text = none := by
  have hdies : ∀ behind? : Option Char, ∀ t ∈ [r.program.start],
      Dies r.program.code { before? := some c, behind? } 0 t := fun behind? t ht ↦ by
    obtain rfl := List.mem_singleton.1 ht
    exact (dies_of_startBound h rfl _ _).mono (Nat.zero_le _)
  cases text with
  | nil => simp [matchLength?, runThreads, frontier, explore_of_dies (hdies none)]
  | cons d cs =>
    simp [matchLength?, runThreads, frontier, explore_of_dies (hdies (some d)), threadsBehind]

/-- So it is not found behind the start of a text either. -/
theorem findFrom_of_startBound {r : Regex} (h : r.startBound = true) (c : Char)
    (skipped text : List Char) : r.program.findFrom (c :: skipped) text = none := by
  induction text generalizing c skipped with
  | nil => simp [findFrom, matchLength?_of_startBound h]
  | cons d cs ih => simpa [findFrom, matchLength?_of_startBound h] using ih d (c :: skipped)

/-- A search that stops at the start of a text answers like one that goes on. -/
theorem find_eq_findFrom (r : Regex) (text : List Char) :
    r.program.find text = r.program.findFrom [] text := by
  unfold find
  split
  · rename_i h
    have hrest := findFrom_of_startBound (r := r) h
    cases text with
    | nil => cases hlength : r.program.matchLength? none [] <;> simp [findFrom, hlength]
    | cons c cs =>
      cases hlength : r.program.matchLength? none (c :: cs) <;> simp [findFrom, hlength, hrest]
  · rfl

end Program

end Descent.Regex
