import Descent.Regex.Reader

/-!
# Reading with a bracket behind

A pattern is read behind `^(?:` and in front of a bracket. To compare this with reading the pattern
alone, the readers are run on two texts that are the same but for a closing bracket behind the one
of them (`Bracketed`). A reader that succeeds on the text by itself succeeds on the other one as
well, and leaves texts that are related in the same way. The converse fails: what the text breaks
off, such as an escape, may go on with the bracket. But the bracket is the last character, so then
nothing is left, or close to nothing. Both are said of a reader in one judgement (`Keeps`).

The proofs follow the readers. A reader that needs more than the text has fails on it, and mostly on
a bracket, too. One that may come to the end of a text, as that of digits does, comes to the bracket
instead and stops there (`Bracketed.loop`). And a comment swallows the bracket, which is why the
texts that are left may both be empty.

This module is about what is ignored between characters, flags and escapes; classes and tokens have
modules of their own.
-/

namespace Descent.Regex

/-- A text, and the same with a closing bracket behind it; or nothing, where the bracket is gone. -/
inductive Bracketed : List Char → List Char → Prop where
  /-- Nothing, and nothing. -/
  | nil : Bracketed [] []
  /-- Nothing, and a bracket. -/
  | close : Bracketed [] [')']
  /-- The same character in front of both, if the bracket is still there. -/
  | cons (c : Char) {cs cs' : List Char} (h : Bracketed cs cs') (hbracket : cs' ≠ []) :
    Bracketed (c :: cs) (c :: cs')

/-- What a reader gives for a text, and for the other one. What it reads of the text by itself it
reads of both, and then at most `n` characters of the text are left. If it fails on the text by
itself, then it may read something with the bracket; `beyond` says what that is and what is left
behind it. -/
inductive Keeps {τ : Type} (beyond : τ → List Char → Prop) (n : Nat) :
    Option (τ × List Char) → Option (τ × List Char) → Prop where
  /-- The reader fails on both. -/
  | none : Keeps beyond n none none
  /-- The reader succeeds on both. -/
  | some {t : τ} {rest rest' : List Char} (h : Bracketed rest rest') (hlength : rest.length ≤ n) :
      Keeps beyond n (some (t, rest)) (some (t, rest'))
  /-- The reader succeeds with the bracket only. -/
  | beyond {t : τ} {rest' : List Char} (h : beyond t rest') : Keeps beyond n none (some (t, rest'))

/-- A reader does not succeed with the bracket only. -/
def Never {τ : Type} (_ : τ) (_ : List Char) : Prop := False

/-- A reader that succeeds with the bracket only has come to the end of the text. -/
def AtEnd {τ : Type} (_ : τ) (rest' : List Char) : Prop := rest' = []

namespace Bracketed

variable {cs cs' : List Char}

theorem concat (cs : List Char) : Bracketed cs (cs ++ [')']) := by
  induction cs with
  | nil => exact .close
  | cons c cs ih => exact .cons c ih (List.concat_ne_nil _ _)

theorem eq_or (h : Bracketed cs cs') : cs' = cs ++ [')'] ∨ cs = [] ∧ cs' = [] := by
  induction h with
  | nil => exact Or.inr ⟨rfl, rfl⟩
  | close => exact Or.inl rfl
  | cons c h hbracket ih =>
    rcases ih with rfl | ⟨-, hnil⟩
    · exact Or.inl rfl
    · exact absurd hnil hbracket

/-- Any other character than the bracket stands in front of both texts, or of neither. -/
theorem cons_or (h : Bracketed cs cs') {d : Char} (hd : d ≠ ')') :
    (∃ more more', cs = d :: more ∧ cs' = d :: more' ∧ Bracketed more more') ∨
      (∀ more, cs = d :: more → False) ∧ ∀ more, cs' = d :: more → False := by
  cases h with
  | nil => exact Or.inr ⟨nofun, nofun⟩
  | close => exact Or.inr ⟨nofun, fun _ heq ↦ hd (List.cons.inj heq).1.symm⟩
  | @cons c ds ds' h hbracket =>
    by_cases hc : c = d
    · subst hc
      exact Or.inl ⟨ds, ds', rfl, rfl, h⟩
    · exact Or.inr ⟨fun _ heq ↦ hc (List.cons.inj heq).1, fun _ heq ↦ hc (List.cons.inj heq).1⟩

theorem cons_cons_or (h : Bracketed cs cs') {d : Char} (hd : d ≠ ')') :
    (∃ more more', cs = d :: d :: more ∧ cs' = d :: d :: more' ∧ Bracketed more more') ∨
      (∀ more, cs = d :: d :: more → False) ∧ ∀ more, cs' = d :: d :: more → False := by
  rcases h.cons_or hd with ⟨ds, ds', rfl, rfl, hds⟩ | ⟨hfirst, hfirst'⟩
  · rcases hds.cons_or hd with ⟨es, es', rfl, rfl, hes⟩ | ⟨hsecond, hsecond'⟩
    · exact Or.inl ⟨es, es', rfl, rfl, hes⟩
    · exact Or.inr ⟨fun _ heq ↦ hsecond _ (List.cons.inj heq).2,
        fun _ heq ↦ hsecond' _ (List.cons.inj heq).2⟩
  · exact Or.inr ⟨fun _ ↦ hfirst _, fun _ ↦ hfirst' _⟩

/-! ### What is ignored -/

theorem skipComments (h : Bracketed cs cs') (inComment : Bool) :
    Bracketed (skipComments inComment cs) (skipComments inComment cs') := by
  induction h generalizing inComment with
  | nil => exact .nil
  | close =>
    cases inComment with
    | true => exact .nil
    | false => exact .close
  | cons c h hbracket ih =>
    simp only [Regex.skipComments]
    split
    · exact ih _
    · split
      · exact ih false
      · split
        · exact ih true
        · exact .cons c h hbracket

theorem skip (h : Bracketed cs cs') (f : Flags) : Bracketed (f.skip cs) (f.skip cs') := by
  unfold Flags.skip
  split
  · exact h.skipComments false
  · exact h

theorem dropWhile (h : Bracketed cs cs') (φ : Char → Bool) :
    Bracketed (cs.dropWhile φ) (cs'.dropWhile φ) := by
  induction h with
  | nil => exact .nil
  | close =>
    rw [List.dropWhile_nil, List.dropWhile_cons, List.dropWhile_nil]
    split
    · exact .nil
    · exact .close
  | cons c h hbracket ih =>
    rw [List.dropWhile_cons, List.dropWhile_cons]
    split
    · exact ih
    · exact .cons c h hbracket

/-- What comes before a character that is there is not changed. -/
theorem takeWhile_eq (h : Bracketed cs cs') {φ : Char → Bool} (hdrop : cs.dropWhile φ ≠ []) :
    cs'.takeWhile φ = cs.takeWhile φ := by
  induction h with
  | nil => rfl
  | close => exact absurd rfl hdrop
  | cons c h hbracket ih =>
    rw [List.dropWhile_cons] at hdrop
    rw [List.takeWhile_cons, List.takeWhile_cons]
    split
    · rename_i hc
      rw [if_pos hc] at hdrop
      rw [ih hdrop]
    · rfl

end Bracketed

theorem skipComments_length_le (inComment : Bool) (cs : List Char) :
    (skipComments inComment cs).length ≤ cs.length := by
  induction cs generalizing inComment with
  | nil => exact Nat.le_refl _
  | cons c cs ih =>
    simp only [skipComments]
    split
    · exact Nat.le_succ_of_le (ih _)
    · split
      · exact Nat.le_succ_of_le (ih false)
      · split
        · exact Nat.le_succ_of_le (ih true)
        · exact Nat.le_refl _

theorem Flags.skip_nil (f : Flags) : f.skip [] = [] := by
  unfold Flags.skip
  split <;> rfl

theorem Flags.length_skip_le (f : Flags) (cs : List Char) : (f.skip cs).length ≤ cs.length := by
  unfold Flags.skip
  split
  · exact skipComments_length_le false cs
  · exact Nat.le_refl _

/-- A loop over the characters of both texts, with what is ignored passed over behind each. Fuel
that is not less than their number does not run out, but in the end. -/
theorem Bracketed.loop (f : Flags) {motive : Nat → Nat → List Char → List Char → Prop}
    (nil : ∀ fuel fuel', motive fuel fuel' [] [])
    (close : ∀ fuel fuel', motive fuel (fuel' + 1) [] [')'])
    (cons : ∀ fuel fuel' c cs cs', Bracketed cs cs' → Bracketed (c :: cs) (c :: cs') →
      motive fuel fuel' (f.skip cs) (f.skip cs') →
      motive (fuel + 1) (fuel' + 1) (c :: cs) (c :: cs'))
    {cs cs' : List Char} (h : Bracketed cs cs') {fuel fuel' : Nat} (hfuel : cs.length ≤ fuel)
    (hfuel' : cs'.length ≤ fuel') : motive fuel fuel' cs cs' := by
  induction fuel generalizing cs cs' fuel' with
  | zero =>
    cases h with
    | nil => exact nil 0 fuel'
    | close =>
      obtain ⟨fuel', rfl⟩ := Nat.exists_eq_add_of_le' hfuel'
      exact close 0 fuel'
    | cons c h hbracket => exact absurd hfuel (Nat.not_succ_le_zero _)
  | succ fuel ih =>
    cases h with
    | nil => exact nil _ fuel'
    | close =>
      obtain ⟨fuel', rfl⟩ := Nat.exists_eq_add_of_le' hfuel'
      exact close _ fuel'
    | @cons c cs cs' h hbracket =>
      obtain ⟨fuel', rfl⟩ := Nat.exists_eq_add_of_le' (Nat.le_trans (Nat.le_add_left 1 _) hfuel')
      have hroom := Nat.le_trans (f.length_skip_le cs) (Nat.le_of_succ_le_succ hfuel)
      have hroom' := Nat.le_trans (f.length_skip_le cs') (Nat.le_of_succ_le_succ hfuel')
      exact cons fuel fuel' c cs cs' h (.cons c h hbracket) (ih (h.skip f) hroom hroom')

namespace Keeps

variable {τ υ : Type} {φ ψ : τ → List Char → Prop} {χ : υ → List Char → Prop} {n m : Nat}
  {r r' : Option (τ × List Char)}

/-- What a reader gives, in equations: both results are missing, or there is one with the bracket
only, or there are two. -/
theorem outcomes (h : Keeps φ n r r') :
    (r = .none ∧ r' = .none) ∨ (r = .none ∧ ∃ t rest', r' = .some (t, rest') ∧ φ t rest') ∨
      ∃ t rest rest', r = .some (t, rest) ∧ r' = .some (t, rest') ∧ Bracketed rest rest' ∧
        rest.length ≤ n := by
  cases h with
  | none => exact Or.inl ⟨rfl, rfl⟩
  | beyond h => exact Or.inr (Or.inl ⟨rfl, _, _, rfl, h⟩)
  | some h hlength => exact Or.inr (Or.inr ⟨_, _, _, rfl, rfl, h, hlength⟩)

theorem mono (h : Keeps φ n r r') (hlength : n ≤ m) (hbeyond : ∀ t rest', φ t rest' → ψ t rest') :
    Keeps ψ m r r' := by
  cases h with
  | none => exact .none
  | beyond h => exact .beyond (hbeyond _ _ h)
  | some h hrest => exact .some h (Nat.le_trans hrest hlength)

theorem within (h : Keeps φ n r r') (hlength : n ≤ m) : Keeps φ m r r' :=
  h.mono hlength fun _ _ hφ ↦ hφ

theorem of_never (h : Keeps Never n r r') : Keeps φ n r r' :=
  h.mono (Nat.le_refl n) fun _ _ hφ ↦ hφ.elim

theorem map (h : Keeps φ n r r') (g : τ → υ) (hbeyond : ∀ t rest', φ t rest' → χ (g t) rest') :
    Keeps χ n (r.map fun (t, rest) ↦ (g t, rest)) (r'.map fun (t, rest) ↦ (g t, rest)) := by
  cases h with
  | none => exact .none
  | beyond h => exact .beyond (hbeyond _ _ h)
  | some h hlength => exact .some h hlength

/-- Behind something read with the bracket only, the next reader has what is left. -/
theorem bind (h : Keeps φ n r r') {k k' : τ × List Char → Option (υ × List Char)}
    (hk : ∀ t rest rest', Bracketed rest rest' → rest.length ≤ n →
      Keeps χ m (k (t, rest)) (k' (t, rest')))
    (hbeyond : ∀ t rest', φ t rest' → Keeps χ m .none (k' (t, rest'))) :
    Keeps χ m (r.bind k) (r'.bind k') := by
  cases h with
  | none => exact .none
  | beyond h => exact hbeyond _ _ h
  | some h hlength => exact hk _ _ _ h hlength

theorem exists_of_some {t t' : τ × List Char} (h : Keeps φ n (.some t) (.some t')) :
    ∃ a rest rest', t = (a, rest) ∧ t' = (a, rest') ∧ Bracketed rest rest' ∧
      rest.length ≤ n := by
  cases h with
  | some h hlength => exact ⟨_, _, _, rfl, rfl, h, hlength⟩

theorem length_le {t : τ} {rest : List Char} (h : Keeps φ n (.some (t, rest)) r') :
    rest.length ≤ n := by
  cases h with
  | some h hlength => exact hlength

theorem exists_right {t : τ} {rest : List Char} (h : Keeps φ n (.some (t, rest)) r') :
    ∃ rest', r' = .some (t, rest') ∧ Bracketed rest rest' := by
  cases h with
  | some h hlength => exact ⟨_, rfl, h⟩

theorem map_rest {o : Option υ} {g : υ → τ} {rest rest' : List Char} (h : Bracketed rest rest')
    (hlength : rest.length ≤ n) :
    Keeps φ n (o.map fun a ↦ (g a, rest)) (o.map fun a ↦ (g a, rest')) := by
  cases o with
  | none => exact .none
  | some a => exact .some h hlength

end Keeps

/-! ### Flags -/

/-- Flags end in front of a bracket, which may be the one behind the text. -/
theorem Bracketed.readFlags {cs cs' : List Char} (h : Bracketed cs cs') (f : Flags) (on : Bool)
    (used : List Char) (signLast : Bool) :
    Keeps (fun _ rest' ↦ rest' = [')']) cs.length (f.read on used signLast cs)
      (f.read on used signLast cs') := by
  induction h generalizing f on used signLast with
  | nil => exact .none
  | close =>
    cases signLast with
    | true => exact .none
    | false => exact .beyond rfl
  | cons c h hbracket ih =>
    simp only [Flags.read]
    split
    · split
      · exact .none
      · exact .some (.cons c h hbracket) (Nat.le_refl _)
    · split
      · split
        · exact (ih f false used true).within (Nat.le_succ _)
        · exact .none
      · split
        · exact .none
        · split
          · exact (ih _ on _ false).within (Nat.le_succ _)
          · exact .none

/-! ### Escapes -/

namespace Escape

variable {cs cs' : List Char}

theorem keeps_readDigits (h : Bracketed cs cs') (f : Flags) (n value : Nat) :
    Keeps Never cs.length (readDigits f n value cs) (readDigits f n value cs') := by
  induction n generalizing cs cs' value with
  | zero => exact .some h (Nat.le_refl _)
  | succ n ih =>
    cases h with
    | nil | close => exact .none
    | @cons c cs cs' h hbracket =>
      simp only [readDigits]
      split
      · exact (ih (h.skip f) _).within (Nat.le_succ_of_le (f.length_skip_le cs))
      · exact .none

theorem keeps_readBraced (h : Bracketed cs cs') (f : Flags) {fuel fuel' : Nat}
    (hfuel : cs.length ≤ fuel) (hfuel' : cs'.length ≤ fuel') (value? : Option Nat) :
    Keeps Never cs.length (readBraced f fuel value? cs) (readBraced f fuel' value? cs') := by
  refine Bracketed.loop f (motive := fun fuel fuel' cs cs' ↦ ∀ value?,
    Keeps Never cs.length (readBraced f fuel value? cs) (readBraced f fuel' value? cs')) ?_ ?_ ?_
    h hfuel hfuel' value?
  · intro fuel fuel' value?
    cases fuel <;> cases fuel' <;> exact .none
  · intro fuel fuel' value?
    cases fuel <;> exact .none
  · intro fuel fuel' c cs cs' h hboth ih value?
    have hlength : (f.skip cs).length ≤ (c :: cs).length := Nat.le_succ_of_le (f.length_skip_le cs)
    simp only [readBraced]
    split
    · exact .map_rest (h.skip f) hlength
    · split
      · exact (ih _).within hlength
      · exact .none

theorem keeps_readNumber (h : Bracketed cs cs') (f : Flags) (width : Nat) :
    Keeps Never cs.length (readNumber f width cs) (readNumber f width cs') := by
  have hskip := h.skip f
  have hless := f.length_skip_le cs
  unfold readNumber
  generalize f.skip cs = ds at hskip hless
  generalize f.skip cs' = ds' at hskip
  rcases hskip.cons_or (d := '\x7b') (by decide) with
    ⟨more, more', rfl, rfl, hmore⟩ | ⟨hplain, hplain'⟩
  · have hroom := f.length_skip_le more
    have hroom' := f.length_skip_le more'
    rw [List.length_cons] at hless
    rcases (keeps_readBraced (hmore.skip f) f (Nat.le_succ_of_le hroom) (Nat.le_succ_of_le hroom')
      none).outcomes with
      ⟨hread, hread'⟩ | ⟨-, -, -, -, ⟨⟩⟩ | ⟨n, rest, rest', hread, hread', hrest, hlength⟩
    · simp only [hread, hread']
      exact .none
    · simp only [hread, hread']
      exact .map_rest hrest (by omega)
  · rcases (keeps_readDigits hskip f width 0).outcomes with
      ⟨hread, hread'⟩ | ⟨-, -, -, -, ⟨⟩⟩ | ⟨n, rest, rest', hread, hread', hrest, hlength⟩
    · simp only [hread, hread']
      exact .none
    · simp only [hread, hread']
      split
      · exact .none
      · exact .map_rest hrest (Nat.le_trans hlength hless)

theorem keeps_readQueryText (h : Bracketed cs cs') (f : Flags) {fuel fuel' : Nat}
    (hfuel : cs.length ≤ fuel) (hfuel' : cs'.length ≤ fuel') :
    Keeps Never cs.length (readQueryText f fuel cs) (readQueryText f fuel' cs') := by
  refine Bracketed.loop f (motive := fun fuel fuel' cs cs' ↦
    Keeps Never cs.length (readQueryText f fuel cs) (readQueryText f fuel' cs')) ?_ ?_ ?_ h hfuel
    hfuel'
  · intro fuel fuel'
    cases fuel <;> cases fuel' <;> exact .none
  · intro fuel fuel'
    have hnothing : readQueryText f fuel' (f.skip []) = none := by
      rw [f.skip_nil]
      cases fuel' <;> rfl
    have hbracket : readQueryText f (fuel' + 1) [')'] = none := by
      simp only [readQueryText, hnothing]
      rfl
    rw [hbracket]
    cases fuel <;> exact .none
  · intro fuel fuel' c cs cs' h hboth ih
    simp only [readQueryText]
    split
    · exact .some h (Nat.le_succ _)
    · exact (ih.within (Nat.le_succ_of_le (f.length_skip_le cs))).map _ fun _ _ hφ ↦ hφ

/-- The name of a property may be the bracket. -/
theorem keeps_readProperty (h : Bracketed cs cs') (f : Flags) (negated : Bool) :
    Keeps AtEnd cs.length (readProperty f negated cs) (readProperty f negated cs') := by
  have hquery : ∀ (query : Unicode.Query) {rest rest' : List Char}, Bracketed rest rest' →
      rest.length ≤ cs.length → Keeps AtEnd cs.length
        (do if f.unicode then return (set (f.close (← query.set?)) negated, rest) else none)
        (do if f.unicode then return (set (f.close (← query.set?)) negated, rest') else none) := by
    intro query rest rest' hrest hlength
    split
    · rcases query.set? with - | s
      · exact .none
      · exact .some hrest hlength
    · exact .none
  have hbracket : ∀ query : Unicode.Query, Keeps AtEnd cs.length none
      (do if f.unicode then return (set (f.close (← query.set?)) negated, []) else none) := by
    intro query
    split
    · rcases query.set? with - | s
      · exact .none
      · exact .beyond rfl
    · exact .none
  have hskip := h.skip f
  have hless := f.length_skip_le cs
  unfold readProperty
  generalize f.skip cs = ds at hskip hless
  generalize f.skip cs' = ds' at hskip
  cases hskip with
  | nil => exact .none
  | close => exact hbracket _
  | @cons c ds ds' hds hbracket =>
    have hroom := f.length_skip_le ds
    have hroom' := f.length_skip_le ds'
    rw [List.length_cons] at hless
    by_cases hbrace : c = '\x7b'
    · subst hbrace
      rcases (keeps_readQueryText (hds.skip f) f (Nat.le_succ_of_le hroom)
        (Nat.le_succ_of_le hroom')).outcomes with
        ⟨hread, hread'⟩ | ⟨-, -, -, -, ⟨⟩⟩ | ⟨text, rest, rest', hread, hread', hrest, hlength⟩
      · simp only [hread, hread']
        exact .none
      · have hleft : rest.length ≤ cs.length := by omega
        simp only [hread, hread']
        exact hquery _ hrest hleft
    · by_cases hback : c = '\\'
      · subst hback
        exact .none
      · simp only [hback, if_false]
        exact hquery _ hds (Nat.le_of_succ_le hless)

theorem readEdgeName_nil (f : Flags) (fuel : Nat) : readEdgeName f fuel [] = ([], []) := by
  cases fuel <;> rfl

/-- The bracket is no part of a name. -/
theorem keeps_readEdgeName (h : Bracketed cs cs') (f : Flags) {fuel fuel' : Nat}
    (hfuel : cs.length ≤ fuel) (hfuel' : cs'.length ≤ fuel') :
    Keeps Never cs.length (some (readEdgeName f fuel cs)) (some (readEdgeName f fuel' cs')) := by
  refine Bracketed.loop f (motive := fun fuel fuel' cs cs' ↦ Keeps Never cs.length
    (some (readEdgeName f fuel cs)) (some (readEdgeName f fuel' cs'))) ?_ ?_ ?_ h hfuel hfuel'
  · intro fuel fuel'
    rw [readEdgeName_nil, readEdgeName_nil]
    exact .some .nil (Nat.le_refl _)
  · intro fuel fuel'
    rw [readEdgeName_nil]
    exact .some .close (Nat.le_refl _)
  · intro fuel fuel' c cs cs' h hboth ih
    simp only [readEdgeName]
    split
    · obtain ⟨name, rest, rest', hread, hread', hrest, hlength⟩ := ih.exists_of_some
      rw [hread, hread']
      exact .some hrest (Nat.le_trans hlength (Nat.le_succ_of_le (f.length_skip_le cs)))
    · exact .some hboth (Nat.le_refl _)

/-- What an escape may be with the bracket only. It takes the bracket, or it is the edge of a word
with nothing but the bracket in braces behind it, which are left. -/
def Beyond (f : Flags) (e : Escape) (rest' : List Char) : Prop :=
  rest' = [] ∨ (∃ a, e = .anchor a) ∧ ∃ inner, rest' = '\x7b' :: inner ∧ f.skip inner = [')']

theorem keeps_readBoundary (h : Bracketed cs cs') (f : Flags) :
    Keeps (Beyond f) cs.length (readBoundary f cs) (readBoundary f cs') := by
  rcases h.cons_or (d := '\x7b') (by decide) with
    ⟨ds, ds', rfl, rfl, hds⟩ | ⟨hplain, hplain'⟩
  · have hskip := hds.skip f
    have hless := f.length_skip_le ds
    simp only [readBoundary]
    generalize f.skip ds = es at hskip hless
    generalize hinner : f.skip ds' = es' at hskip
    cases hskip with
    | nil => exact .none
    | close => exact .beyond (Or.inr ⟨⟨_, rfl⟩, _, rfl, hinner⟩)
    | @cons c es es' hes hbracket =>
      simp only
      split
      · have hname := keeps_readEdgeName (.cons c hes hbracket) f (Nat.le_refl _) (Nat.le_refl _)
        obtain ⟨name, rest, rest', hread, hread', hrest, hlength⟩ := hname.exists_of_some
        simp only [List.length_cons] at hread hread' hlength hless
        simp only [hread, hread']
        rcases hrest.cons_or (d := '\x7d') (by decide) with
          ⟨more, more', rfl, rfl, hmore⟩ | ⟨hopen, hopen'⟩
        · simp only [List.length_cons] at hlength ⊢
          exact .map_rest hmore (by omega)
        · split
          · exact absurd (Prod.mk.inj ‹_›).2 (hopen _)
          · split
            · exact absurd (Prod.mk.inj ‹_›).2 (hopen' _)
            · exact .none
      · exact .some h (Nat.le_refl _)
  · rw [readBoundary.eq_2 f cs hplain, readBoundary.eq_2 f cs' hplain']
    exact .some h (Nat.le_refl _)

theorem keeps_read (h : Bracketed cs cs') (f : Flags) :
    Keeps (Beyond f) (cs.length - 1) (read f cs) (read f cs') := by
  have hatEnd : ∀ (e : Escape) rest', AtEnd e rest' → Beyond f e rest' := fun _ _ ↦ Or.inl
  cases h with
  | nil => exact .none
  | close => exact .beyond (Or.inl rfl)
  | @cons c cs cs' h hbracket =>
    simp only [read, List.length_cons, Nat.add_sub_cancel]
    split
    · exact .some h (Nat.le_refl _)
    · split <;>
        first
        | exact .none
        | exact .some h (Nat.le_refl _)
        | exact (keeps_readNumber h f _).of_never
        | exact (keeps_readProperty h f _).mono (Nat.le_refl _) hatEnd
        | exact keeps_readBoundary h f

end Escape

end Descent.Regex
