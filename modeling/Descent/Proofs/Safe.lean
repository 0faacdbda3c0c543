import Descent.Parser.Derived
import Descent.Proofs.Primitives

/-!
# Safe parsers

A parser is safe if, started at a valid place, it has no fault but being cut off, and its answer
stays within the input (`Outcome.Within`): what it consumed leads to another valid place, its errors
lie at valid places, and it gives a bare success in slicing mode only. These are the three things
that combinators rely on when they move on and read values, so they are kept together: each
combinator keeps them if its parts do, and for none of the three would this hold alone.
-/

namespace Descent

variable {α β γ : Type}

/-! ### Yields as functions of the text -/

namespace Yield

/-- The value of a success that consumed the text `t`, if it has one to give. -/
def get? (y : Yield α) (t : String) : Option α :=
  match y with
  | value a => some a
  | text f => some (f t)
  | bare => none

@[simp]
theorem get?_value (a : α) (t : String) : (value a).get? t = some a :=
  rfl

@[simp]
theorem get?_text (f : String → α) (t : String) : (text f).get? t = some (f t) :=
  rfl

@[simp]
theorem get?_bare (t : String) : (bare : Yield α).get? t = none :=
  rfl

theorem exists_get? {y : Yield α} (h : y ≠ bare) (t : String) : ∃ a, y.get? t = some a := by
  cases y with
  | value a => exact ⟨a, rfl⟩
  | text f => exact ⟨f t, rfl⟩
  | bare => exact absurd rfl h

theorem ne_bare_of_get? {y : Yield α} {t : String} {a : α} (h : y.get? t = some a) :
    y ≠ bare := by
  rintro rfl
  cases h

theorem map_ne_bare {y : Yield α} (h : y ≠ bare) (f : α → β) : y.map f ≠ bare := by
  cases y with
  | value a => exact nofun
  | text g => exact nofun
  | bare => exact absurd rfl h

theorem ne_bare_of_collapses {y : Yield α} {z : Yield β} (h : y.collapses z = false) :
    y ≠ bare ∧ z ≠ bare := by
  constructor <;> rintro rfl
  · exact absurd h nofun
  · cases y <;> exact absurd h nofun

/-- Between valid places, reading a yield is applying it to the text consumed. -/
theorem read_eq {y : Yield α} {s : State} {n : Nat} {a : α} (hs : s.location.Valid)
    (hn : (s.location.jump n).Valid) (h : y.get? (s.location.text n) = some a) :
    y.read s n = .ok a := by
  cases y with
  | value b =>
    cases h
    rfl
  | text f =>
    cases h
    rw [read, State.span_eq hs hn]
    rfl
  | bare => cases h

theorem get?_of_read_eq {y : Yield α} {s : State} {n : Nat} {a : α} (hs : s.location.Valid)
    (hn : (s.location.jump n).Valid) (h : y.read s n = .ok a) :
    y.get? (s.location.text n) = some a := by
  cases y with
  | value b =>
    cases h
    rfl
  | text f =>
    rw [read, State.span_eq hs hn] at h
    cases h
    rfl
  | bare => cases h

end Yield

theorem Outcome.mapValue_eq {y : Yield α} {s : State} {n : Nat} {a : α} (hs : s.location.Valid)
    (hn : (s.location.jump n).Valid) (h : y.get? (s.location.text n) = some a) (f : α → β) :
    (success y n).mapValue s f = .ok (value (f a) n) := by
  cases y with
  | value b =>
    cases h
    rfl
  | text g =>
    rw [mapValue, Yield.read_eq hs hn h]
    · rfl
    · exact nofun
  | bare => cases h

/-! ### Answers within the input -/

/-- All frames lie at valid places of the input. -/
def ParseError.LiesIn (e : ParseError) (input : String) : Prop :=
  ∀ frame ∈ e.frames, frame.location.Valid ∧ frame.location.input = input

namespace ParseError

variable {l : Location} {input : String}

theorem liesIn_error (h : l.Valid) (message : String) : (l.error message).LiesIn l.input := by
  intro frame hframe
  rcases List.mem_singleton.1 hframe with rfl
  exact ⟨h, rfl⟩

theorem LiesIn.push {e : ParseError} (he : e.LiesIn l.input) (h : l.Valid) (message : String) :
    (e.push l message).LiesIn l.input := by
  intro frame hframe
  rw [frames_push] at hframe
  rcases List.mem_append.1 hframe with hin | hout
  · exact he frame hin
  · rcases List.mem_singleton.1 hout with rfl
    exact ⟨h, rfl⟩

theorem LiesIn.label {e : ParseError} (he : e.LiesIn input) (message : String) :
    (e.label message).LiesIn input := by
  intro frame hframe
  rcases List.mem_cons.1 hframe with rfl | hout
  · exact he e.innermost List.mem_cons_self
  · exact he frame (List.mem_cons_of_mem _ hout)

end ParseError

/-- What a safe parser may answer at `s`. -/
inductive Outcome.Within (s : State) : Outcome α → Prop where
  /-- A success leads to a valid place, and is bare in slicing mode only. -/
  | success {y : Yield α} {n : Nat} (valid : (s.location.jump n).Valid)
      (bare : s.sliced = false → y ≠ .bare) : Within s (.success y n)
  /-- An error lies in the input. -/
  | failure {e : ParseError} {committed : Bool} (liesIn : e.LiesIn s.location.input) :
      Within s (.failure e committed)

/-- The parser has no fault at valid places but being cut off, and its answers stay within the
input. -/
def Parser.Safe (p : Parser α) : Prop :=
  ∀ s, s.location.Valid → Settles (Outcome.Within s) (p s)

namespace Outcome

variable {s : State}

theorem within_value (h : s.location.Valid) (a : α) : (value a 0).Within s :=
  .success (by simpa using h) fun _ ↦ nofun

/-- Sums of counts that lead to a place in the input are machine words. -/
theorem addCounts_eq_of_inside {l : Location} {m n : Nat} (h : (l.jump (m + n)).Inside) :
    addCounts m n = .ok (m + n) := by
  have hlt : l.offset + (m + n) < wordLimit := h.offset_lt
  refine addCounts_of_lt ?_
  omega

theorem addCounts_eq {l : Location} {m n : Nat} (h : (l.jump (m + n)).Valid) :
    addCounts m n = .ok (m + n) :=
  addCounts_eq_of_inside h.inside

end Outcome

/-- Two neighbours give what both values make, or nothing under slicing. -/
theorem Outcome.exists_pair (f : α → β → γ) {s : State} {y : Yield α} {z : Yield β} {m n : Nat}
    (hs : s.location.Valid) (hm : (s.location.jump m).Valid)
    (hn : ((s.jump m).location.jump n).Valid) (hbare : s.sliced = false → y ≠ .bare ∧ z ≠ .bare) :
    ∃ w, pair f s (s.jump m) y m z n = .ok (.success w (m + n)) ∧
      ((w = .bare ∧ s.sliced = true) ∨ ∃ a b, w = .value (f a b) ∧
        y.get? (s.location.text m) = some a ∧ z.get? ((s.jump m).location.text n) = some b) := by
  have hvalid : (s.location.jump (m + n)).Valid := by simpa using hn
  rw [pair]
  rcases hcollapse : (s.sliced && y.collapses z) with - | -
  · have hapart : y ≠ .bare ∧ z ≠ .bare := by
      rcases hsliced : s.sliced with - | -
      · exact hbare hsliced
      · exact Yield.ne_bare_of_collapses (by simpa [hsliced] using hcollapse)
    obtain ⟨a, ha⟩ := Yield.exists_get? hapart.1 (s.location.text m)
    obtain ⟨b, hb⟩ := Yield.exists_get? hapart.2 ((s.jump m).location.text n)
    refine ⟨.value (f a b), ?_, Or.inr ⟨a, b, rfl, ha, hb⟩⟩
    rw [Yield.read_eq hs hm ha, Yield.read_eq hm hn hb, addCounts_eq hvalid]
    rfl
  · refine ⟨.bare, ?_, Or.inl ⟨rfl, (Bool.and_eq_true_iff.1 hcollapse).1⟩⟩
    rw [addCounts_eq hvalid]
    rfl

namespace Parser

/-! ### What `flatMap` comes to -/

section FlatMap

variable {p : Parser α} {s : State}

theorem flatMap_of_cut (f : α → Parser β)
    (hcut : p (s.withSlicing false) = .error .unfinished) :
    p.flatMap f s = .error .unfinished := by
  rw [flatMap, hcut]
  rfl

/-- The first parser's value picks the second, which is run in the mode at hand. -/
theorem flatMap_of_read (f : α → Parser β) {y : Yield α} {n : Nat} {a : α} {next : State}
    (hok : p (s.withSlicing false) = .ok (.success y n))
    (ha : y.read (s.withSlicing false) n = .ok a) (hmove : s.advance n = .ok next) :
    p.flatMap f s = (do ((← f a next).withCommit (n != 0)).advance n) := by
  simp only [flatMap, hok, Outcome.read, ha, hmove, ok_bind, pure_eq_ok]

/-- Between valid places, the value can be read and the move can be made. -/
theorem flatMap_of_success (f : α → Parser β) {y : Yield α} {n : Nat} {a : α}
    (hs : s.location.Valid) (hn : (s.location.jump n).Valid)
    (hok : p (s.withSlicing false) = .ok (.success y n))
    (ha : y.get? (s.location.text n) = some a) :
    p.flatMap f s = (do ((← f a (s.jump n)).withCommit (n != 0)).advance n) :=
  flatMap_of_read f hok (Yield.read_eq hs hn ha) (State.advance_eq hn)

theorem flatMap_of_failure (f : α → Parser β) {e : ParseError} {committed : Bool}
    (hok : p (s.withSlicing false) = .ok (.failure e committed)) :
    p.flatMap f s = .ok (.failure e committed) := by
  simp only [flatMap, hok, Outcome.read, ok_bind, pure_eq_ok]

end FlatMap

/-! ### Primitives -/

namespace Safe

theorem succeed (a : α) : (succeed a).Safe := fun _ hs ↦
  Settles.ok (Outcome.within_value hs a)

theorem fail (message : String) : (fail message : Parser α).Safe := fun _ hs ↦
  Settles.ok (.failure (ParseError.liesIn_error hs message))

theorem literal (word : String) : (literal word).Safe := by
  intro s hs
  have hvalid := hs.jump_sharedFront word.toList
  rw [literal_eq hs]
  dsimp only
  split
  · rename_i hword
    rw [hword, Text.byteLength_toList] at hvalid
    exact Settles.ok (.success hvalid fun _ ↦ by split <;> exact nofun)
  · exact Settles.ok (.failure (ParseError.liesIn_error hvalid _))

theorem pattern (p : Pattern) : (pattern p).Safe := by
  intro s hs
  rw [pattern_eq hs]
  rcases hfind : p.find s.location.behind with - | found
  · exact Settles.ok (.failure (ParseError.liesIn_error hs _))
  · obtain ⟨rest, hrest⟩ := p.exists_of_find hfind
    exact Settles.ok (.success (hs.jump hrest) fun _ ↦ by split <;> exact nofun)

theorem eof : Parser.eof.Safe := by
  intro s hs
  rw [eof_eq hs]
  split
  · exact Settles.ok (Outcome.within_value hs ())
  · exact Settles.ok (.failure (ParseError.liesIn_error hs _))

theorem anyChar : Parser.anyChar.Safe := by
  intro s hs
  rw [anyChar_eq hs]
  split
  · rename_i c cs hbehind
    have hvalid := hs.jump (show s.location.behind = [c] ++ cs from hbehind)
    exact Settles.ok (.success hvalid fun _ ↦ nofun)
  · exact Settles.ok (.failure (ParseError.liesIn_error hs _))

/-! ### Alternatives, commitment and messages -/

section

variable {p q : Parser α}

theorem orElse (hp : p.Safe) (hq : q.Safe) : (p.orElse q).Safe := by
  intro s hs
  refine (hp s hs).bind ?_
  rintro _ (⟨hvalid, hbare⟩ | ⟨he⟩)
  · exact Settles.ok (.success hvalid hbare)
  · rename_i e committed
    cases committed
    · exact hq s hs
    · exact Settles.ok (.failure he)

/-- What is done to an answer alone keeps a parser safe if it keeps answers within the input. -/
theorem after {f : State → Outcome α → Outcome β} (hp : p.Safe)
    (hf : ∀ s o, s.location.Valid → o.Within s → (f s o).Within s) :
    Parser.Safe fun s ↦ return f s (← p s) := by
  intro s hs
  refine (hp s hs).bind fun o ho ↦ ?_
  exact Settles.ok (hf s o hs ho)

theorem attempt (hp : p.Safe) : p.attempt.Safe :=
  hp.after fun _ _ _ ho ↦ by
    rcases ho with ⟨hvalid, hbare⟩ | ⟨he⟩
    · exact .success hvalid hbare
    · exact .failure he

theorem scope (hp : p.Safe) (message : String) : (p.scope message).Safe :=
  hp.after fun _ _ hs ho ↦ by
    rcases ho with ⟨hvalid, hbare⟩ | ⟨he⟩
    · exact .success hvalid hbare
    · exact .failure (he.push hs message)

theorem label (hp : p.Safe) (message : String) : (p.label message).Safe :=
  hp.after fun _ _ _ ho ↦ by
    rcases ho with ⟨hvalid, hbare⟩ | ⟨he⟩
    · exact .success hvalid hbare
    · exact .failure (he.label message)

theorem retype (hp : p.Safe) (f : α → β) : (p.retype f).Safe :=
  hp.after fun _ o _ ho ↦ by
    rcases ho with ⟨hvalid, hbare⟩ | ⟨he⟩
    · exact .success hvalid fun hs ↦ Yield.map_ne_bare (hbare hs) f
    · exact .failure he

end

/-! ### Values -/

section

variable {p : Parser α}

theorem mapValue {s : State} {o : Outcome α} (hs : s.location.Valid) (ho : o.Within s)
    (f : α → β) : Settles (Outcome.Within s) (o.mapValue s f) := by
  rcases ho with ⟨hvalid, hbare⟩ | ⟨he⟩
  · rename_i y n
    by_cases hy : y = .bare
    · subst hy
      exact Settles.ok (.success hvalid fun h ↦ absurd rfl (hbare h))
    · obtain ⟨a, ha⟩ := Yield.exists_get? hy (s.location.text n)
      rw [Outcome.mapValue_eq hs hvalid ha]
      exact Settles.ok (.success hvalid fun _ ↦ nofun)
  · exact Settles.ok (.failure he)

theorem map (hp : p.Safe) (f : α → β) : (p.map f).Safe := by
  intro s hs
  exact (hp s hs).bind fun o ho ↦ mapValue hs ho f

theorem optional (hp : p.Safe) : p.optional.Safe := by
  intro s hs
  refine (hp s hs).bind fun o ho ↦ ?_
  split
  · exact Settles.ok (Outcome.within_value hs none)
  · exact mapValue hs ho some

theorem slice (hp : p.Safe) : p.slice.Safe := by
  intro s hs
  refine (hp (s.withSlicing true) hs).bind ?_
  rintro _ (⟨hvalid, -⟩ | ⟨he⟩)
  · exact Settles.ok (.success hvalid fun _ ↦ nofun)
  · exact Settles.ok (.failure he)

end

/-! ### Sequences -/

theorem map2 {p : Parser α} {q : Parser β} (hp : p.Safe) (hq : q.Safe) (f : α → β → γ) :
    (p.map2 q f).Safe := by
  intro s hs
  refine (hp s hs).bind ?_
  rintro _ (⟨hm, hy⟩ | ⟨he⟩)
  · rename_i y m
    simp only [State.advance_eq hm, ok_bind]
    refine (hq (s.jump m) hm).bind ?_
    rintro _ (⟨hn, hz⟩ | ⟨he⟩)
    · obtain ⟨w, hpair, hw⟩ := Outcome.exists_pair f hs hm hn fun hoff ↦ ⟨hy hoff, hz hoff⟩
      refine Or.inr ⟨_, hpair, .success (by simpa using hn) fun hoff ↦ ?_⟩
      rcases hw with ⟨-, hon⟩ | ⟨a, b, rfl, -⟩
      · cases hoff.symm.trans hon
      · exact nofun
    · exact Settles.ok (.failure he)
  · exact Settles.ok (.failure he)

theorem flatMap {p : Parser α} {f : α → Parser β} (hp : p.Safe) (hf : ∀ a, (f a).Safe) :
    (p.flatMap f).Safe := by
  intro s hs
  rcases hp (s.withSlicing false) hs with hcut | ⟨_, hok, ⟨hn, hy⟩ | ⟨he⟩⟩
  · exact Or.inl (flatMap_of_cut f hcut)
  · rename_i y n
    obtain ⟨a, ha⟩ := Yield.exists_get? (hy rfl) (s.location.text n)
    rw [flatMap_of_success f hs hn hok ha]
    refine (hf a (s.jump n) hn).bind ?_
    rintro _ (⟨hm, hz⟩ | ⟨he⟩)
    · rename_i z m
      have hvalid : (s.location.jump (m + n)).Valid := by
        rw [Nat.add_comm]
        simpa using hm
      simp only [Outcome.withCommit, Outcome.advance, Outcome.addCounts_eq hvalid, ok_bind]
      exact Settles.ok (.success hvalid hz)
    · exact Settles.ok (.failure he)
  · rw [flatMap_of_failure f hok]
    exact Settles.ok (.failure he)

end Safe
end Parser

end Descent
