import Descent.Parser.Repetition
import Descent.Proofs.Place

/-!
# Where a run is cut off

Calls of rules are cut off, and loops that have used up their budget. Moving, reading and counting
have other faults (`StepFaults`), so a combinator is cut off only where one of its parts is, at a
state where it runs that part. This module has a lemma for each combinator that runs a part at more
than one state, and says which states these are. That loops do not use up their budget takes more
(`Parser.finishes_repeated`).

States that are reached lie further on: what a move leaves of the input is less by the bytes that it
passed over (`State.left_of_advance`).
-/

namespace Descent

variable {α β γ : Type}

/-! ### Moving, reading and counting -/

theorem stepFaults_addCounts (m n : Nat) : StepFaults (addCounts m n) := by
  unfold addCounts
  split
  · exact .ok _
  · exact .error (by decide)

theorem Location.stepFaults_advance (l : Location) (n : Nat) : StepFaults (l.advance n) := by
  refine (stepFaults_addCounts l.offset n).bind fun offset ↦ ?_
  split
  · exact .ok _
  · exact .error (by decide)

namespace State

/-- The number of bytes behind the state's offset. -/
def left (s : State) : Nat :=
  s.location.input.utf8ByteSize - s.offset

theorem stepFaults_advance (s : State) (n : Nat) : StepFaults (s.advance n) :=
  (s.location.stepFaults_advance n).bind fun _ ↦ .ok _

theorem stepFaults_rest (s : State) : StepFaults s.rest := by
  rw [State.rest, Location.rest]
  cases s.location.rest? with
  | none => exact .error (by decide)
  | some cs => exact .ok cs

theorem stepFaults_span (s : State) (n : Nat) : StepFaults (s.span n) := by
  refine s.stepFaults_rest.bind fun cs ↦ ?_
  cases Text.takeBytes? cs n with
  | none => exact .error (by decide)
  | some passed => exact .ok _

/-- What a move leaves, together with the bytes that it passed over, is what there was. -/
theorem left_of_advance {s t : State} {n : Nat} (h : s.advance n = .ok t) :
    t.left + n = s.left := by
  obtain ⟨-, hle, rfl⟩ := advance_eq_ok_iff.1 h
  have hleft : (s.jump n).left = s.location.input.utf8ByteSize - (s.offset + n) := rfl
  rw [hleft, left]
  omega

end State

theorem Yield.stepFaults_read (y : Yield α) (s : State) (n : Nat) : StepFaults (y.read s n) := by
  cases y with
  | value a => exact .ok a
  | text f => exact (s.stepFaults_span n).bind fun t ↦ .ok (f t)
  | bare => exact .error (by decide)

namespace Outcome

theorem stepFaults_read (o : Outcome α) (s : State) : StepFaults (o.read s) := by
  cases o with
  | success y n => exact (y.stepFaults_read s n).bind fun a ↦ .ok _
  | failure e committed => exact .ok _

/-- A value that has been read is that of a success. -/
theorem read_eq_value_iff {o : Outcome α} {s : State} {a : α} {n : Nat} :
    o.read s = .ok (.value a n) ↔ ∃ y, o = .success y n ∧ y.read s n = .ok a := by
  constructor
  · intro h
    cases o with
    | success y m =>
      rcases hread : y.read s m with fault | b
      · simp only [read, hread] at h
        cases h
      · simp only [read, hread] at h
        cases h
        exact ⟨y, rfl, hread⟩
    | failure e committed => cases h
  · rintro ⟨y, rfl, hread⟩
    rw [read, hread]
    rfl

theorem stepFaults_mapValue (o : Outcome α) (s : State) (f : α → β) :
    StepFaults (o.mapValue s f) := by
  cases o with
  | success y n =>
    cases y with
    | value a => exact .ok _
    | text g => exact ((Yield.text g).stepFaults_read s n).bind fun a ↦ .ok _
    | bare => exact .ok _
  | failure e committed => exact .ok _

theorem stepFaults_advance (o : Outcome α) (n : Nat) : StepFaults (o.advance n) := by
  cases o with
  | success y m => exact (stepFaults_addCounts m n).bind fun k ↦ .ok _
  | failure e committed => exact .ok _

theorem stepFaults_pair (f : α → β → γ) (s next : State) (y : Yield α) (m : Nat) (z : Yield β)
    (n : Nat) : StepFaults (pair f s next y m z n) := by
  unfold pair
  split
  · exact (stepFaults_addCounts m n).bind fun k ↦ .ok _
  · refine (y.stepFaults_read s m).bind fun a ↦ (z.stepFaults_read next n).bind fun b ↦ ?_
    exact (stepFaults_addCounts m n).bind fun k ↦ .ok _

theorem stepFaults_extract (o : Outcome α) (input : String) : StepFaults (o.extract input) := by
  refine (o.stepFaults_read (.start input)).bind fun r ↦ ?_
  cases r with
  | value a n => exact .ok _
  | failure e committed => exact .ok _

end Outcome

theorem Progress.stepFaults_add (done : Progress α) (here : State) (y : Yield α) (n : Nat) :
    StepFaults (done.add here y n) := by
  have hcount : ∀ values : List α, StepFaults (do
      let count ← addCounts done.count 1
      let consumed ← addCounts done.consumed n
      return ({ values, count, consumed } : Progress α)) := by
    intro values
    refine (stepFaults_addCounts done.count 1).bind fun count ↦ ?_
    exact (stepFaults_addCounts done.consumed n).bind fun consumed ↦ .ok _
  unfold add
  split
  · exact hcount done.values
  · exact (y.stepFaults_read here n).bind fun a ↦ hcount (a :: done.values)

/-! ### Combinators -/

namespace Parser

variable {p : Parser α} {s : State}

theorem finishes_literal (word : String) (s : State) : Finishes (literal word s) := by
  refine s.stepFaults_rest.finishes.bind fun text _ ↦ ?_
  rcases firstMismatch word.toList text with - | n
  · dsimp only
    split
    · exact nofun
    · exact (s.stepFaults_span _).finishes.bind fun t _ ↦ finishes_ok _
  · exact (s.location.stepFaults_advance n).finishes.bind fun place _ ↦ finishes_ok _

theorem finishes_pattern (p : Pattern) (s : State) : Finishes (pattern p s) := by
  refine s.stepFaults_rest.finishes.bind fun text _ ↦ ?_
  rcases p.find text with - | found
  · exact nofun
  · dsimp only
    split <;> exact nofun

theorem finishes_eof (s : State) : Finishes (eof s) := by
  refine s.stepFaults_rest.finishes.bind fun text _ ↦ ?_
  cases text <;> exact nofun

theorem finishes_anyChar (s : State) : Finishes (anyChar s) := by
  refine s.stepFaults_rest.finishes.bind fun text _ ↦ ?_
  cases text <;> exact nofun

theorem finishes_orElse {q : Parser α} (hp : Finishes (p s)) (hq : Finishes (q s)) :
    Finishes (p.orElse q s) := by
  refine hp.bind fun o _ ↦ ?_
  split
  · exact hq
  · exact nofun

theorem finishes_optional (hp : Finishes (p s)) : Finishes (p.optional s) := by
  refine hp.bind fun o _ ↦ ?_
  split
  · exact nofun
  · exact (o.stepFaults_mapValue s some).finishes

theorem finishes_map2 {q : Parser β} (hp : Finishes (p s))
    (hq : ∀ y m next, p s = .ok (.success y m) → s.advance m = .ok next → Finishes (q next))
    (f : α → β → γ) : Finishes (p.map2 q f s) := by
  refine hp.bind fun o hok ↦ ?_
  cases o with
  | success y m =>
    refine (s.stepFaults_advance m).finishes.bind fun next hnext ↦ ?_
    refine (hq y m next hok hnext).bind fun o' _ ↦ ?_
    cases o' with
    | success z n => exact (Outcome.stepFaults_pair f s next y m z n).finishes
    | failure e committed => exact nofun
  | failure e committed => exact nofun

theorem finishes_flatMap {f : α → Parser β} (hp : Finishes (p (s.withSlicing false)))
    (hf : ∀ y n next, p (s.withSlicing false) = .ok (.success y n) → s.advance n = .ok next →
      ∀ a, Finishes (f a next)) : Finishes (p.flatMap f s) := by
  refine hp.bind fun o hok ↦ ?_
  refine (o.stepFaults_read (s.withSlicing false)).finishes.bind fun r hread ↦ ?_
  cases r with
  | value a n =>
    obtain ⟨y, rfl, -⟩ := Outcome.read_eq_value_iff.1 hread
    refine (s.stepFaults_advance n).finishes.bind fun next hnext ↦ ?_
    exact (hf y n next hok hnext a).bind fun o' _ ↦ (Outcome.stepFaults_advance _ n).finishes
  | failure e committed => exact nofun

end Parser

end Descent
