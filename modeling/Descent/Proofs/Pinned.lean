import Descent.Plan
import Descent.Proofs.Place

/-!
# The mode by position

Where a part of a plan is run depends on the input, but in which mode it is run does not: that is
fixed by the position of the part and by the mode in which the whole plan is run. Slicing is on
inside of a `slice`, off inside of the first part of a `flatMap`, and otherwise as it is for what
the part belongs to. `Plan.pinned` makes this explicit. It walks down a plan from the mode of the
whole, and puts every parser from outside, wherever it stands, in the mode of its position.

Pinning changes nothing (`mode_fixed_by_position`), whatever parsers from outside do with the mode
that they are given, and whatever faults they have. So slicing is switched back on behind the first
part of a `flatMap`, does not leak out of a `slice`, and is handed on through all turns of a
repetition.

Plans that do the same in one mode need not do so in the other, so the proof compares parsers in one
mode at a time (`Parser.SameIn`). A move does not change the mode, which is all that the lemmas on
sequences and repetitions need to know of it.
-/

namespace Descent

variable {ι : Type} {ρ : ι → Type} {α β γ : Type}

/-- A move does not change the mode. -/
theorem State.sliced_of_advance {s t : State} {n : Nat} (h : s.advance n = .ok t) :
    t.sliced = s.sliced := by
  obtain ⟨-, -, rfl⟩ := advance_eq_ok_iff.1 h
  exact sliced_jump s n

/-- In this mode, the parsers do the same. -/
def Parser.SameIn (mode : Bool) (p q : Parser α) : Prop :=
  ∀ s : State, s.sliced = mode → p s = q s

namespace Parser.SameIn

variable {mode : Bool}

theorem refl (mode : Bool) (p : Parser α) : SameIn mode p p := fun _ _ ↦
  rfl

/-- A parser that is put in a mode is the parser itself in that mode. -/
theorem inMode_self (mode : Bool) (p : Parser α) : SameIn mode (p.inMode mode) p := by
  rintro s rfl
  exact congrArg p s.withSlicing_sliced

section

variable {p p' q q' : Parser α}

theorem orElse (hp : SameIn mode p' p) (hq : SameIn mode q' q) :
    SameIn mode (p'.orElse q') (p.orElse q) := by
  intro s hs
  rw [Parser.orElse, Parser.orElse, hp s hs, hq s hs]

/-- Nothing depends on how the answer of a single parser is used. -/
theorem after (hp : SameIn mode p' p) (k : State → Outcome α → Except Fault (Outcome β)) :
    SameIn mode (fun s ↦ p' s >>= k s) fun s ↦ p s >>= k s := by
  intro s hs
  dsimp only
  rw [hp s hs]

/-- What a slice is made of runs with slicing on. -/
theorem slice (hp : SameIn true p' p) : SameIn mode p'.slice p.slice := by
  intro s _
  rw [Parser.slice, Parser.slice, hp (s.withSlicing true) rfl]

theorem inMode {other : Bool} (hp : SameIn other p' p) :
    SameIn mode (p'.inMode other) (p.inMode other) := fun s _ ↦
  hp (s.withSlicing other) rfl

theorem map2 {r r' : Parser β} (hp : SameIn mode p' p) (hr : SameIn mode r' r)
    (f : α → β → γ) : SameIn mode (p'.map2 r' f) (p.map2 r f) := by
  intro s hs
  rw [Parser.map2, Parser.map2, hp s hs]
  refine bind_congr fun o ↦ ?_
  cases o with
  | success y m =>
    refine bind_congr_of_ok fun next hnext ↦ ?_
    rw [hr next ((State.sliced_of_advance hnext).trans hs)]
  | failure e committed => rfl

/-- Slicing is off for the first parser only. -/
theorem flatMap {f f' : α → Parser β} (hp : SameIn false p' p)
    (hf : ∀ a, SameIn mode (f' a) (f a)) : SameIn mode (p'.flatMap f') (p.flatMap f) := by
  intro s hs
  rw [Parser.flatMap, Parser.flatMap, hp (s.withSlicing false) rfl]
  refine bind_congr fun o ↦ bind_congr fun r ↦ ?_
  cases r with
  | value a n =>
    refine bind_congr_of_ok fun next hnext ↦ ?_
    rw [hf a next ((State.sliced_of_advance hnext).trans hs)]
  | failure e committed => rfl

theorem repeated (hp : SameIn mode p' p) (b : Bounds) :
    SameIn mode (p'.repeated b) (p.repeated b) := by
  intro s hs
  unfold Parser.repeated
  -- All turns are in the mode of the first one, whichever budget, jump and progress they have.
  generalize b.allowance _ = budget
  generalize 0 = jump
  generalize Progress.start = done
  induction budget generalizing s jump done with
  | zero => rfl
  | succ budget ih =>
    rw [Parser.repeatLoop, Parser.repeatLoop]
    refine bind_congr_of_ok fun here hmove ↦ ?_
    have hhere : here.sliced = mode := (State.sliced_of_advance hmove).trans hs
    rw [hp here hhere]
    refine bind_congr fun o ↦ ?_
    cases o with
    | success y n =>
      refine bind_congr fun done' ↦ ?_
      rw [ih here hhere n done']
    | failure e committed => rfl

end

end Parser.SameIn

/-! ### Plans -/

namespace Plan

/-- The plan with each parser from outside put in the mode of its position, where `mode` is that of
the plan as a whole. -/
def pinned (mode : Bool) : {α : Type} → Plan ρ α → Plan ρ α
  | _, ofParser p => ofParser (p.inMode mode)
  | _, orElse p q => (p.pinned mode).orElse (q.pinned mode)
  | _, flatMap p f => (p.pinned false).flatMap fun a ↦ (f a).pinned mode
  | _, map p f => (p.pinned mode).map f
  | _, map2 p q f => (p.pinned mode).map2 (q.pinned mode) f
  | _, repeated p b => (p.pinned mode).repeated b
  | _, slice p => (p.pinned true).slice
  | _, attempt p => (p.pinned mode).attempt
  | _, scope p message => (p.pinned mode).scope message
  | _, label p message => (p.pinned mode).label message
  | _, optional p => (p.pinned mode).optional
  | _, retype p f => (p.pinned mode).retype f
  | _, inMode p sliced => (p.pinned sliced).inMode sliced
  | _, p => p

/-- In the mode that it is pinned for, a pinned plan does what the plan does. -/
theorem sameIn_pinned (call : ∀ r, Parser (ρ r)) (mode : Bool) (p : Plan ρ α) :
    Parser.SameIn mode ((p.pinned mode).parser call) (p.parser call) := by
  induction p generalizing mode with
  | ofParser p => exact .inMode_self mode p
  | orElse p q ihp ihq => exact (ihp mode).orElse (ihq mode)
  | flatMap p f ihp ihf => exact (ihp false).flatMap fun a ↦ ihf a mode
  | map p f ih => exact (ih mode).after _
  | map2 p q f ihp ihq => exact (ihp mode).map2 (ihq mode) f
  | repeated p b ih => exact (ih mode).repeated b
  | slice p ih => exact (ih true).slice
  | attempt p ih | scope p _ ih | label p _ ih | optional p ih | retype p _ ih =>
    exact (ih mode).after _
  | inMode p sliced ih => exact (ih sliced).inMode
  | _ => exact .refl mode _

/-- **The mode of a part is fixed by its position.** At any state, a plan gives the answer, fault or
outcome, that it gives with all parsers from outside put in the modes of their positions. What rules
do does not matter, so this holds in particular of plans without rules. -/
theorem mode_fixed_by_position (call : ∀ r, Parser (ρ r)) (p : Plan ρ α) (s : State) :
    (p.pinned s.sliced).parser call s = p.parser call s :=
  p.sameIn_pinned call s.sliced s rfl

/-- What a fixed value is given for is sliced, but not the part that picks how it goes on. -/
example (p : Parser α) (q : Parser β) (c : γ) (mode : Bool) :
    (((ofParser p).flatMap fun _ ↦ ofParser q).giving c : Plan ρ γ).pinned mode =
      ((ofParser (p.inMode false)).flatMap fun _ ↦ ofParser (q.inMode true)).giving c := rfl

end Plan

end Descent
