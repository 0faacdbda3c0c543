import Descent.Proofs.NoFault
import Descent.Proofs.TwoModes

/-!
# What slicing recognizes

The two runs of `Parser.Tied`, taken through plans, rules and depths of calls. Asked for no values,
the relation holds of all lawful plans, and so slicing does not change what is recognized
(`slicing_recognizes_alike`): a plan succeeds with the same length and fails with the same error in
both modes, and `slice` gives exactly the text that its plan consumes. Asked for values, it needs
the patterns and the `flatMap`s to be such that they may be relied on, `Plan.ReadsTrue`.
-/

namespace Descent

variable {ι : Type} {ρ : ι → Type} {α β : Type}

namespace Plan

/-- A part that may be relied on for values in slicing mode, where `call` says what the rules do. -/
def ReadsTrue (call : ∀ r, Parser (ρ r)) : {α : Type} → Plan ρ α → Prop
  | _, pattern p => p.Anchored
  | _, flatMap p f =>
    ∀ s : State, s.location.Valid → ¬ (p.parser call).Misreads (fun a ↦ (f a).parser call) s
  | _, _ => True

open Descent.Parser in
/-- A lawful plan does the same in both modes if its rules do. For values to agree as well, its
patterns and its `flatMap`s have to be relied on. -/
theorem Lawful.tied {values : Prop} {call : ∀ r, Parser (ρ r)} (hsafe : ∀ r, (call r).Safe)
    (hcall : ∀ r, (call r).Tied values) {p : Plan ρ α} (hp : p.Lawful)
    (htrue : values → p.Every (ReadsTrue call)) : (p.parser call).Tied values := by
  induction p with
  | succeed a => exact Tied.of_blind (Safe.succeed a) fun _ _ ↦ rfl
  | fail message => exact Tied.of_blind (Safe.fail message) fun _ _ ↦ rfl
  | literal word => exact Tied.literal word
  | pattern p => exact Tied.pattern htrue
  | eof => exact Tied.of_blind Safe.eof fun _ _ ↦ rfl
  | anyChar => exact Tied.of_blind Safe.anyChar fun _ _ ↦ rfl
  | ofParser p => exact Tied.of_blind hp.1 hp.2
  | rule r => exact hcall r
  | orElse p q ihp ihq =>
    exact (ihp hp.2.1 fun h ↦ (htrue h).2.1).orElse (ihq hp.2.2 fun h ↦ (htrue h).2.2)
  | flatMap p f ihp ihf =>
    exact Tied.flatMap (fun a ↦ ihf a (hp.2.2 a) fun h ↦ (htrue h).2.2 a) (Lawful.safe hsafe hp.2.1)
      (fun a ↦ Lawful.safe hsafe (hp.2.2 a)) fun h ↦ (htrue h).1
  | map p f ih => exact (ih hp.2 fun h ↦ (htrue h).2).map (Lawful.safe hsafe hp.2) f
  | map2 p q f ihp ihq =>
    exact (ihp hp.2.1 fun h ↦ (htrue h).2.1).map2 (ihq hp.2.2 fun h ↦ (htrue h).2.2)
      (Lawful.safe hsafe hp.2.1) (Lawful.safe hsafe hp.2.2) f
  | repeated p b ih =>
    exact (ih hp.2 fun h ↦ (htrue h).2).repeated (Lawful.safe hsafe hp.2) hp.1
  | slice p ih => exact Tied.slice (Lawful.safe hsafe hp.2)
  | attempt p ih => exact (ih hp.2 fun h ↦ (htrue h).2).attempt
  | scope p message ih => exact (ih hp.2 fun h ↦ (htrue h).2).scope message
  | label p message ih => exact (ih hp.2 fun h ↦ (htrue h).2).label message
  | optional p ih => exact (ih hp.2 fun h ↦ (htrue h).2).optional (Lawful.safe hsafe hp.2)
  | retype p f ih => exact (ih hp.2 fun h ↦ (htrue h).2).retype f
  | inMode p sliced ih => exact hp.1.elim

end Plan

namespace Grammar

/-- A part that may be relied on for values in slicing mode, however deep calls may go. -/
def ReadsTrue (g : Grammar ρ) (q : Plan ρ α) : Prop :=
  ∀ depth, q.ReadsTrue (g.call depth)

variable {g : Grammar ρ} {p : Plan ρ α}

theorem Lawful.tied_call {values : Prop} (hg : g.Lawful)
    (hrules : values → ∀ r, (g.body r).Every g.ReadsTrue) (depth : Nat) (r : ι) :
    (g.call depth r).Tied values := by
  induction depth generalizing r with
  | zero => exact fun s _ ↦ Or.inl ⟨rfl, rfl⟩
  | succ depth ih =>
    exact (hg r).tied (hg.safe_call depth) ih fun h ↦ (hrules h r).imp fun _ hq ↦ hq depth

theorem Lawful.tied {values : Prop} (hg : g.Lawful) (hp : p.Lawful)
    (hrules : values → ∀ r, (g.body r).Every g.ReadsTrue) (htrue : values → p.Every g.ReadsTrue)
    (depth : Nat) : (g.parserAt depth p).Tied values :=
  hp.tied (hg.safe_call depth) (hg.tied_call hrules depth) fun h ↦
    (htrue h).imp fun _ hq ↦ hq depth

/-! ### Recognition -/

section Recognition

variable {s : State} {mode : Bool}

/-- Once one of the two runs has ended, both have, and with outcomes that are alike. -/
theorem Ends.both {answer : Except Fault (Outcome α)} (h : g.Ends p (s.withSlicing mode) answer)
    (hg : g.Lawful) (hp : p.Lawful) (hs : s.location.Valid) :
    ∃ o o', g.Ends p (s.withSlicing false) (.ok o) ∧ g.Ends p (s.withSlicing true) (.ok o') ∧
      o.Alike o' := by
  obtain ⟨hne, depth, rfl⟩ := h
  -- The two runs are cut off together, and this one of them is not.
  have htied : (g.parserAt depth p).Tied False := hg.tied hp nofun nofun depth
  rcases htied s hs with ⟨hoff, hon⟩ | ⟨o, o', hoff, hon, ho⟩
  · cases mode
    · exact absurd hoff hne
    · exact absurd hon hne
  · exact ⟨o, o', ends_of_ok hoff, ends_of_ok hon, ho.alike⟩

/-- A run that has ended in one mode ends in each mode, with an outcome like the first one. -/
theorem Ends.inMode {o : Outcome α} (h : g.Ends p (s.withSlicing mode) (.ok o)) (hg : g.Lawful)
    (hp : p.Lawful) (hs : s.location.Valid) (other : Bool) :
    ∃ o', g.Ends p (s.withSlicing other) (.ok o') ∧ o.Alike o' := by
  obtain ⟨off, on, hoff, hon, halike⟩ := h.both hg hp hs
  cases mode <;> cases other
  · exact ⟨o, h, .refl o⟩
  · cases h.unique hoff
    exact ⟨on, hon, halike⟩
  · cases h.unique hon
    exact ⟨off, hoff, halike.symm⟩
  · exact ⟨o, h, .refl o⟩

/-- A slice is what the plan ends with in slicing mode, with the text in place of the value. -/
theorem ends_slice_iff {o : Outcome String} :
    g.Ends p.slice s (.ok o) ↔ ∃ o', g.Ends p (s.withSlicing true) (.ok o') ∧ o'.toSlice = o := by
  constructor
  · rintro ⟨-, depth, hok⟩
    have hslice : (do return (← g.parserAt depth p (s.withSlicing true)).toSlice) =
        (.ok o : Except Fault (Outcome String)) := hok
    rcases hrun : g.parserAt depth p (s.withSlicing true) with f | o'
    · rw [hrun] at hslice
      cases hslice
    · rw [hrun] at hslice
      cases hslice
      exact ⟨o', ends_of_ok hrun, rfl⟩
  · rintro ⟨o', ⟨-, depth, hrun⟩, rfl⟩
    refine ends_of_ok (show g.parserAt depth p.slice s = _ from ?_)
    change (do return (← g.parserAt depth p (s.withSlicing true)).toSlice) = _
    rw [hrun]
    rfl

theorem ends_slice_success_iff (hg : g.Lawful) (hp : p.Lawful) (hs : s.location.Valid)
    {z : Yield String} {n : Nat} :
    g.Ends p.slice s (.ok (.success z n)) ↔
      z = .text id ∧ ∃ y, g.Ends p s (.ok (.success y n)) := by
  rw [ends_slice_iff]
  constructor
  · rintro ⟨y | ⟨e, committed⟩, hrun, heq⟩
    · cases heq
      obtain ⟨_, hrun', ⟨_, y', _⟩ | _⟩ := hrun.inMode hg hp hs s.sliced
      exact ⟨rfl, y', hrun'⟩
    · cases heq
  · rintro ⟨rfl, y, hrun⟩
    have hmode : g.Ends p (s.withSlicing s.sliced) (.ok (.success y n)) := hrun
    obtain ⟨_, hrun', ⟨_, y', _⟩ | _⟩ := hmode.inMode hg hp hs true
    exact ⟨_, hrun', rfl⟩

theorem ends_slice_failure_iff (hg : g.Lawful) (hp : p.Lawful) (hs : s.location.Valid)
    {e : ParseError} {committed : Bool} :
    g.Ends p.slice s (.ok (.failure e committed)) ↔ g.Ends p s (.ok (.failure e committed)) := by
  rw [ends_slice_iff]
  constructor
  · rintro ⟨y | _, hrun, heq⟩
    · cases heq
    · cases heq
      obtain ⟨_, hrun', _ | _⟩ := hrun.inMode hg hp hs s.sliced
      exact hrun'
  · intro hrun
    have hmode : g.Ends p (s.withSlicing s.sliced) (.ok (.failure e committed)) := hrun
    obtain ⟨_, hrun', _ | _⟩ := hmode.inMode hg hp hs true
    exact ⟨_, hrun', rfl⟩

/-- What a success consumed is a text in front of its state, and a slice of that length reads it. -/
theorem Ends.exists_passed {y : Yield α} {n : Nat} (h : g.Ends p s (.ok (.success y n)))
    (hg : g.Lawful) (hp : p.Lawful) (hs : s.location.Valid) :
    ∃ passed behind, s.rest = .ok (passed ++ behind) ∧ Text.byteLength passed = n ∧
      (Outcome.slice n).read s = .ok (.value (String.ofList passed) n) := by
  obtain ⟨_, heq, hwithin⟩ := h.within hg hp hs
  cases heq
  rcases hwithin with ⟨hn, -⟩ | -
  obtain ⟨passed, hbehind, hlength, htext⟩ := hs.exists_text hn
  refine ⟨passed, (s.location.jump n).behind, ?_, hlength, ?_⟩
  · rw [State.rest_eq hs, hbehind]
  · have hread : (Yield.text id).read s n = .ok (String.ofList passed) :=
      Yield.read_eq hs hn (congrArg some htext)
    rw [Outcome.slice, Outcome.read, hread]
    rfl

/-- **Slicing does not change what is recognized.** At a valid place, a lawful plan ends with
slicing off if and only if it does with slicing on, and its outcomes are alike then. So a slice
succeeds where its plan does and gives the text that was consumed, and it fails as its plan does. -/
theorem slicing_recognizes_alike (hg : g.Lawful) (hp : p.Lawful) {s : State}
    (hs : s.location.Valid) :
    ((∃ answer, g.Ends p (s.withSlicing false) answer) ↔
      ∃ answer, g.Ends p (s.withSlicing true) answer) ∧
    (∀ off on, g.Ends p (s.withSlicing false) off → g.Ends p (s.withSlicing true) on →
      ∃ o o', off = .ok o ∧ on = .ok o' ∧ o.Alike o') ∧
    (∀ z n, g.Ends p.slice s (.ok (.success z n)) ↔
      z = .text id ∧ ∃ y, g.Ends p s (.ok (.success y n))) ∧
    (∀ y n, g.Ends p s (.ok (.success y n)) →
      ∃ passed behind, s.rest = .ok (passed ++ behind) ∧ Text.byteLength passed = n ∧
        (Outcome.slice n).read s = .ok (.value (String.ofList passed) n)) ∧
    (∀ e committed, g.Ends p.slice s (.ok (.failure e committed)) ↔
      g.Ends p s (.ok (.failure e committed))) := by
  refine ⟨⟨fun ⟨_, h⟩ ↦ ?_, fun ⟨_, h⟩ ↦ ?_⟩, fun off on hoff hon ↦ ?_,
    fun _ _ ↦ ends_slice_success_iff hg hp hs, fun _ _ h ↦ h.exists_passed hg hp hs,
    fun _ _ ↦ ends_slice_failure_iff hg hp hs⟩
  · obtain ⟨_, o', -, hon, -⟩ := h.both hg hp hs
    exact ⟨_, hon⟩
  · obtain ⟨o, _, hoff, -, -⟩ := h.both hg hp hs
    exact ⟨_, hoff⟩
  · obtain ⟨o, o', hoff', hon', halike⟩ := hoff.both hg hp hs
    exact ⟨o, o', hoff.unique hoff', hon.unique hon', halike⟩

/-- An `x` in brackets is sliced together with its brackets. -/
theorem nested_slice_text :
    nested.Ends (Plan.rule ()).slice (.start "(x)!") (.ok (.success (.text id) 3)) := by
  have hrun : nested.Ends (.rule ()) (.start "(x)!") (.ok (.success (.value 1) 3)) :=
    ⟨nofun, 4, rfl⟩
  have hstart : (State.start "(x)!").location.Valid := Location.valid_start (by decide)
  have halike := slicing_recognizes_alike nested_lawful (p := .rule ()) trivial hstart
  exact (halike.2.2.1 _ _).2 ⟨rfl, _, hrun⟩

end Recognition

end Grammar

end Descent
