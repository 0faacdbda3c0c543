import Descent.Proofs.Sequence
import Descent.Proofs.Slicing

/-!
# Sequences by continuation

`map` and `map2` can be written with `flatMap`: the value of the first plan picks what to do next.
The two forms of a sequence take different ways. The one with `flatMap` runs its first plan with
slicing off, reads its value before the second plan is run, and commits what follows; the other one
hands its mode down, and reads both values last or not at all. Here it is said how far they agree.

With slicing off they have the same values. In slicing mode `map2` may be bare where the other form
has a value, but both recognize the same text: this rests on slicing not changing what the first
plan recognizes (`Parser.Tied`). What is left is commitment, which `Outcome.Restaged` ties to the
answer of the first plan: the form with `flatMap` commits besides if that has consumed something.
-/

namespace Descent

variable {ι : Type} {ρ : ι → Type} {α β γ δ : Type}

/-- The answers of a sequence without and with a continuation, where the first part has come to
`first`. -/
inductive Outcome.Restaged (first : Outcome α) (sliced : Bool) : Outcome γ → Outcome γ → Prop
  /-- Both succeed over the same length, and with slicing off they have the same to give. -/
  | success {w w' : Yield γ} {n : Nat} (yields : sliced = false → w = w') :
      Restaged first sliced (.success w n) (.success w' n)
  /-- Both fail with the same error. The second is committed if the first is, or if the first part
  has succeeded and consumed something. -/
  | failure {e : ParseError} {committed committed' : Bool}
      (commits : committed' = true ↔ committed = true ∨ ∃ n, first.consumed? = some n ∧ n ≠ 0) :
      Restaged first sliced (.failure e committed) (.failure e committed')

namespace Parser

variable {p : Parser α} {q : Parser β} {s : State}

/-- With slicing off, a function of the value is a continuation that succeeds with it. -/
theorem map_eq_flatMap_succeed (hp : p.Safe) (hs : s.location.Valid) (hoff : s.sliced = false)
    (h : α → β) : p.map h s = p.flatMap (fun a ↦ succeed (h a)) s := by
  have hsame : s.withSlicing false = s := hoff ▸ s.withSlicing_sliced
  rcases hp s hs with hcut | ⟨_, run, ⟨hn, hy⟩ | -⟩
  · rw [flatMap_of_cut _ (hsame ▸ hcut), map, hcut]
    rfl
  · rename_i y n
    obtain ⟨a, ha⟩ := Yield.exists_get? (hy hoff) (s.location.text n)
    have hsum : addCounts 0 n = .ok (0 + n) :=
      Outcome.addCounts_eq (l := s.location) (by rwa [Nat.zero_add])
    rw [flatMap_of_success _ hs hn (hsame ▸ run) ha, map, run, ok_bind,
      Outcome.mapValue_eq hs hn ha]
    simp only [succeed, Outcome.value, Outcome.withCommit, Outcome.advance, hsum, ok_bind,
      pure_eq_ok, Nat.zero_add]
  · rw [flatMap_of_failure _ (hsame ▸ run), map, run]
    rfl

/-- The run with slicing off beside the one in the mode at hand. -/
theorem Tied.lockstep_off (hp : p.Tied False) (hsafe : p.Safe) (hs : s.location.Valid) :
    Lockstep (fun o o' ↦ o.Alike o' ∧ (s.sliced = false → o = o')) (p (s.withSlicing false))
      (p s) := by
  rcases hsliced : s.sliced with - | -
  · have hsame : s.withSlicing false = s := hsliced ▸ s.withSlicing_sliced
    rw [hsame]
    rcases hsafe s hs with hcut | ⟨o, run, -⟩
    · exact Or.inl ⟨hcut, hcut⟩
    · exact Or.inr ⟨o, o, run, run, .refl o, fun _ ↦ rfl⟩
  · have hsame : s.withSlicing true = s := hsliced ▸ s.withSlicing_sliced
    rcases hsame ▸ hp s hs with hcut | ⟨o, o', hoff, hon, ho⟩
    · exact Or.inl hcut
    · exact Or.inr ⟨o, o', hoff, hon, ho.alike, nofun⟩

/-- A function of the value keeps the length, and is applied to whatever value there is. -/
theorem exists_map_of_success {h : β → γ} {z : Yield β} {n : Nat} (hs : s.location.Valid)
    (hn : (s.location.jump n).Valid) (run : q s = .ok (.success z n)) :
    ∃ w, q.map h s = .ok (.success w n) ∧
      ∀ b, z.get? (s.location.text n) = some b → w = .value (h b) := by
  by_cases hz : z = .bare
  · subst hz
    exact ⟨.bare, by rw [map, run]; rfl, nofun⟩
  · obtain ⟨b, hb⟩ := Yield.exists_get? hz (s.location.text n)
    refine ⟨.value (h b), ?_, fun b' hb' ↦ ?_⟩
    · rw [map, run, ok_bind, Outcome.mapValue_eq hs hn hb]
      rfl
    · cases hb.symm.trans hb'
      rfl

/-- Behind a success of the first part, the two forms of a sequence run the second part in the same
state. The value `a` is that of the first part with slicing off. -/
theorem lockstep_behind_success {y y' : Yield α} {m : Nat} {a : α} (hq : q.Safe) (f : α → β → γ)
    (hs : s.location.Valid) (hm : (s.location.jump m).Valid) (hy : y ≠ .bare)
    (hyy' : s.sliced = false → y = y') (ha : y.get? (s.location.text m) = some a) :
    Lockstep (Outcome.Restaged (.success y' m) s.sliced)
      (do
        match ← q (s.jump m) with
        | .failure e committed => return .failure e committed
        | .success z n => Outcome.pair f s (s.jump m) y' m z n)
      (do ((← q.map (f a) (s.jump m)).withCommit (m != 0)).advance m) := by
  rcases hq (s.jump m) hm with hcut | ⟨_, run, ⟨hn, hz⟩ | -⟩
  · exact Or.inl ⟨by rw [hcut]; rfl, by rw [map, hcut]; rfl⟩
  · rename_i z n
    obtain ⟨w', hmap, hw'⟩ := exists_map_of_success (h := f a) hm hn run
    obtain ⟨w, hpair, hw⟩ := Outcome.exists_pair f hs hm hn fun hoff ↦ ⟨hyy' hoff ▸ hy, hz hoff⟩
    have hend : (s.location.jump (n + m)).Valid := by
      rw [Nat.add_comm]
      simpa using hn
    rw [run, hmap]
    simp only [ok_bind, hpair, Outcome.withCommit, Outcome.advance, Outcome.addCounts_eq hend,
      pure_eq_ok, Nat.add_comm m n]
    refine Lockstep.ok (.success fun hoff ↦ ?_)
    rcases hw with ⟨-, hon⟩ | ⟨a', b, rfl, ha', hb⟩
    · cases hoff.symm.trans hon
    · cases (hyy' hoff ▸ ha).symm.trans ha'
      exact (hw' b hb).symm
  · rename_i e committed
    rw [map, run]
    exact Lockstep.ok (.failure (by simp [Outcome.consumed?]))

/-- The two forms of a sequence are cut off together, or give answers that differ in commitment
only, and in slicing mode in what they have to give. -/
theorem lockstep_map2_flatMap (hp : p.Tied False) (hpsafe : p.Safe) (hqsafe : q.Safe)
    (f : α → β → γ) (hs : s.location.Valid) :
    Lockstep (fun o o' ↦ ∃ first, p s = .ok first ∧ Outcome.Restaged first s.sliced o o')
      (p.map2 q f s) (p.flatMap (fun a ↦ q.map (f a)) s) := by
  rcases hp.lockstep_off hpsafe hs with
    ⟨hcutoff, hcut⟩ | ⟨_, _, hoff, hon, ⟨y, y', m⟩ | ⟨e, committed⟩, hmode⟩
  · exact Or.inl ⟨map2_of_error hcut, flatMap_of_cut _ hcutoff⟩
  · obtain ⟨hvalid, hy⟩ | - := (hpsafe (s.withSlicing false) hs).of_ok hoff
    have hm : (s.location.jump m).Valid := hvalid
    obtain ⟨a, ha⟩ := Yield.exists_get? (hy rfl) (s.location.text m)
    have hyy' : s.sliced = false → y = y' := fun hsliced ↦
      (Outcome.success.inj (hmode hsliced)).1
    rw [map2_of_success hm hon, flatMap_of_success _ hs hm hoff ha]
    exact (lockstep_behind_success hqsafe f hs hm (hy rfl) hyy' ha).imp fun _ _ h ↦ ⟨_, hon, h⟩
  · rw [map2_of_failure hon, flatMap_of_failure _ hoff]
    exact Lockstep.ok ⟨_, hon, .failure (by simp [Outcome.consumed?])⟩

end Parser

namespace Grammar

variable {g : Grammar ρ} {p : Plan ρ α} {q : Plan ρ β} {s : State}

/-- If two plans give the same at each depth, then their runs end with the same. -/
theorem ends_iff_of_forall {p q : Plan ρ α}
    (h : ∀ depth, g.parserAt depth p s = g.parserAt depth q s)
    (answer : Except Fault (Outcome α)) : g.Ends p s answer ↔ g.Ends q s answer := by
  simp only [Ends, h]

/-- Runs that keep in step at each depth end together, and their answers are related. -/
theorem ends_of_lockstep {p : Plan ρ α} {q : Plan ρ β} {R : Outcome α → Outcome β → Prop}
    (h : ∀ depth, Lockstep R (g.parserAt depth p s) (g.parserAt depth q s)) :
    ((∃ answer, g.Ends p s answer) ↔ ∃ answer, g.Ends q s answer) ∧
      ∀ answer answer', g.Ends p s answer → g.Ends q s answer' →
        ∃ o o', answer = .ok o ∧ answer' = .ok o' ∧ R o o' := by
  have hboth : ∀ depth, g.parserAt depth p s ≠ .error .unfinished ∨
      g.parserAt depth q s ≠ .error .unfinished →
      ∃ o o', g.Ends p s (.ok o) ∧ g.Ends q s (.ok o') ∧ R o o' := by
    intro depth hends
    rcases h depth with ⟨hcut, hcut'⟩ | ⟨o, o', hp, hq, ho⟩
    · exact absurd hends (by simp [hcut, hcut'])
    · exact ⟨o, o', ends_of_ok hp, ends_of_ok hq, ho⟩
  refine ⟨⟨?_, ?_⟩, ?_⟩
  · rintro ⟨_, hne, depth, rfl⟩
    obtain ⟨o, o', -, hq, -⟩ := hboth depth (Or.inl hne)
    exact ⟨_, hq⟩
  · rintro ⟨_, hne, depth, rfl⟩
    obtain ⟨o, o', hp, -, -⟩ := hboth depth (Or.inr hne)
    exact ⟨_, hp⟩
  · rintro answer answer' hends hends'
    obtain ⟨hne, depth, rfl⟩ := id hends
    obtain ⟨o, o', hp, hq, ho⟩ := hboth depth (Or.inl hne)
    exact ⟨o, o', hends.unique hp, hends'.unique hq, ho⟩

/-- **`map` and `map2` agree with their forms by `flatMap` except for commitment.** At a valid place
and with slicing off, a function of the value is the continuation that succeeds with it: the runs
end with the same answers. In either mode, a sequence ends if and only if its form by continuation
does. Both succeed then over the same length, and with slicing off with the same values; or both
fail with the same error, and the form by continuation is committed if and only if the other one is
or the first plan has succeeded there and consumed something. -/
theorem sequences_agree_by_continuation (hg : g.Lawful) (hp : p.Lawful) (hq : q.Lawful)
    (h : α → δ) (f : α → β → γ) (hs : s.location.Valid) :
    (s.sliced = false → ∀ answer,
      g.Ends (p.map h) s answer ↔ g.Ends (p.flatMap fun a ↦ .succeed (h a)) s answer) ∧
    ((∃ answer, g.Ends (p.map2 q f) s answer) ↔
      ∃ answer, g.Ends (p.flatMap fun a ↦ q.map (f a)) s answer) ∧
    (∀ answer answer', g.Ends (p.map2 q f) s answer →
      g.Ends (p.flatMap fun a ↦ q.map (f a)) s answer' →
      ∃ first o o', g.Ends p s (.ok first) ∧ answer = .ok o ∧ answer' = .ok o' ∧
        Outcome.Restaged first s.sliced o o') := by
  have hlockstep : ∀ depth, Lockstep
      (fun o o' ↦ ∃ first, g.Ends p s (.ok first) ∧ Outcome.Restaged first s.sliced o o')
      (g.parserAt depth (p.map2 q f) s)
      (g.parserAt depth (p.flatMap fun a ↦ q.map (f a)) s) := fun depth ↦
    (Parser.lockstep_map2_flatMap (hg.tied hp nofun nofun depth) (hg.safe depth hp)
      (hg.safe depth hq) f hs).imp fun _ _ ⟨first, hfirst, ho⟩ ↦ ⟨first, ends_of_ok hfirst, ho⟩
  refine ⟨fun hoff ↦ ends_iff_of_forall fun depth ↦ ?_, (ends_of_lockstep hlockstep).1,
    fun answer answer' hends hends' ↦ ?_⟩
  · exact Parser.map_eq_flatMap_succeed (hg.safe depth hp) hs hoff h
  · obtain ⟨o, o', hok, hok', first, hfirst, ho⟩ :=
      (ends_of_lockstep hlockstep).2 answer answer' hends hends'
    exact ⟨first, o, o', hfirst, hok, hok', ho⟩

/-- Brackets and a missing `!` behind them. Neither part commits, and so the sequence does not; the
form by continuation does, since it has passed over the brackets. -/
theorem nested_restaged :
    ∃ e, nested.Ends ((Plan.rule ()).map2 (.literal "!") Prod.mk) (.start "(x)?")
        (.ok (.failure e false)) ∧
      nested.Ends ((Plan.rule ()).flatMap fun a ↦ (Plan.literal "!").map (Prod.mk a))
        (.start "(x)?") (.ok (.failure e true)) := by
  have hs : (State.start "(x)?").location.Valid := Location.valid_start (by decide)
  have hfirst : nested.Ends (.rule ()) (.start "(x)?") (.ok (.success (.value 1) 3)) :=
    ⟨nofun, 4, rfl⟩
  have hplain : nested.Ends ((Plan.rule ()).map2 (.literal "!") Prod.mk) (.start "(x)?")
      (.ok (.failure (((Location.start "(x)?").jump 3).error "'!'") false)) := ⟨nofun, 4, rfl⟩
  obtain ⟨-, hboth, hagree⟩ := sequences_agree_by_continuation nested_lawful (p := .rule ())
    (q := .literal "!") trivial trivial id Prod.mk hs
  obtain ⟨answer, hends⟩ := hboth.1 ⟨_, hplain⟩
  obtain ⟨_, _, _, hfirst', hok, rfl, hrestaged⟩ := hagree _ _ hplain hends
  cases hok
  cases hfirst.unique hfirst'
  cases hrestaged with
  | failure commits =>
    obtain rfl := commits.2 (Or.inr ⟨3, rfl, by decide⟩)
    exact ⟨_, hplain, hends⟩

end Grammar

end Descent
