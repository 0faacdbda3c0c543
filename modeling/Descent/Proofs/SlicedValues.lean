import Descent.Proofs.Slicing

/-!
# Values seen under slicing

With slicing on, a parser may still give a value, or a text that a value can be made of, and `map`
and `map2` will apply their functions to it. It ought to be the value that the parser gives with
slicing off. This module says when it is.

Two kinds of parts fail it. A pattern that is found further on than it is looked for gives the match
with slicing off, and everything up to its end with slicing on. And `flatMap` hands on a slice of
its continuation as it is, with a length that counts what its first parser consumed; whoever reads
it begins too early (`sizeOfB_misreads`). Everything else keeps values as they are: a plan and its
rules have true values in all their parts if and only if they have no parts of these two kinds
(`sliced_values_real_iff`).
-/

namespace Descent

variable {ι : Type} {ρ : ι → Type} {α β : Type}

/-- Plain parts may be relied on for values. -/
theorem Plan.Plain.readsTrue {g : Grammar ρ} {q : Plan ρ α} (h : q.Plain) : g.ReadsTrue q := by
  intro depth
  cases q with
  | pattern p => exact h
  | flatMap p f => exact h.elim
  | _ => trivial

namespace Grammar

/-- A value that the plan gives with slicing on, wherever it is run, is the one that it gives with
slicing off. -/
def ReadsAlike (g : Grammar ρ) (q : Plan ρ α) : Prop :=
  ∀ s : State, s.location.Valid → ∀ z n a, g.Ends q (s.withSlicing true) (.ok (.success z n)) →
    z.read s n = .ok a →
      ∃ y, g.Ends q (s.withSlicing false) (.ok (.success y n)) ∧ y.read s n = .ok a

variable {g : Grammar ρ}

/-- What is made of parts that may be relied on for values has true values. -/
theorem Lawful.readsAlike (hg : g.Lawful) {q : Plan ρ α} (hq : q.Lawful)
    (hrules : ∀ r, (g.body r).Every g.ReadsTrue) (htrue : q.Every g.ReadsTrue) :
    g.ReadsAlike q := by
  intro s hs z n a hon ha
  obtain ⟨_, heq, ⟨hn, -⟩ | -⟩ := hon.within hg hq hs
  · cases heq
    obtain ⟨-, depth, hrun⟩ := hon
    have htied : (g.parserAt depth q).Tied True :=
      hg.tied hq (fun _ ↦ hrules) (fun _ ↦ htrue) depth
    rcases htied s hs with ⟨-, hcut⟩ | ⟨_, _, hoff, hon, hagrees | _⟩
    · cases hcut.symm.trans hrun
    · cases hon.symm.trans hrun
      have hget := (hagrees trivial).get? (Yield.get?_of_read_eq hs hn ha)
      exact ⟨_, ends_of_ok hoff, Yield.read_eq hs hn hget⟩
    · cases hon.symm.trans hrun
  · cases heq

/-- Without `flatMap` and without patterns that are found further on, all values are true. -/
theorem Lawful.readsAlike_of_plain (hg : g.Lawful) (hplain : g.Plain) {q : Plan ρ α}
    (hq : q.Lawful) (hparts : q.Every Plan.Plain) : g.ReadsAlike q :=
  hg.readsAlike hq (fun r ↦ (hplain r).imp fun _ ↦ Plan.Plain.readsTrue)
    (hparts.imp fun _ ↦ Plan.Plain.readsTrue)

/-! ### The parts that fail -/

/-- A run gives one value, so what a plan gives with slicing on can be compared with it. -/
theorem ReadsAlike.eq_of_ends {q : Plan ρ α} (h : g.ReadsAlike q) {s : State} {y z : Yield α}
    {n : Nat} {a b : α} (hs : s.location.Valid) (hn : (s.location.jump n).Valid)
    (hoff : g.Ends q (s.withSlicing false) (.ok (.success y n)))
    (hon : g.Ends q (s.withSlicing true) (.ok (.success z n)))
    (ha : y.get? (s.location.text n) = some a) (hb : z.get? (s.location.text n) = some b) :
    a = b := by
  obtain ⟨y', hoff', hread⟩ := h s hs z n b hon (Yield.read_eq hs hn hb)
  cases hoff.unique hoff'
  have hget := Yield.get?_of_read_eq hs hn hread
  rw [ha] at hget
  exact Option.some.inj hget

theorem ReadsAlike.anchored {p : Pattern} (h : g.ReadsAlike (.pattern p)) : p.Anchored := by
  intro cs found hcs hfind
  let s := State.start (String.ofList cs)
  have hs : s.location.Valid := Location.valid_start (by simpa using hcs)
  have hbehind : s.location.behind = cs := by simp [s, State.start, Location.behind]
  obtain ⟨rest, hrest⟩ := p.exists_of_find hfind
  have hrun : ∀ mode, g.parserAt 0 (.pattern p) (s.withSlicing mode) =
      .ok (.success (if mode then .text id else .value (String.ofList found.text))
        (Text.byteLength (found.skipped ++ found.text))) := by
    intro mode
    refine (Parser.pattern_eq (s := s.withSlicing mode) hs p).trans ?_
    rw [State.location_withSlicing, hbehind, hfind]
    rfl
  have hpassed := hbehind.trans hrest
  have hsame := h.eq_of_ends hs (hs.jump hpassed) (ends_of_ok (hrun false)) (ends_of_ok (hrun true))
    rfl rfl
  rw [hs.text_eq hpassed] at hsame
  exact List.self_eq_append_left.1 (String.ofList_injective hsame)

theorem ReadsAlike.not_misreads (hg : g.Lawful) {p : Plan ρ α} {f : α → Plan ρ β}
    (hp : (p.flatMap f).Lawful) (h : g.ReadsAlike (p.flatMap f)) (depth : Nat) {s : State}
    (hs : s.location.Valid) :
    ¬ (g.parserAt depth p).Misreads (fun a ↦ g.parserAt depth (f a)) s := by
  rintro ⟨y, n, a, v, read, m, hok, ha, hoff, hon, hdiffer⟩
  obtain ⟨hn, -⟩ | - := (hg.safe depth hp.2.1 (s.withSlicing false) hs).of_ok hok
  obtain ⟨hm, -⟩ | - :=
    (hg.safe depth (hp.2.2 a) ((s.jump n).withSlicing false) hn).of_ok hoff
  have hvalid : (s.location.jump (m + n)).Valid := by
    rw [Nat.add_comm]
    simpa using hm
  -- `flatMap` answers with what its continuation gives, over the length of both.
  have hrun : ∀ mode z, g.parserAt depth (f a) ((s.jump n).withSlicing mode) = .ok (.success z m) →
      g.Ends (p.flatMap f) (s.withSlicing mode) (.ok (.success z (m + n))) := by
    intro mode z hz
    refine ends_of_ok (show g.parserAt depth (p.flatMap f) (s.withSlicing mode) = _ from ?_)
    refine (Parser.flatMap_of_success (s := s.withSlicing mode)
      (fun a ↦ g.parserAt depth (f a)) hs hn hok ha).trans ?_
    rw [State.jump_withSlicing, hz, ok_bind, Outcome.withCommit, Outcome.advance,
      Outcome.addCounts_eq hvalid]
    rfl
  have hsame := h.eq_of_ends hs hvalid (hrun _ _ hoff) (hrun _ _ hon) rfl rfl
  rw [Nat.add_comm] at hsame
  exact hdiffer hsame.symm

/-- The parts of a plan whose values are true in all parts may be relied on. -/
theorem Lawful.every_readsTrue (hg : g.Lawful) {p : Plan ρ α} (hp : p.Lawful)
    (h : p.Every g.ReadsAlike) : p.Every g.ReadsTrue := by
  have hparts : p.Every fun q ↦ q.Lawful ∧ g.ReadsAlike q := (Plan.Every.every hp).and h
  refine hparts.imp fun q ⟨hq, hread⟩ depth ↦ ?_
  cases q with
  | pattern p => exact hread.anchored
  | flatMap p f => exact fun s hs ↦ hread.not_misreads hg hq depth hs
  | _ => trivial

/-- **When values seen under slicing are the real ones.** In all parts of a lawful plan and of its
rules, values given with slicing on are those given with slicing off, if and only if all patterns
among these parts are found only where they are looked for and no `flatMap` misreads. Since the
plans under `map` and `map2` are parts too, their functions see no other values under slicing
then. -/
theorem sliced_values_real_iff (hg : g.Lawful) {p : Plan ρ α} (hp : p.Lawful) :
    (p.Every g.ReadsAlike ∧ ∀ r, (g.body r).Every g.ReadsAlike) ↔
      p.Every g.ReadsTrue ∧ ∀ r, (g.body r).Every g.ReadsTrue := by
  constructor
  · rintro ⟨hread, hrules⟩
    exact ⟨hg.every_readsTrue hp hread, fun r ↦ hg.every_readsTrue (hg r) (hrules r)⟩
  · rintro ⟨htrue, hrules⟩
    have hparts : ∀ {β : Type} {q : Plan ρ β}, q.Lawful → q.Every g.ReadsTrue →
        q.Every g.ReadsAlike := fun hq hqtrue ↦
      ((Plan.Every.every hq).and hqtrue.every).imp fun _ ⟨hlawful, h⟩ ↦
        hg.readsAlike hlawful hrules h
    exact ⟨hparts hp htrue, fun r ↦ hparts (hg r) (hrules r)⟩

/-- Brackets around an `x` have true values under slicing in all their parts. -/
theorem nested_reads_alike : (nested.body ()).Every nested.ReadsAlike := by
  have htrue : (nested.body ()).Every nested.ReadsTrue :=
    (nested_plain ()).imp fun _ hq ↦ Plan.Plain.readsTrue hq
  exact ((sliced_values_real_iff nested_lawful (nested_lawful ())).2 ⟨htrue, fun _ ↦ htrue⟩).1

/-- An `a` and then a `b`, and how many bytes the `b` has. -/
def sizeOfB : Plan (fun _ : Unit ↦ Nat) Nat :=
  ((Plan.literal "a").flatMap fun _ ↦ .literal "b").map String.utf8ByteSize

/-- With slicing off the `b` is measured, and with slicing on it is both letters. -/
theorem sizeOfB_misreads :
    sizeOfB.Lawful ∧ (State.start "ab").location.Valid ∧
      nested.Ends sizeOfB ((State.start "ab").withSlicing false) (.ok (.success (.value 1) 2)) ∧
      nested.Ends sizeOfB ((State.start "ab").withSlicing true) (.ok (.success (.value 2) 2)) ∧
      ¬ nested.ReadsAlike sizeOfB := by
  have hs : (State.start "ab").location.Valid := Location.valid_start (by decide)
  have hend : ((State.start "ab").location.jump 2).Valid := ⟨by decide, rfl⟩
  have hoff : nested.Ends sizeOfB ((State.start "ab").withSlicing false)
      (.ok (.success (.value 1) 2)) := ⟨nofun, 0, rfl⟩
  have hon : nested.Ends sizeOfB ((State.start "ab").withSlicing true)
      (.ok (.success (.value 2) 2)) := ⟨nofun, 0, rfl⟩
  refine ⟨⟨trivial, trivial, trivial, fun _ ↦ trivial⟩, hs, hoff, hon, fun h ↦ ?_⟩
  exact absurd (h.eq_of_ends hs hend hoff hon rfl rfl) (by decide)

end Grammar

end Descent
