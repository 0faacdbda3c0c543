import Descent.Proofs.Chain
import Descent.Proofs.Counting
import Descent.Proofs.Finishes

/-!
# Repetition is greedy iteration

The loop of a repetition makes the chain of turns that its bounds ask for, and answers as that chain
ends: `repeated_eq_iff`. This is all that one has to know of the loop, and it holds of any parser
whose successes stay in the input (`Parser.Stays`), whatever its failures are like and whether it
has faults or not. That a repetition of a safe parser is safe is read off it.

The loop itself asks for less: that turns begin and end at states which the parser does not lead
away from (`Parser.Carries`). In slicing mode no value is read, and such states may fall inside a
character.

What the loop keeps is `Progress.Underway`: the turns made so far are a chain that another turn may
follow, counts and values are those of the turns, and the budget is what the upper bound leaves, or,
without one, more than the bytes that are left. From there, `exists_concludes` follows the loop to
its end. In the other direction nothing is to be done, since repetitions end in one way.

The main statement is `repeated_iterates_greedily`. It is about bounds that can be met
(`Bounds.Meetable`), as those of `many`, `many1` and `listOfN` can: a success then always has as
many turns as the lower bound asks for.
-/

namespace Descent

variable {α : Type}

/-- Successes of the parser lead from states that satisfy `V` to such states again. These lie in the
input, and with slicing off a value can be read of the successes there. -/
structure Parser.Carries (p : Parser α) (V : State → Prop) : Prop where
  /-- The states lie in the input. -/
  inside : ∀ s, V s → s.location.Inside
  /-- A success leads to such a state. -/
  behind : ∀ s y n, V s → p s = .ok (.success y n) → V (s.jump n)
  /-- With slicing off, it has a value. -/
  reads : ∀ s y n, V s → s.sliced = false → p s = .ok (.success y n) → ∃ a, y.read s n = .ok a

/-- In slicing mode, the successes of the parser lead from places of a kind to such places again. -/
def Parser.SlicesWithin (p : Parser α) (here : Location → Prop) : Prop :=
  ∀ s y n, s.sliced = true → here s.location → p s = .ok (.success y n) →
    here (s.location.jump n)

theorem Parser.SlicesWithin.carries {p : Parser α} {here : Location → Prop}
    (hp : p.SlicesWithin here) (hinside : ∀ l, here l → l.Inside) :
    p.Carries fun s ↦ s.sliced = true ∧ here s.location where
  inside _ hs := hinside _ hs.2
  behind _ _ _ hs run := ⟨hs.1, hp _ _ _ hs.1 hs.2 run⟩
  reads _ _ _ hs hoff := nomatch hs.1.symm.trans hoff

/-- The successes of the parser lead from valid places to valid places, and are bare in slicing mode
only. -/
def Parser.Stays (p : Parser α) : Prop :=
  ∀ s y n, s.location.Valid → p s = .ok (.success y n) →
    (s.location.jump n).Valid ∧ (s.sliced = false → y ≠ .bare)

theorem Parser.Safe.stays {p : Parser α} (hp : p.Safe) : p.Stays := by
  intro s y n hs run
  obtain ⟨hn, hy⟩ | - := (hp s hs).of_ok run
  exact ⟨hn, hy⟩

theorem Parser.Stays.slicesWithin {p : Parser α} (hp : p.Stays) : p.SlicesWithin Location.Valid :=
  fun s y n _ hs run ↦ (hp s y n hs run).1

theorem Parser.Stays.carries {p : Parser α} (hp : p.Stays) :
    p.Carries fun s ↦ s.location.Valid where
  inside s hs := hs.inside
  behind s y n hs run := (hp s y n hs run).1
  reads s y n hs hoff run := by
    obtain ⟨hn, hbare⟩ := hp s y n hs run
    obtain ⟨a, ha⟩ := Yield.exists_get? (hbare hoff) (s.location.text n)
    exact ⟨a, Yield.read_eq hs hn ha⟩

theorem Parser.Chain.carries {p : Parser α} {V : State → Prop} (hp : p.Carries V) {s t : State}
    {turns : List (Turn α)} (h : p.Chain s turns t) (hs : V s) : V t := by
  induction h with
  | nil s => exact hs
  | cons run rest ih => exact ih (hp.behind _ _ _ hs run)

theorem Parser.Chain.valid {p : Parser α} (hp : p.Stays) {s t : State} {turns : List (Turn α)}
    (h : p.Chain s turns t) (hs : s.location.Valid) : t.location.Valid :=
  h.carries hp.carries hs

/-! ### The loop -/

/-- The loop of a repetition from `start` has made the turns `past`, and may make `budget` more. -/
structure Progress.Underway (done : Progress α) (p : Parser α) (b : Bounds) (start : State)
    (past : List (Turn α)) (budget : Nat) : Prop where
  /-- The turns lead to where the next one starts. -/
  chain : p.Chain start past (start.jump done.consumed)
  /-- With slicing off, their values have been read. -/
  values : start.sliced = false → past.mapM Turn.read = .ok done.values.reverse
  /-- Their count may grow. -/
  counted : done.Counted b budget
  /-- With an upper bound, the budget is what it leaves. -/
  bounded : ∀ k, b.most? = some k → past.length + budget = k
  /-- Without one, the budget is more than the bytes that are left. -/
  unbounded : b.most? = none → (start.jump done.consumed).left < budget
  /-- Without an upper bound, all turns have consumed something. -/
  consuming : b.most? = none → ∀ turn ∈ past, turn.consumed ≠ 0
  /-- The turns have been counted. -/
  count : done.count = past.length

namespace Progress

/-- A repetition that ends here gives what its turns do. -/
theorem exists_gathers {done : Progress α} {sliced : Bool} {turns : List (Turn α)}
    (h : sliced = false → turns.mapM Turn.read = .ok done.values.reverse) :
    ∃ w, done.outcome sliced = .success w done.consumed ∧ w.Gathers sliced turns := by
  cases sliced with
  | true => exact ⟨.bare, rfl, fun _ ↦ rfl, nofun⟩
  | false => exact ⟨.value done.values.reverse, rfl, nofun, fun _ ↦ ⟨_, h rfl, rfl⟩⟩

namespace Underway

variable {p : Parser α} {V : State → Prop} {b : Bounds} {start : State} {past : List (Turn α)}
  {budget n : Nat} {done : Progress α} {y : Yield α}

theorem continues (h : done.Underway p b start past (budget + 1)) : b.Continues past where
  bounded k hk := by
    have := h.bounded k hk
    omega
  unbounded := h.consuming

theorem chain_concat (h : done.Underway p b start past budget)
    (run : p (start.jump done.consumed) = .ok (.success y n)) :
    p.Chain start (past ++ [Turn.mk (start.jump done.consumed) y n])
      (start.jump (done.consumed + n)) := by
  simpa using h.chain.concat run

/-- The next turn can be added, and its value, if one is asked for, stands behind the others. -/
theorem exists_add (h : done.Underway p b start past (budget + 1)) (hp : p.Carries V)
    (hb : b.Fits) (hs : V start) (run : p (start.jump done.consumed) = .ok (.success y n)) :
    ∃ newest, done.add (start.jump done.consumed) y n = .ok (done.next newest n) ∧
      (start.sliced = false →
        (past ++ [Turn.mk (start.jump done.consumed) y n]).mapM Turn.read =
          .ok (done.next newest n).values.reverse) := by
  have hstate : V (start.jump done.consumed) := h.chain.carries hp hs
  have hhere : (start.location.jump done.consumed).Inside := hp.inside _ hstate
  have hnext : (start.location.jump (done.consumed + n)).Inside := by
    simpa using hp.inside _ (hp.behind _ _ _ hstate run)
  rcases hsliced : start.sliced with - | -
  · obtain ⟨a, hread⟩ := hp.reads _ _ _ hstate (by rwa [State.sliced_jump]) run
    have hadd : done.add (start.jump done.consumed) y n = .ok (done.next [a] n) :=
      add_eq_of_read h.counted hb hhere hnext (by rwa [State.sliced_jump]) hread
    refine ⟨[a], hadd, fun _ ↦ ?_⟩
    rw [List.mapM_append, h.values hsliced, List.mapM_cons, Turn.read, hread]
    simp
  · exact ⟨[], add_eq_of_sliced h.counted hb hhere hnext (by rwa [State.sliced_jump]), nofun⟩

/-- After a turn that was not the last one, the loop is as before, with one turn more. -/
theorem next (h : done.Underway p b start past (budget + 1)) (hp : p.Carries V)
    (hs : V start) (run : p (start.jump done.consumed) = .ok (.success y n))
    (hstall : b.stalls n = false) {newest : List α}
    (hvalues : start.sliced = false →
      (past ++ [Turn.mk (start.jump done.consumed) y n]).mapM Turn.read =
        .ok (done.next newest n).values.reverse) :
    (done.next newest n).Underway p b start
      (past ++ [Turn.mk (start.jump done.consumed) y n]) budget where
  chain := h.chain_concat run
  values := hvalues
  counted := h.counted.next hstall newest
  bounded k hk := by
    have := h.bounded k hk
    simp only [List.length_append, List.length_singleton]
    omega
  unbounded hnone := by
    have hn := hp.inside _ (hp.behind _ _ _ (h.chain.carries hp hs) run)
    have hleft : ((start.jump done.consumed).jump n).left + n = (start.jump done.consumed).left :=
      State.left_of_advance (State.advance_eq_of_inside hn)
    have hless := h.unbounded hnone
    have hconsumed : n ≠ 0 := Bounds.ne_zero_of_stalls hnone hstall
    rw [consumed_next, ← State.jump_jump]
    omega
  consuming hnone turn hturn := by
    rcases List.mem_append.1 hturn with hpast | hlast
    · exact h.consuming hnone turn hpast
    · rw [List.mem_singleton.1 hlast]
      exact Bounds.ne_zero_of_stalls hnone hstall
  count := by simp [h.count]

/-- The turns are used up: there are as many as there may be. Without an upper bound that does not
happen, so the loop is not cut off. -/
theorem most?_eq (h : done.Underway p b start past 0) : b.most? = some past.length := by
  rcases hmost : b.most? with - | k
  · exact absurd (h.unbounded hmost) (Nat.not_lt_zero _)
  · rw [← h.bounded k hmost, Nat.add_zero]

theorem concludes_full (h : done.Underway p b start past 0) :
    p.Concludes b start.sliced past (start.jump done.consumed)
      (.ok (done.outcome start.sliced)) := by
  obtain ⟨w, hw, hgathers⟩ := exists_gathers h.values
  rw [hw, h.chain.eq_total]
  have hfull := h.most?_eq
  have hadmits : b.Admits past :=
    ⟨fun k hk ↦ Nat.le_of_eq (Option.some.inj (hfull.symm.trans hk)),
      fun hnone ↦ nomatch hfull.symm.trans hnone⟩
  exact .success hadmits (fun hcontinues ↦ absurd hcontinues (Bounds.not_continues_of_full hfull))
    (.full hfull) hgathers

/-- An empty turn was the last one. -/
theorem concludes_empty (h : done.Underway p b start past (budget + 1))
    (run : p (start.jump done.consumed) = .ok (.success y n)) (hstall : b.stalls n = true)
    {newest : List α}
    (hvalues : start.sliced = false →
      (past ++ [Turn.mk (start.jump done.consumed) y n]).mapM Turn.read =
        .ok (done.next newest n).values.reverse) :
    p.Concludes b start.sliced (past ++ [Turn.mk (start.jump done.consumed) y n])
      (start.jump (done.next newest n).consumed)
      (.ok ((done.next newest n).outcome start.sliced)) := by
  obtain ⟨hnone, hempty⟩ := Bounds.stalls_iff.1 hstall
  obtain ⟨w, hw, hgathers⟩ := exists_gathers hvalues
  rw [hw, consumed_next, (h.chain_concat run).eq_total]
  have hover : ¬ b.Continues (past ++ [Turn.mk (start.jump done.consumed) y n]) :=
    Bounds.not_continues_of_empty hnone (List.mem_append_right past List.mem_cons_self) hempty
  exact .success (h.continues.admits_concat _) (fun hcontinues ↦ absurd hcontinues hover)
    (.empty hnone _ List.getLast?_concat hempty) hgathers

/-- The next turn fails, and does so without being the failure of the whole. -/
theorem concludes_failed (h : done.Underway p b start past (budget + 1)) {e : ParseError}
    (hleast : b.least ≤ done.count)
    (run : p (start.jump done.consumed) = .ok (.failure e false)) :
    p.Concludes b start.sliced past (start.jump done.consumed)
      (.ok (done.outcome start.sliced)) := by
  obtain ⟨w, hw, hgathers⟩ := exists_gathers h.values
  have hstops : p.Stops b past (start.jump done.consumed) := .failed e run
  rw [hw]
  rw [h.chain.eq_total] at hstops ⊢
  exact .success h.continues.admits (fun _ ↦ h.count ▸ hleast) hstops hgathers

end Underway

end Progress

namespace Parser

variable {p : Parser α} {V : State → Prop} {b : Bounds} {s : State}
  {x : Except Fault (Outcome (List α))}

/-- The loop makes a chain of turns and ends as that chain does. -/
theorem exists_concludes (hp : p.Carries V) (hb : b.Fits) {start : State}
    (hs : V start) {jump : Nat} {done : Progress α} {past : List (Turn α)}
    (budget : Nat) (hreach : s.jump jump = start.jump done.consumed)
    (h : done.Underway p b start past budget) :
    ∃ turns t, p.Chain start turns t ∧
      p.Concludes b start.sliced turns t (p.repeatLoop b budget s jump done) := by
  induction budget generalizing s jump done past with
  | zero =>
    rw [repeatLoop_zero_of_some p h.most?_eq, State.sliced_of_jump_eq hreach]
    exact ⟨past, _, h.chain, h.concludes_full⟩
  | succ budget ih =>
    have hinside := hp.inside _ (h.chain.carries hp hs)
    rw [repeatLoop, State.advance_of_jump_eq hreach hinside, ok_bind]
    rcases run : p (start.jump done.consumed) with fault | ⟨y, n⟩ | ⟨e, committed⟩
    · exact ⟨past, _, h.chain, .fault h.continues run⟩
    · obtain ⟨newest, hadd, hvalues⟩ := h.exists_add hp hb hs run
      simp only [ok_bind, hadd, State.sliced_of_jump_eq hreach]
      split
      · rename_i hstall
        exact ⟨_, _, h.chain_concat run, h.concludes_empty run hstall hvalues⟩
      · rename_i hstall
        exact ih (by simp) (h.next hp hs run (by simpa using hstall) hvalues)
    · simp only [ok_bind, State.sliced_of_jump_eq hreach, h.count]
      split
      · rename_i hfinal
        exact ⟨past, _, h.chain, .failure h.continues run (by simpa using hfinal)⟩
      · rename_i hfinal
        obtain ⟨rfl, hleast⟩ : committed = false ∧ b.least ≤ past.length := by simpa using hfinal
        exact ⟨past, _, h.chain, h.concludes_failed (h.count ▸ hleast) run⟩

/-- At the start, no turn has been made, and there are as many as bytes remain and more. -/
theorem underway_start (p : Parser α) (b : Bounds) (s : State) :
    (Progress.start : Progress α).Underway p b s [] (b.allowance s.left) where
  chain := by simpa [Progress.start] using Chain.nil (p := p) s
  values _ := rfl
  counted := Progress.counted_start b _
  bounded k hk := by simp [Bounds.allowance, hk]
  unbounded hnone := by
    simp [Progress.start, Bounds.allowance, hnone]
  consuming _ := nofun
  count := rfl

/-- **A repetition answers as its chain of turns ends.** -/
theorem Carries.repeated_eq_iff (hp : p.Carries V) (hb : b.Fits) (hs : V s) :
    p.repeated b s = x ↔ ∃ turns t, p.Chain s turns t ∧ p.Concludes b s.sliced turns t x := by
  obtain ⟨turns, t, hchain, hconcludes⟩ : ∃ turns t, p.Chain s turns t ∧
      p.Concludes b s.sliced turns t (p.repeated b s) :=
    exists_concludes hp hb hs _ (by simp [Progress.start]) (underway_start p b s)
  constructor
  · rintro rfl
    exact ⟨turns, t, hchain, hconcludes⟩
  · rintro ⟨turns', u, hchain', hconcludes'⟩
    exact hconcludes.unique hchain hchain' hconcludes'

theorem repeated_eq_iff (hp : p.Stays) (hb : b.Fits) (hs : s.location.Valid) :
    p.repeated b s = x ↔ ∃ turns t, p.Chain s turns t ∧ p.Concludes b s.sliced turns t x :=
  hp.carries.repeated_eq_iff hb hs

/-- A repetition of a safe parser leads to where its chain does, or fails as a run of the parser. -/
theorem Safe.repeated (hp : p.Safe) (hb : b.Fits) : (p.repeated b).Safe := by
  intro s hs
  obtain ⟨turns, t, hchain, hconcludes⟩ := (repeated_eq_iff hp.stays hb hs).1 rfl
  have hrun : Settles (Outcome.Within t) (p t) := hp t (hchain.valid hp.stays hs)
  have hinput : t.location.input = s.location.input := by rw [hchain.end_eq]; rfl
  generalize p.repeated b s = x at hconcludes
  cases hconcludes with
  | success admits enough stops gathers =>
    refine Settles.ok (.success ?_ gathers.ne_bare)
    rw [← State.location_jump, ← hchain.end_eq]
    exact hchain.valid hp.stays hs
  | failure continues run final =>
    obtain - | ⟨he⟩ := hrun.of_ok run
    exact Settles.ok (.failure (hinput ▸ he))
  | fault continues run => exact (run ▸ hrun).of_error

theorem Stays.repeated (hp : p.Stays) (hb : b.Fits) : (p.repeated b).Stays := by
  intro s w c hs run
  obtain ⟨turns, t, hchain, hconcludes⟩ := (repeated_eq_iff hp hb hs).1 run
  cases hconcludes with
  | success admits enough stops gathers =>
    refine ⟨?_, gathers.ne_bare⟩
    rw [← State.location_jump, ← hchain.end_eq]
    exact hchain.valid hp hs

/-- A repetition has an answer if all turns have one. -/
theorem exists_repeated_eq_ok (hp : p.Stays) (hb : b.Fits) (hs : s.location.Valid)
    (hanswers : ∀ t : State, t.location.Valid → t.sliced = s.sliced → ∃ o, p t = .ok o) :
    ∃ o, p.repeated b s = .ok o := by
  obtain ⟨turns, t, hchain, hconcludes⟩ := (repeated_eq_iff hp hb hs).1 rfl
  rcases h : p.repeated b s with fault | o
  · rw [h] at hconcludes
    cases hconcludes with
    | fault continues run =>
      have hsliced : t.sliced = s.sliced := by rw [hchain.end_eq, State.sliced_jump]
      obtain ⟨o, ho⟩ := hanswers t (hchain.valid hp hs) hsliced
      cases run.symm.trans ho
  · exact ⟨o, rfl⟩

end Parser

/-! ### Bounds that can be met -/

/-- A repetition within the bounds reaches the lower one: the upper bound is not below it, and
without an upper bound one turn is enough. The upper bound is a machine word. -/
structure Bounds.Meetable (b : Bounds) : Prop where
  /-- With an upper bound, the lower one is not above it. -/
  bounded : ∀ k, b.most? = some k → b.least ≤ k ∧ k < wordLimit
  /-- Without one, at most one turn is asked for. -/
  unbounded : b.most? = none → b.least ≤ 1

namespace Bounds

theorem Meetable.fits {b : Bounds} (h : b.Meetable) : b.Fits := fun k hk ↦
  (h.bounded k hk).2

/-- Turns that do not suffice may be followed by another one. -/
theorem Meetable.continues_of_lt {b : Bounds} (h : b.Meetable) {turns : List (Turn α)}
    (hfew : turns.length < b.least) : b.Continues turns where
  bounded k hk := Nat.lt_of_lt_of_le hfew (h.bounded k hk).1
  unbounded hnone := by
    have hnil : turns.length = 0 := Nat.lt_one_iff.1 (Nat.lt_of_lt_of_le hfew (h.unbounded hnone))
    rw [List.length_eq_zero_iff.1 hnil]
    exact nofun

theorem meetable_many : Meetable { least := 0, most? := none } :=
  ⟨nofun, fun _ ↦ Nat.zero_le 1⟩

theorem meetable_many1 : Meetable { least := 1, most? := none } :=
  ⟨nofun, fun _ ↦ Nat.le_refl 1⟩

theorem meetable_listOfN {n : Nat} (h : n < wordLimit) :
    Meetable { least := n, most? := some n } where
  bounded k hk := by
    cases hk
    exact ⟨Nat.le_refl n, h⟩
  unbounded := nofun

end Bounds

namespace Parser

variable {p : Parser α} {b : Bounds} {s : State}

/-- **A repetition is greedy iteration.** It succeeds over `c` bytes if and only if a chain of turns
leads there that is as long as it has to be and not longer than it may be, and that ends for one of
the three reasons of `Stops`; its values are those of the turns, in order. It fails if and only if
a chain that another turn may follow leads to a failure that commits or comes before there are
enough turns, and it fails with that. If all runs answer, then one of the two is the case. -/
theorem repeated_iterates_greedily (hp : p.Stays) (hb : b.Meetable) (hs : s.location.Valid) :
    (∀ w c, p.repeated b s = .ok (.success w c) ↔
      ∃ turns, p.Chain s turns (s.jump c) ∧ b.Admits turns ∧ b.least ≤ turns.length ∧
        p.Stops b turns (s.jump c) ∧ w.Gathers s.sliced turns) ∧
    (∀ e committed, p.repeated b s = .ok (.failure e committed) ↔
      ∃ turns t, p.Chain s turns t ∧ b.Continues turns ∧ p t = .ok (.failure e committed) ∧
        (committed = true ∨ turns.length < b.least)) ∧
    ((∀ t : State, t.location.Valid → ∃ o, p t = .ok o) → ∃ o, p.repeated b s = .ok o) := by
  refine ⟨fun w c ↦ ?_, fun e committed ↦ ?_, fun hanswers ↦ ?_⟩
  · rw [repeated_eq_iff hp hb.fits hs]
    constructor
    · rintro ⟨turns, t, hchain, hconcludes⟩
      cases hconcludes with
      | success admits enough stops gathers =>
        obtain rfl := hchain.end_eq
        have hleast : b.least ≤ turns.length := Nat.le_of_not_lt fun hfew ↦
          absurd (enough (hb.continues_of_lt hfew)) (Nat.not_le_of_lt hfew)
        exact ⟨turns, hchain, admits, hleast, stops, gathers⟩
    · rintro ⟨turns, hchain, admits, least, stops, gathers⟩
      obtain rfl := hchain.eq_total
      exact ⟨turns, _, hchain, .success admits (fun _ ↦ least) stops gathers⟩
  · rw [repeated_eq_iff hp hb.fits hs]
    constructor
    · rintro ⟨turns, t, hchain, hconcludes⟩
      cases hconcludes with
      | failure continues run final => exact ⟨turns, t, hchain, continues, run, final⟩
    · rintro ⟨turns, t, hchain, continues, run, final⟩
      exact ⟨turns, t, hchain, .failure continues run final⟩
  · obtain ⟨turns, t, hchain, hconcludes⟩ := (repeated_eq_iff hp hb.fits hs).1 rfl
    rcases h : p.repeated b s with fault | o
    · rw [h] at hconcludes
      cases hconcludes with
      | fault continues run =>
        obtain ⟨o, ho⟩ := hanswers t (hchain.valid hp hs)
        cases run.symm.trans ho
    · exact ⟨o, rfl⟩

/-- An optional word is found twice, and then a turn without it ends the repetition. -/
theorem many_optional_iterates :
    (literal "ab").optional.many (.start "ababx") =
      .ok (.success (.value [some "ab", some "ab", none]) 4) :=
  ((repeated_iterates_greedily (Safe.literal "ab").optional.stays Bounds.meetable_many
    (Location.valid_start (by decide))).1 _ 4).2
    ⟨_, .cons rfl (.cons rfl (.cons rfl (.nil _))), ⟨nofun, by decide⟩, Nat.zero_le 3,
      .empty rfl _ rfl rfl, ⟨nofun, fun _ ↦ ⟨_, rfl, rfl⟩⟩⟩

end Parser

end Descent
