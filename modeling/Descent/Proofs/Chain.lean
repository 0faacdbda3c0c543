import Descent.Parser.Repetition
import Descent.Proofs.Safe

/-!
# Chains of turns

A repetition without its loop: runs of the parser, each of which starts where the last one has
ended. Such a chain is a list of turns, `Parser.Chain`, and every front of it is one as well. What a
repetition asks for is said of chains, in three parts. Its bounds say after which chains another
turn may follow, `Bounds.Continues`, and which chains there may be at all, `Bounds.Admits`: a chain
within the upper bound, or, without one, a chain of which no turn but the last is empty. And the
answer says how the chain came to an end, `Parser.Concludes`.

No loop and no count of turns that are left is mentioned here. The relation nevertheless settles the
answer, since one chain that comes to an end is never the front of another that does
(`Concludes.unique`).
-/

namespace Descent

variable {α : Type}

/-- One run of the parser that is repeated. -/
structure Turn (α : Type) where
  /-- Where the parser was run. -/
  start : State
  /-- What the success had to give. -/
  yield : Yield α
  /-- The number of bytes that the success consumed. -/
  consumed : Nat

namespace Turn

/-- The value of the turn, read where the turn started. -/
def read (turn : Turn α) : Except Fault α :=
  turn.yield.read turn.start turn.consumed

/-- The number of bytes that the turns consumed together. -/
def total : List (Turn α) → Nat
  | [] => 0
  | turn :: turns => turn.consumed + total turns

@[simp]
theorem total_nil : total ([] : List (Turn α)) = 0 :=
  rfl

@[simp]
theorem total_cons (turn : Turn α) (turns : List (Turn α)) :
    total (turn :: turns) = turn.consumed + total turns :=
  rfl

@[simp]
theorem total_append (turns more : List (Turn α)) :
    total (turns ++ more) = total turns + total more := by
  induction turns with
  | nil => rw [List.nil_append, total_nil, Nat.zero_add]
  | cons turn turns ih => rw [List.cons_append, total_cons, total_cons, ih, Nat.add_assoc]

end Turn

/-- These turns lead from the first state to the other, each from where the last one has ended. -/
inductive Parser.Chain (p : Parser α) : State → List (Turn α) → State → Prop where
  /-- No turns. -/
  | nil (s : State) : Chain p s [] s
  /-- A turn, and those that follow it. -/
  | cons {s t : State} {y : Yield α} {n : Nat} {turns : List (Turn α)}
      (run : p s = .ok (.success y n)) (rest : Chain p (s.jump n) turns t) :
      Chain p s ({ start := s, yield := y, consumed := n } :: turns) t

namespace Parser.Chain

variable {p : Parser α} {s t u : State} {turns more : List (Turn α)}

theorem append (h : p.Chain s turns t) (h' : p.Chain t more u) : p.Chain s (turns ++ more) u := by
  induction h with
  | nil s => exact h'
  | cons run rest ih => exact .cons run (ih h')

/-- A chain grows by a run where it has ended. -/
theorem concat (h : p.Chain s turns t) {y : Yield α} {n : Nat} (run : p t = .ok (.success y n)) :
    p.Chain s (turns ++ [{ start := t, yield := y, consumed := n }]) (t.jump n) :=
  h.append (.cons run (.nil _))

/-- A chain ends behind what its turns consumed. -/
theorem end_eq (h : p.Chain s turns t) : t = s.jump (Turn.total turns) := by
  induction h with
  | nil s => simp
  | cons run rest ih => rw [ih, State.jump_jump, Turn.total_cons]

theorem eq_total {n : Nat} (h : p.Chain s turns (s.jump n)) : n = Turn.total turns := by
  have hoffset : s.location.offset + n = s.location.offset + Turn.total turns :=
    congrArg (·.location.offset) h.end_eq
  omega

/-- Of two chains from one state, one is the front of the other. -/
theorem front (h : p.Chain s turns t) {turns' : List (Turn α)} (h' : p.Chain s turns' u) :
    (∃ more, turns' = turns ++ more ∧ p.Chain t more u) ∨
      ∃ more, turns = turns' ++ more ∧ p.Chain u more t := by
  induction h generalizing turns' with
  | nil s => exact Or.inl ⟨turns', rfl, h'⟩
  | cons run rest ih =>
    cases h' with
    | nil s => exact Or.inr ⟨_, rfl, .cons run rest⟩
    | cons run' rest' =>
      cases run.symm.trans run'
      rcases ih rest' with ⟨more, rfl, hmore⟩ | ⟨more, rfl, hmore⟩
      · exact Or.inl ⟨more, rfl, hmore⟩
      · exact Or.inr ⟨more, rfl, hmore⟩

end Parser.Chain

/-! ### What the bounds allow for -/

/-- The chain is within the upper bound. Without one, no turn but the last is empty. -/
structure Bounds.Admits (b : Bounds) (turns : List (Turn α)) : Prop where
  /-- With an upper bound, there are no more turns. -/
  bounded : ∀ k, b.most? = some k → turns.length ≤ k
  /-- Without one, the turns before the last one consume something. -/
  unbounded : b.most? = none → ∀ turn ∈ turns.dropLast, turn.consumed ≠ 0

/-- Another turn may follow the chain. -/
structure Bounds.Continues (b : Bounds) (turns : List (Turn α)) : Prop where
  /-- With an upper bound, there are fewer turns. -/
  bounded : ∀ k, b.most? = some k → turns.length < k
  /-- Without one, all turns consume something. -/
  unbounded : b.most? = none → ∀ turn ∈ turns, turn.consumed ≠ 0

namespace Bounds

variable {b : Bounds} {turns more : List (Turn α)} {turn : Turn α}

theorem Continues.admits (h : b.Continues turns) : b.Admits turns where
  bounded k hk := Nat.le_of_lt (h.bounded k hk)
  unbounded hnone turn hturn := h.unbounded hnone turn ((List.dropLast_sublist turns).subset hturn)

theorem Continues.admits_concat (h : b.Continues turns) (turn : Turn α) :
    b.Admits (turns ++ [turn]) where
  bounded k hk := by
    have := h.bounded k hk
    simp only [List.length_append, List.length_singleton]
    omega
  unbounded hnone := by
    rw [List.dropLast_concat]
    exact h.unbounded hnone

theorem not_continues_of_full (hmost : b.most? = some turns.length) : ¬ b.Continues turns :=
  fun h ↦ absurd (h.bounded _ hmost) (Nat.lt_irrefl _)

theorem not_continues_of_empty (hnone : b.most? = none) (hturn : turn ∈ turns)
    (hempty : turn.consumed = 0) : ¬ b.Continues turns := fun h ↦
  h.unbounded hnone turn hturn hempty

/-- Another turn may follow all fronts of an admitted chain but itself. -/
theorem Admits.continues_front (h : b.Admits (turns ++ turn :: more)) : b.Continues turns where
  bounded k hk := by
    have := h.bounded k hk
    simp only [List.length_append, List.length_cons] at this
    omega
  unbounded hnone other hother := by
    refine h.unbounded hnone other ?_
    rw [List.dropLast_append_of_ne_nil (List.cons_ne_nil turn more)]
    exact List.mem_append_left _ hother

end Bounds

/-! ### How a repetition ends -/

/-- Why a repetition ends with success behind these turns, at the state `t`. -/
inductive Parser.Stops (p : Parser α) (b : Bounds) (turns : List (Turn α)) (t : State) : Prop where
  /-- There are as many turns as there may be. -/
  | full (most : b.most? = some turns.length)
  /-- There is no upper bound, and the last turn was empty. -/
  | empty (most : b.most? = none) (turn : Turn α) (last : turns.getLast? = some turn)
      (consumed : turn.consumed = 0)
  /-- The next turn fails, and does not commit. -/
  | failed (e : ParseError) (run : p t = .ok (.failure e false))

namespace Parser.Stops

variable {p : Parser α} {b : Bounds} {turns : List (Turn α)} {t : State}

/-- If another turn may follow, then a repetition ends with success because that turn fails. -/
theorem exists_failed (h : p.Stops b turns t) (hcontinues : b.Continues turns) :
    ∃ e, p t = .ok (.failure e false) := by
  cases h with
  | full most => exact absurd hcontinues (Bounds.not_continues_of_full most)
  | empty most turn last consumed =>
    have hturn : turn ∈ turns := List.mem_of_getLast? last
    exact absurd hcontinues (Bounds.not_continues_of_empty most hturn consumed)
  | failed e run => exact ⟨e, run⟩

/-- A failure where a repetition ends with success does not commit and does not come too early. -/
theorem not_final (h : p.Stops b turns t) (hcontinues : b.Continues turns)
    (hleast : b.least ≤ turns.length) {e : ParseError} {committed : Bool}
    (run : p t = .ok (.failure e committed)) :
    ¬ (committed = true ∨ turns.length < b.least) := by
  obtain ⟨e', run'⟩ := h.exists_failed hcontinues
  cases run.symm.trans run'
  rintro (hcommitted | hfew)
  · cases hcommitted
  · exact absurd hleast (Nat.not_le_of_lt hfew)

end Parser.Stops

/-- What a repetition gives for its turns: their values in order, or nothing in slicing mode. -/
structure Yield.Gathers (w : Yield (List α)) (sliced : Bool) (turns : List (Turn α)) : Prop where
  /-- In slicing mode only the length is kept. -/
  bare : sliced = true → w = .bare
  /-- With slicing off, each turn has a value. -/
  values : sliced = false → ∃ as, turns.mapM Turn.read = .ok as ∧ w = .value as

namespace Yield.Gathers

variable {w w' : Yield (List α)} {sliced : Bool} {turns : List (Turn α)}

theorem ne_bare (h : w.Gathers sliced turns) (hoff : sliced = false) : w ≠ .bare := by
  obtain ⟨as, -, rfl⟩ := h.values hoff
  exact nofun

theorem unique (h : w.Gathers sliced turns) (h' : w'.Gathers sliced turns) : w = w' := by
  cases sliced with
  | true => rw [h.bare rfl, h'.bare rfl]
  | false =>
    obtain ⟨as, has, rfl⟩ := h.values rfl
    obtain ⟨as', has', rfl⟩ := h'.values rfl
    cases has.symm.trans has'
    rfl

end Yield.Gathers

/-- How a repetition in the given mode ends that has made these turns and has come to `t`. -/
inductive Parser.Concludes (p : Parser α) (b : Bounds) (sliced : Bool) (turns : List (Turn α))
    (t : State) : Except Fault (Outcome (List α)) → Prop where
  /-- With success, for one of three reasons. Where it might have gone on there are enough turns. -/
  | success {w : Yield (List α)} (admits : b.Admits turns)
      (enough : b.Continues turns → b.least ≤ turns.length) (stops : p.Stops b turns t)
      (gathers : w.Gathers sliced turns) :
      Concludes p b sliced turns t (.ok (.success w (Turn.total turns)))
  /-- With a failure of the next turn that commits or comes too early. -/
  | failure {e : ParseError} {committed : Bool} (continues : b.Continues turns)
      (run : p t = .ok (.failure e committed))
      (final : committed = true ∨ turns.length < b.least) :
      Concludes p b sliced turns t (.ok (.failure e committed))
  /-- With a fault of the next turn. -/
  | fault {fault : Fault} (continues : b.Continues turns) (run : p t = .error fault) :
      Concludes p b sliced turns t (.error fault)

namespace Parser.Concludes

variable {p : Parser α} {b : Bounds} {sliced : Bool} {s t u : State} {turns turns' : List (Turn α)}
  {x x' : Except Fault (Outcome (List α))}

theorem admits (h : p.Concludes b sliced turns t x) : b.Admits turns := by
  cases h with
  | success admits => exact admits
  | failure continues => exact continues.admits
  | fault continues => exact continues.admits

/-- Where a repetition ends, another turn does not follow: the next run is no success, or it may not
be made. -/
theorem not_continues (h : p.Concludes b sliced turns t x) {y : Yield α} {n : Nat}
    (run : p t = .ok (.success y n)) : ¬ b.Continues turns := by
  intro hcontinues
  cases h with
  | success _ _ stops =>
    obtain ⟨e, run'⟩ := stops.exists_failed hcontinues
    cases run.symm.trans run'
  | failure _ run' => cases run.symm.trans run'
  | fault _ run' => cases run.symm.trans run'

/-- A chain with which a repetition ends is not the front of a longer one that is admitted. -/
theorem eq_nil_of_admits (h : p.Concludes b sliced turns t x) {more : List (Turn α)}
    (hchain : p.Chain t more u) (hadmits : b.Admits (turns ++ more)) : more = [] := by
  cases hchain with
  | nil => rfl
  | cons run rest => exact absurd hadmits.continues_front (h.not_continues run)

/-- The same turns end in one way. -/
theorem answer_unique (h : p.Concludes b sliced turns t x) (h' : p.Concludes b sliced turns t x') :
    x = x' := by
  cases h with
  | success admits enough stops gathers =>
    cases h' with
    | success _ _ _ gathers' => rw [gathers.unique gathers']
    | failure continues run final =>
      exact absurd final (stops.not_final continues (enough continues) run)
    | fault continues run =>
      obtain ⟨e, run'⟩ := stops.exists_failed continues
      cases run.symm.trans run'
  | failure continues run final =>
    cases h' with
    | success _ enough stops =>
      exact absurd final (stops.not_final continues (enough continues) run)
    | failure _ run' =>
      cases run.symm.trans run'
      rfl
    | fault _ run' => cases run.symm.trans run'
  | fault continues run =>
    cases h' with
    | success _ _ stops =>
      obtain ⟨e, run'⟩ := stops.exists_failed continues
      cases run.symm.trans run'
    | failure _ run' => cases run.symm.trans run'
    | fault _ run' =>
      cases run.symm.trans run'
      rfl

/-- **A repetition ends in one way.** -/
theorem unique (hchain : p.Chain s turns t) (h : p.Concludes b sliced turns t x)
    (hchain' : p.Chain s turns' u) (h' : p.Concludes b sliced turns' u x') : x = x' := by
  rcases hchain.front hchain' with ⟨more, rfl, hmore⟩ | ⟨more, rfl, hmore⟩
  · obtain rfl := h.eq_nil_of_admits hmore h'.admits
    cases hmore
    rw [List.append_nil] at h'
    exact h.answer_unique h'
  · obtain rfl := h'.eq_nil_of_admits hmore h.admits
    cases hmore
    rw [List.append_nil] at h
    exact h.answer_unique h'

end Parser.Concludes

end Descent
