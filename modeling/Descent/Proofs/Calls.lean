import Descent.Parser.Probe
import Descent.Proofs.Depth
import Descent.Proofs.Fragment
import Descent.Proofs.Pinned

/-!
# The calls of a repetition

A repetition without an upper bound is a loop that nothing in its text brings to an end. Here it is
taken turn by turn, `Parser.turn`, with no budget of turns: `Parser.Calls` relates where the loop
stands to the states at which it will still call its parser, and to what it answers. The parser may
be any at all. It may look at nothing, succeed without consuming, or claim to have consumed more
than there is.

* Two turns are never made at one offset, because an empty turn is the last one, and a move past the
  end of the input is a fault. So a call further on leaves less of the input, and there is at most
  one more of them than bytes are left (`Calls.length_le`).
* The budget of `Parser.repeatLoop` is therefore never used up, and the loop answers as its calls
  say (`repeated_calls`). So a repetition is cut off only where its parser is
  (`finishes_repeated`).

Whether the loop is cut off is then a question about its calls alone, and there are finitely many of
them. So a repetition of a plan ends if the single runs of the plan do, however the depth that they
need may grow with the place: `unbounded_repetition_ends`.
-/

namespace Descent

variable {ι : Type} {ρ : ι → Type} {α : Type}

/-! ### Turns -/

/-- What one turn of a repetition comes to. -/
inductive Verdict (α : Type) where
  /-- The repetition ends with this outcome. -/
  | ended (o : Outcome (List α))
  /-- The turn has consumed `n` bytes, and another one follows. -/
  | onward (done : Progress α) (n : Nat)

namespace Parser

variable {p q : Parser α} {b : Bounds} {s here : State} {jump n : Nat} {done done' : Progress α}
  {calls calls' : List State} {x x' : Except Fault (Outcome (List α))}

/-- One turn of a repetition, at the state `here`. It calls the parser once. -/
def turn (p : Parser α) (b : Bounds) (here : State) (done : Progress α) :
    Except Fault (Verdict α) := do
  match ← p here with
  | .failure e committed =>
    if committed || done.count < b.least then return .ended (.failure e committed)
    else return .ended (done.outcome here.sliced)
  | .success y n =>
    let done ← done.add here y n
    if b.stalls n then return .ended (done.outcome here.sliced)
    else return .onward done n

/-- The loop makes a turn, and goes on if that was not the last one. -/
theorem repeatLoop_succ (p : Parser α) (b : Bounds) (budget : Nat) (s : State) (jump : Nat)
    (done : Progress α) :
    p.repeatLoop b (budget + 1) s jump done = (do
      let here ← s.advance jump
      match ← p.turn b here done with
      | .ended o => return o
      | .onward done n => p.repeatLoop b budget here n done) := by
  rw [repeatLoop]
  refine bind_congr_of_ok fun here hhere ↦ ?_
  have hsliced : here.sliced = s.sliced := State.sliced_of_advance hhere
  rw [turn, hsliced]
  rcases p here with fault | ⟨y, n⟩ | ⟨e, committed⟩
  · rfl
  · simp only [ok_bind]
    rcases done.add here y n with fault | done'
    · rfl
    · simp only [ok_bind]
      split <;> rfl
  · simp only [ok_bind]
    split <;> rfl

/-- Another turn follows a success that was not the last one. -/
theorem exists_of_turn_eq_onward (h : p.turn b here done = .ok (.onward done' n)) :
    ∃ y, p here = .ok (.success y n) ∧ b.stalls n = false := by
  obtain ⟨o, hrun, hrest⟩ := bind_eq_ok_iff.1 h
  cases o with
  | success y m =>
    obtain ⟨done'', -, hlast⟩ := bind_eq_ok_iff.1 hrest
    split at hlast
    · cases hlast
    · rename_i hstall
      cases hlast
      exact ⟨y, hrun, by simpa using hstall⟩
  | failure e committed =>
    dsimp only at hrest
    split at hrest <;> cases hrest

/-- The fault of a turn is that of its call, or it arises where the turn is added to the others. -/
theorem fault_of_turn_eq_error {fault : Fault} (h : p.turn b here done = .error fault) :
    p here = .error fault ∨ fault ∈ Fault.ofSteps := by
  rcases bind_eq_error_iff.1 h with hrun | ⟨o, -, hrest⟩
  · exact Or.inl hrun
  · refine Or.inr ?_
    cases o with
    | success y m =>
      rcases bind_eq_error_iff.1 hrest with hadd | ⟨done'', -, hlast⟩
      · exact done.stepFaults_add here y m fault hadd
      · split at hlast <;> cases hlast
    | failure e committed =>
      dsimp only at hrest
      split at hrest <;> cases hrest

/-! ### Calls -/

/-- A repetition without an upper bound that stands `jump` bytes before its next turn, has matched
`done`, and is at `s` otherwise, still calls its parser at these states, one after the other, and
then gives this answer. -/
inductive Calls (p : Parser α) (b : Bounds) :
    State → Nat → Progress α → List State → Except Fault (Outcome (List α)) → Prop
  /-- The move to the next turn is a fault. -/
  | stuck {s : State} {jump : Nat} {done : Progress α} {fault : Fault}
      (move : s.advance jump = .error fault) : Calls p b s jump done [] (.error fault)
  /-- The turn has a fault. -/
  | fault {s here : State} {jump : Nat} {done : Progress α} {fault : Fault}
      (move : s.advance jump = .ok here) (turn : p.turn b here done = .error fault) :
      Calls p b s jump done [here] (.error fault)
  /-- The turn is the last one. -/
  | ended {s here : State} {jump : Nat} {done : Progress α} {o : Outcome (List α)}
      (move : s.advance jump = .ok here) (turn : p.turn b here done = .ok (.ended o)) :
      Calls p b s jump done [here] (.ok o)
  /-- The turn is followed by others. -/
  | onward {s here : State} {jump n : Nat} {done done' : Progress α} {calls : List State}
      {x : Except Fault (Outcome (List α))} (move : s.advance jump = .ok here)
      (turn : p.turn b here done = .ok (.onward done' n)) (rest : Calls p b here n done' calls x) :
      Calls p b s jump done (here :: calls) x

namespace Calls

/-- The calls and the answer are settled by where the loop stands. -/
theorem unique (h : p.Calls b s jump done calls x) (h' : p.Calls b s jump done calls' x') :
    calls = calls' ∧ x = x' := by
  induction h generalizing calls' x' with
  | stuck move =>
    cases h' with
    | stuck move' =>
      cases move.symm.trans move'
      exact ⟨rfl, rfl⟩
    | _ move' => cases move.symm.trans move'
  | fault move turn =>
    cases h' with
    | stuck move' => cases move.symm.trans move'
    | fault move' turn' =>
      cases move.symm.trans move'
      cases turn.symm.trans turn'
      exact ⟨rfl, rfl⟩
    | _ move' turn' =>
      cases move.symm.trans move'
      cases turn.symm.trans turn'
  | ended move turn =>
    cases h' with
    | stuck move' => cases move.symm.trans move'
    | ended move' turn' =>
      cases move.symm.trans move'
      cases turn.symm.trans turn'
      exact ⟨rfl, rfl⟩
    | _ move' turn' =>
      cases move.symm.trans move'
      cases turn.symm.trans turn'
  | onward move turn rest ih =>
    cases h' with
    | stuck move' => cases move.symm.trans move'
    | onward move' turn' rest' =>
      cases move.symm.trans move'
      cases turn.symm.trans turn'
      obtain ⟨rfl, rfl⟩ := ih rest'
      exact ⟨rfl, rfl⟩
    | _ move' turn' =>
      cases move.symm.trans move'
      cases turn.symm.trans turn'

/-- Only what the parser does where it is called matters. -/
theorem congr (h : p.Calls b s jump done calls x) (hq : ∀ t ∈ calls, q t = p t) :
    q.Calls b s jump done calls x := by
  have hturn : ∀ t ∈ calls, ∀ done, q.turn b t done = p.turn b t done := fun t ht done ↦ by
    rw [turn, turn, hq t ht]
  induction h with
  | stuck move => exact .stuck move
  | fault move turn => exact .fault move ((hturn _ List.mem_cons_self _).trans turn)
  | ended move turn => exact .ended move ((hturn _ List.mem_cons_self _).trans turn)
  | onward move turn rest ih =>
    exact .onward move ((hturn _ List.mem_cons_self _).trans turn)
      (ih (fun t ht ↦ hq t (List.mem_cons_of_mem _ ht))
        fun t ht ↦ hturn t (List.mem_cons_of_mem _ ht))

/-- Calls are made further on in the same input, and in the same mode. -/
theorem exists_jump (h : p.Calls b s jump done calls x) :
    ∀ t ∈ calls, t.offset ≤ s.location.input.utf8ByteSize ∧ ∃ n, jump ≤ n ∧ t = s.jump n := by
  have hhead : ∀ {s here : State} {jump : Nat}, s.advance jump = .ok here →
      here.offset ≤ s.location.input.utf8ByteSize ∧ ∃ n, jump ≤ n ∧ here = s.jump n := by
    intro s here jump move
    obtain ⟨-, hle, rfl⟩ := State.advance_eq_ok_iff.1 move
    exact ⟨hle, jump, Nat.le_refl jump, rfl⟩
  induction h with
  | stuck => exact nofun
  | fault move | ended move => exact List.forall_mem_singleton.2 (hhead move)
  | onward move turn rest ih =>
    refine List.forall_mem_cons.2 ⟨hhead move, fun t ht ↦ ?_⟩
    obtain ⟨-, -, rfl⟩ := State.advance_eq_ok_iff.1 move
    obtain ⟨hle, n, -, rfl⟩ := ih t ht
    exact ⟨hle, _, Nat.le_add_right _ n, State.jump_jump _ _ n⟩

/-- Without an upper bound, the next call lies further on: an empty turn would have been the last.
-/
theorem pairwise_offset (hb : b.most? = none) (h : p.Calls b s jump done calls x) :
    calls.Pairwise fun t u ↦ t.offset < u.offset := by
  induction h with
  | stuck => exact .nil
  | fault | ended => exact List.pairwise_singleton _ _
  | onward move turn rest ih =>
    refine List.pairwise_cons.2 ⟨fun t ht ↦ ?_, ih⟩
    obtain ⟨y, -, hstall⟩ := exists_of_turn_eq_onward turn
    have hn := Bounds.ne_zero_of_stalls hb hstall
    obtain ⟨-, m, hm, rfl⟩ := rest.exists_jump t ht
    exact Nat.lt_add_of_pos_right (Nat.lt_of_lt_of_le (Nat.pos_of_ne_zero hn) hm)

/-- Without an upper bound, there is at most one call more than bytes are left at the first one. -/
theorem length_le (hb : b.most? = none) (h : p.Calls b s jump done calls x) :
    calls.length ≤ s.left + 1 - jump := by
  induction h with
  | stuck => exact Nat.zero_le _
  | fault move | ended move =>
    have hleft := State.left_of_advance move
    rw [List.length_singleton]
    omega
  | @onward _ first _ n _ _ later _ move turn rest ih =>
    obtain ⟨y, -, hstall⟩ := exists_of_turn_eq_onward turn
    have hn : n ≠ 0 := Bounds.ne_zero_of_stalls hb hstall
    have hleft := State.left_of_advance move
    have hlater : later.length ≤ first.left + 1 - n := ih
    rw [List.length_cons]
    omega

/-- A fault is that of the last call, or it is one of moving, counting or reading. -/
theorem fault_of_eq_error {fault : Fault} (h : p.Calls b s jump done calls x)
    (hx : x = .error fault) :
    fault ∈ Fault.ofSteps ∨ ∃ t, calls.getLast? = some t ∧ p t = .error fault := by
  induction h with
  | stuck move =>
    cases hx
    exact Or.inl (State.stepFaults_advance _ _ fault move)
  | fault move turn =>
    cases hx
    rcases fault_of_turn_eq_error turn with hrun | hother
    · exact Or.inr ⟨_, rfl, hrun⟩
    · exact Or.inl hother
  | ended => cases hx
  | onward move turn rest ih =>
    rcases ih hx with hother | ⟨t, hlast, hrun⟩
    · exact Or.inl hother
    · exact Or.inr ⟨t, by simp [List.getLast?_cons, hlast], hrun⟩

end Calls

/-- The budget of the loop is not what ends it, if it is more than the bytes that are left at the
first turn. -/
theorem exists_calls (hb : b.most? = none) {budget : Nat}
    (hbudget : ∀ here, s.advance jump = .ok here → here.left < budget) :
    ∃ calls, p.Calls b s jump done calls (p.repeatLoop b (budget + 1) s jump done) := by
  induction budget generalizing s jump done with
  | zero =>
    rcases hmove : s.advance jump with fault | here
    · exact ⟨[], by rw [repeatLoop_succ, hmove]; exact .stuck hmove⟩
    · exact absurd (hbudget here hmove) (Nat.not_lt_zero _)
  | succ budget ih =>
    rw [repeatLoop_succ]
    rcases hmove : s.advance jump with fault | here
    · exact ⟨[], .stuck hmove⟩
    · simp only [ok_bind]
      rcases hturn : p.turn b here done with fault | o | ⟨done', n⟩
      · exact ⟨[here], .fault hmove hturn⟩
      · exact ⟨[here], .ended hmove hturn⟩
      · obtain ⟨y, -, hstall⟩ := exists_of_turn_eq_onward hturn
        have hn := Bounds.ne_zero_of_stalls hb hstall
        have hless : ∀ next, here.advance n = .ok next → next.left < budget := by
          intro next hnext
          have hfirst := hbudget here hmove
          have hleft : next.left + n = here.left := State.left_of_advance hnext
          omega
        obtain ⟨calls, hcalls⟩ : ∃ calls, p.Calls b here n done' calls
            (p.repeatLoop b (budget + 1) here n done') := ih hless
        exact ⟨here :: calls, .onward hmove hturn hcalls⟩

/-- A repetition without an upper bound answers as its calls say. -/
theorem repeated_calls (p : Parser α) (hb : b.most? = none) (s : State) :
    ∃ calls, p.Calls b s 0 .start calls (p.repeated b s) := by
  have hallowance : b.allowance s.left = s.left + 1 + 1 := by simp [Bounds.allowance, hb]
  have hcalls : ∃ calls, p.Calls b s 0 .start calls
      (p.repeatLoop b (s.left + 1 + 1) s 0 .start) := by
    refine exists_calls hb fun here hhere ↦ ?_
    have hleft : here.left + 0 = s.left := State.left_of_advance hhere
    omega
  rwa [← hallowance] at hcalls

/-! ### Where a repetition is cut off -/

/-- Turns begin at states that the ones before have led to, so what carries over from the start of a
turn to its end holds of all of them. -/
theorem Calls.forall_of_carried {φ : State → Prop} (h : p.Calls b s jump done calls x)
    (hstart : ∀ here, s.advance jump = .ok here → φ here)
    (hnext : ∀ here y n next, φ here → p here = .ok (.success y n) → here.advance n = .ok next →
      φ next) : ∀ t ∈ calls, φ t := by
  induction h with
  | stuck => exact nofun
  | fault move | ended move => exact List.forall_mem_singleton.2 (hstart _ move)
  | onward move turn rest ih =>
    obtain ⟨y, run, -⟩ := exists_of_turn_eq_onward turn
    have hhere := hstart _ move
    exact List.forall_mem_cons.2 ⟨hhere, ih fun next hmove ↦ hnext _ _ _ next hhere run hmove⟩

/-- With an upper bound, the loop is cut off only at a turn. -/
theorem finishes_repeatLoop {φ : State → Prop} {k : Nat} (hb : b.most? = some k) {budget : Nat}
    (hstart : ∀ here, s.advance jump = .ok here → φ here)
    (hnext : ∀ here y n next, φ here → p here = .ok (.success y n) → here.advance n = .ok next →
      φ next)
    (hp : ∀ here, φ here → Finishes (p here)) : Finishes (p.repeatLoop b budget s jump done) := by
  induction budget generalizing s jump done with
  | zero =>
    rw [repeatLoop_zero_of_some p hb]
    exact finishes_ok _
  | succ budget ih =>
    rw [repeatLoop]
    refine (s.stepFaults_advance jump).finishes.bind fun here hmove ↦ ?_
    have hhere := hstart here hmove
    refine (hp here hhere).bind fun o run ↦ ?_
    cases o with
    | success y n =>
      refine (done.stepFaults_add here y n).finishes.bind fun done' _ ↦ ?_
      split
      · exact finishes_ok _
      · exact ih fun next hmove ↦ hnext here y n next hhere run hmove
    | failure e committed =>
      dsimp only
      split <;> exact finishes_ok _

/-- A repetition is cut off only at a turn. With an upper bound, the budget of its loop is that
bound, and without one the budget is never used up. -/
theorem finishes_repeated {φ : State → Prop} (hs : φ s)
    (hnext : ∀ here y n next, φ here → p here = .ok (.success y n) → here.advance n = .ok next →
      φ next)
    (hp : ∀ here, φ here → Finishes (p here)) (b : Bounds) : Finishes (p.repeated b s) := by
  have hstart : ∀ here, s.advance 0 = .ok here → φ here := by
    intro here hmove
    obtain ⟨-, -, rfl⟩ := State.advance_eq_ok_iff.1 hmove
    rwa [State.jump_zero]
  rcases hmost : b.most? with - | k
  · obtain ⟨calls, hcalls⟩ := p.repeated_calls hmost s
    intro hcut
    rcases hcalls.fault_of_eq_error hcut with hstep | ⟨t, hlast, hrun⟩
    · exact absurd hstep (by decide)
    · have ht := hcalls.forall_of_carried hstart hnext t (List.mem_of_getLast? hlast)
      exact hp t ht hrun
  · exact finishes_repeatLoop hmost hstart hnext hp

end Parser

/-! ### Repetitions of plans -/

namespace Grammar

variable {g : Grammar ρ} {p : Plan ρ α} {answers : Parser α}

/-- Finitely many runs need a finite depth together. -/
theorem exists_depth_forall {ts : List State} (hp : ∀ t ∈ ts, g.Ends p t (answers t)) :
    ∃ depth, ∀ more, ∀ t ∈ ts, g.parserAt (depth + more) p t = answers t := by
  induction ts with
  | nil => exact ⟨0, fun _ ↦ nofun⟩
  | cons t ts ih =>
    obtain ⟨hfirst, hlater⟩ := List.forall_mem_cons.1 hp
    obtain ⟨depth, hrest⟩ := ih hlater
    obtain ⟨depth', hrun⟩ := hfirst.parserAt
    refine ⟨depth' + depth, fun more ↦ List.forall_mem_cons.2 ⟨?_, fun u hu ↦ ?_⟩⟩
    · rw [Nat.add_assoc]
      exact hrun (depth + more)
    · rw [Nat.add_comm depth' depth, Nat.add_assoc]
      exact hrest (depth' + more) u hu

/-- **A repetition without an upper bound ends.** Let the single runs of a plan end, with whatever
`answers` says, wherever they start in the input. Then a repetition of it, with any lower bound,
from any state and in either mode, ends as well. Its calls are at most one more than bytes are left;
they are made further and further on, and none of them behind the end of the input. If it ends with
a fault, then this is the fault of the last call, or one of moving, of adding up or of reading a
value. -/
theorem unbounded_repetition_ends (least : Nat) (s : State)
    (hp : ∀ n, (s.jump n).offset ≤ s.location.input.utf8ByteSize →
      g.Ends p (s.jump n) (answers (s.jump n))) :
    ∃ calls x, answers.Calls { least, most? := none } s 0 .start calls x ∧
      g.Ends (p.repeated { least, most? := none }) s x ∧
      calls.length ≤ s.left + 1 ∧
      (calls.Pairwise fun t u ↦ t.offset < u.offset) ∧
      (∀ t ∈ calls, t.offset ≤ s.location.input.utf8ByteSize ∧ ∃ n, t = s.jump n) ∧
      ∀ fault, x = .error fault →
        fault ∈ [Fault.pastEnd, .overflow, .unreadable, .bareSuccess] ∨
          ∃ t, calls.getLast? = some t ∧ answers t = .error fault := by
  obtain ⟨calls, hcalls⟩ := answers.repeated_calls (b := { least, most? := none }) rfl s
  have hends : ∀ t ∈ calls, g.Ends p t (answers t) := by
    intro t ht
    obtain ⟨hle, n, -, rfl⟩ := hcalls.exists_jump t ht
    exact hp n hle
  refine ⟨calls, _, hcalls, ⟨fun hcut ↦ ?_, ?_⟩, hcalls.length_le rfl, hcalls.pairwise_offset rfl,
    fun t ht ↦ ?_, fun fault hx ↦ ?_⟩
  · rcases hcalls.fault_of_eq_error hcut with hother | ⟨t, hlast, hrun⟩
    · exact absurd hother (by decide)
    · exact (hends t (List.mem_of_getLast? hlast)).1 hrun
  · obtain ⟨depth, hdeep⟩ := exists_depth_forall hends
    refine ⟨depth, ?_⟩
    have hsame := hcalls.congr (q := g.parserAt depth p) fun t ht ↦ hdeep 0 t ht
    obtain ⟨calls', hcalls'⟩ :=
      (g.parserAt depth p).repeated_calls (b := { least, most? := none }) rfl s
    exact (hcalls'.unique hsame).2
  · obtain ⟨hle, n, -, rfl⟩ := hcalls.exists_jump t ht
    exact ⟨hle, n, rfl⟩
  · rcases hcalls.fault_of_eq_error hx with hother | hlast
    · exact Or.inl hother
    · exact Or.inr hlast

/-- A parser that claims two bytes wherever it is. Sliced again and again in `ab`, it is called at
both ends, and the move behind the end is a fault. -/
theorem many_span_ends :
    nested.Ends (Plan.ofParser (.span 2)).many ((State.start "ab").withSlicing true)
        (.error .pastEnd) ∧
      (Parser.span 2).Calls { least := 0, most? := none } ((State.start "ab").withSlicing true) 0
        .start [(State.start "ab").withSlicing true, ((State.start "ab").withSlicing true).jump 2]
        (.error .pastEnd) ∧
      2 ≤ ((State.start "ab").withSlicing true).left + 1 := by
  have hp : ∀ t, nested.Ends (.ofParser (.span 2)) t (Parser.span 2 t) := fun t ↦ ⟨nofun, 0, rfl⟩
  have hmove : (((State.start "ab").withSlicing true).jump 2).advance 2 = .error .pastEnd := rfl
  have hcalls : (Parser.span 2).Calls { least := 0, most? := none }
      ((State.start "ab").withSlicing true) 0 .start
      [(State.start "ab").withSlicing true, ((State.start "ab").withSlicing true).jump 2]
      (.error .pastEnd) :=
    .onward rfl rfl (.onward rfl rfl (.stuck hmove))
  obtain ⟨calls, x, hcalls', hends, hlength, -⟩ :=
    unbounded_repetition_ends 0 ((State.start "ab").withSlicing true) fun n _ ↦ hp _
  obtain ⟨rfl, rfl⟩ := hcalls'.unique hcalls
  exact ⟨hends, hcalls, hlength⟩

end Grammar

end Descent
