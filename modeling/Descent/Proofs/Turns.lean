import Descent.Proofs.Depth
import Descent.Proofs.Iteration

/-!
# Turns of a repetition

A repetition without an upper bound runs its parser where the last run has ended, as long as that
one has consumed something. The states at which a turn begins are related by `Leads`, of a parser or
of a plan over rules. The relation looks at the runs of the parser alone. Such runs are a chain of
turns that may go on, so the loop does come to these states: where a turn fails and commits, the
repetition fails with that very failure (`Leads.repeated_of_committed`).
-/

namespace Descent

variable {ι : Type} {ρ : ι → Type} {α : Type}

/-- Runs of the parser, each of which consumes something, lead from the first state to the other. -/
inductive Parser.Leads (p : Parser α) : State → State → Prop where
  /-- No runs. -/
  | refl (s : State) : Leads p s s
  /-- A run, and more from where it has ended. -/
  | step {s t : State} {y : Yield α} {n : Nat} (run : p s = .ok (.success y n)) (hn : n ≠ 0)
      (rest : Leads p (s.jump n) t) : Leads p s t

/-- Runs of the plan, each of which consumes something, lead from the first state to the other. -/
inductive Grammar.Leads (g : Grammar ρ) (p : Plan ρ α) : State → State → Prop where
  /-- No runs. -/
  | refl (s : State) : Leads g p s s
  /-- A run, and more from where it has ended. -/
  | step {s t : State} {y : Yield α} {n : Nat} (run : g.Ends p s (.ok (.success y n)))
      (hn : n ≠ 0) (rest : Leads g p (s.jump n) t) : Leads g p s t

namespace Parser

variable {p : Parser α} {b : Bounds} {here there : State} {e : ParseError}

/-- The runs are a chain of turns that are not empty. -/
theorem Leads.exists_chain (h : p.Leads here there) :
    ∃ turns, p.Chain here turns there ∧ ∀ turn ∈ turns, turn.consumed ≠ 0 := by
  induction h with
  | refl s => exact ⟨[], .nil s, nofun⟩
  | step run hn rest ih =>
    obtain ⟨turns, hchain, hconsume⟩ := ih
    exact ⟨_, .cons run hchain, List.forall_mem_cons.2 ⟨hn, hconsume⟩⟩

theorem Leads.exists_jump (h : p.Leads here there) : ∃ n, there = here.jump n := by
  induction h with
  | refl s => exact ⟨0, s.jump_zero.symm⟩
  | @step s t y n run hn rest ih =>
    obtain ⟨m, rfl⟩ := ih
    exact ⟨n + m, s.jump_jump n m⟩

theorem Leads.carries {V : State → Prop} (h : p.Leads here there) (hp : p.Carries V)
    (hs : V here) : V there := by
  obtain ⟨turns, hchain, -⟩ := h.exists_chain
  exact hchain.carries hp hs

/-- Of the turns of a repetition, one that is empty leads nowhere, and it is the last one. -/
theorem Chain.leads {turns : List (Turn α)} (h : p.Chain here turns there)
    (hconsume : ∀ turn ∈ turns.dropLast, turn.consumed ≠ 0) : p.Leads here there := by
  induction h with
  | nil s => exact .refl s
  | @cons s t y n turns run rest ih =>
    cases rest with
    | nil =>
      rcases n with - | n
      · rw [State.jump_zero]
        exact .refl s
      · exact .step run n.succ_ne_zero (.refl _)
    | cons run' rest' =>
      obtain ⟨hn, hlater⟩ := List.forall_mem_cons.1 hconsume
      exact .step run hn (ih hlater)

/-- A turn that fails and commits is the end of the repetition. -/
theorem Leads.repeated_of_committed {V : State → Prop} (hleads : p.Leads here there)
    (hp : p.Carries V) (hb : b.most? = none) (hs : V here)
    (hfail : p there = .ok (.failure e true)) : p.repeated b here = .ok (.failure e true) := by
  obtain ⟨turns, hchain, hconsume⟩ := hleads.exists_chain
  have hfits : b.Fits := fun k hk ↦ nomatch hb.symm.trans hk
  have hcontinues : b.Continues turns :=
    ⟨fun k hk ↦ (nomatch hb.symm.trans hk), fun _ ↦ hconsume⟩
  exact (hp.repeated_eq_iff hfits hs).2
    ⟨turns, there, hchain, .failure hcontinues hfail (Or.inl rfl)⟩

end Parser

namespace Grammar

variable {g : Grammar ρ} {p : Plan ρ α} {s t : State}

/-- Runs of a plan are runs of its parser, if calls may go deep enough for all of them. -/
theorem Leads.exists_depth (h : g.Leads p s t) :
    ∃ depth, ∀ more, (g.parserAt (depth + more) p).Leads s t := by
  induction h with
  | refl s => exact ⟨0, fun _ ↦ .refl s⟩
  | step run hn rest ih =>
    obtain ⟨depth, hrest⟩ := ih
    obtain ⟨depth', hrun⟩ := run.parserAt
    refine ⟨depth' + depth, fun more ↦ ?_⟩
    have hfirst := hrun (depth + more)
    have hlater := hrest (depth' + more)
    rw [← Nat.add_assoc] at hfirst hlater
    rw [Nat.add_comm depth depth'] at hlater
    exact .step hfirst hn hlater

end Grammar

end Descent
