import Descent.Proofs.Failures
import Descent.Proofs.Fragment
import Descent.Proofs.Turns

/-!
# What has been consumed commits

A parser that fails further on than where it started should commit to it, so that nobody goes back
over text that has been consumed. Two kinds of parts do not keep to this: `attempt` takes commitment
away on purpose, and sequences without a choice of what follows (`map2`, and repetitions of which
several turns are asked for) hand on the failures of their later parts as they are.

Plans that are made of the other parts, the committing ones, keep to it, although commitment arises
in three ways: a word commits behind its first character, a continuation once its first parser has
consumed something, and `fail` always. The main statement, `failure_beyond_start_commits`, says so,
and that alternatives, options and repetitions of such plans therefore hide no failure that lies
beyond the start of the run which made it.
-/

namespace Descent

variable {ι : Type} {ρ : ι → Type} {α : Type}

/-- A failure that has not been committed lies where the parser started, and so do all frames around
it. -/
def CommitsBeyond : FailureLaw := fun l e committed ↦
  committed = false → ∀ frame ∈ e.frames, frame.location = l

namespace CommitsBeyond

variable {l : Location} {e : ParseError} {committed : Bool}

theorem error (l : Location) (message : String) (committed : Bool) :
    CommitsBeyond l (l.error message) committed := by
  intro _ frame hframe
  rcases List.mem_singleton.1 hframe with rfl
  rfl

theorem push (h : CommitsBeyond l e committed) (message : String) :
    CommitsBeyond l (e.push l message) committed := by
  intro hcommit frame hframe
  rw [ParseError.frames_push] at hframe
  rcases List.mem_append.1 hframe with hin | hout
  · exact h hcommit frame hin
  · rcases List.mem_singleton.1 hout with rfl
    rfl

theorem label (h : CommitsBeyond l e committed) (message : String) :
    CommitsBeyond l (e.label message) committed := by
  intro hcommit frame hframe
  rcases List.mem_cons.1 hframe with rfl | hout
  · exact h hcommit e.innermost List.mem_cons_self
  · exact h hcommit frame (List.mem_cons_of_mem _ hout)

/-- A failure from further on is committed, or it is not from further on. -/
theorem of_jump {n : Nat} (h : CommitsBeyond (l.jump n) e committed)
    (hn : committed = false → n = 0) : CommitsBeyond l e committed := by
  intro hcommit frame hframe
  rw [h hcommit frame hframe, hn hcommit, Location.jump_zero]

end CommitsBeyond

/-! ### Plans -/

/-- A part that leaves commitment alone, and asks for one turn of a repetition at most. -/
def Plan.Committing : {α : Type} → Plan ρ α → Prop
  | _, attempt _ => False
  | _, map2 _ _ _ => False
  | _, repeated _ b => b.most? = none ∧ b.least ≤ 1
  | _, ofParser _ => False
  | _, inMode _ _ => False
  | _, _ => True

/-- All parts of all rules leave commitment alone. -/
def Grammar.Committing (g : Grammar ρ) : Prop :=
  ∀ r, (g.body r).Every Plan.Committing

theorem Plan.Committing.proper {q : Plan ρ α} (h : q.Committing) : q.Proper := by
  cases q with
  | repeated p b => exact fun n hn ↦ nomatch h.1.symm.trans hn
  | ofParser p => exact h.elim
  | inMode p sliced => exact h.elim
  | _ => trivial

open Descent.Parser in
/-- Committing parts make a parser that commits, if what the rules do commits. -/
theorem Plan.obeys_commitsBeyond {call : ∀ r, Parser (ρ r)}
    (hcall : ∀ r, (call r).Obeys CommitsBeyond) {p : Plan ρ α} (hp : p.Every Committing) :
    (p.parser call).Obeys CommitsBeyond := by
  induction p with
  | succeed a => exact Obeys.succeed a
  | fail message => exact Obeys.fail fun l ↦ .error l message true
  | literal word =>
    refine Obeys.literal fun l text n _ ↦ CommitsBeyond.of_jump (.error _ _ _) fun hcommit ↦ ?_
    simpa using hcommit
  | pattern p => exact Obeys.pattern fun l message ↦ .error l message false
  | eof => exact Obeys.eof fun l message ↦ .error l message false
  | anyChar => exact Obeys.anyChar fun l message ↦ .error l message false
  | ofParser p => exact hp.elim
  | rule r => exact hcall r
  | orElse p q ihp ihq => exact (ihp hp.2.1).orElse (ihq hp.2.2) fun _ _ h ↦ h
  | flatMap p f ihp ihf =>
    refine (ihp hp.2.1).flatMap (fun a ↦ ihf a (hp.2.2 a)) fun l n e committed h hcommit ↦ ?_
    obtain ⟨rfl, hn⟩ : committed = false ∧ n = 0 := by simpa using hcommit
    exact h.of_jump (fun _ ↦ hn) rfl
  | map p f ih => exact (ih hp.2).map f
  | map2 p q f ihp ihq => exact hp.1.elim
  | repeated p b ih =>
    refine (ih hp.2).repeated fun l n count e committed hfirst hturn h ↦ ?_
    refine h.of_jump fun hcommit ↦ hfirst ?_
    -- A turn that did not commit is handed on only if it is the first one.
    have hone : b.least ≤ 1 := hp.1.2
    have hearly : count < b.least := hturn.resolve_left (by simp [hcommit])
    omega
  | slice p ih => exact (ih hp.2).slice
  | attempt p ih => exact hp.1.elim
  | scope p message ih => exact (ih hp.2).scope fun l e committed h ↦ h.push message
  | label p message ih => exact (ih hp.2).label fun l e committed h ↦ h.label message
  | optional p ih => exact (ih hp.2).optional fun _ _ h ↦ h
  | retype p f ih => exact (ih hp.2).retype f
  | inMode p sliced ih => exact hp.1.elim

namespace Grammar

variable {g : Grammar ρ} {p : Plan ρ α}

theorem Committing.lawful (hg : g.Committing) : g.Lawful := fun r ↦
  (hg r).imp fun _ ↦ Plan.Committing.proper

theorem Committing.obeys_call (hg : g.Committing) (depth : Nat) (r : ι) :
    (g.call depth r).Obeys CommitsBeyond := by
  induction depth generalizing r with
  | zero => exact fun _ ↦ nofun
  | succ depth ih => exact Plan.obeys_commitsBeyond ih (hg r)

/-- A turn that fails and commits is not hidden by the turns that led to it. -/
theorem Ends.repeated_of_committed {s : State} {e : ParseError}
    (h : g.Ends p s (.ok (.failure e true))) (hg : g.Lawful) (hp : p.Lawful) {b : Bounds}
    (hb : b.most? = none) {start : State} (hstart : start.location.Valid)
    (hleads : g.Leads p start s) :
    g.Ends (p.repeated b) start (.ok (.failure e true)) := by
  obtain ⟨depth, hturns⟩ := hleads.exists_depth
  obtain ⟨depth', hturn⟩ := h.parserAt
  have hfail := hturn depth
  rw [Nat.add_comm] at hfail
  exact ends_of_ok ((hturns depth').repeated_of_committed
    (hg.safe (depth + depth') hp).stays.carries hb hstart hfail)

/-- **What has been consumed commits.** If a run of a committing plan fails and does not commit,
then all frames of the error lie exactly where the run started. So a failure with a frame elsewhere
is committed, and no alternative, no option and no repetition without an upper bound hides it: they
fail as well, with the very same error, wherever they run the plan to this failure. (A repetition
does end at failures that lie where its last turn began; those are not beyond the start of it.) -/
theorem failure_beyond_start_commits (hg : g.Committing) (hp : p.Every Plan.Committing) :
    (∀ s e, g.Ends p s (.ok (.failure e false)) →
      ∀ frame ∈ e.frames, frame.location = s.location) ∧
    (∀ s e committed, g.Ends p s (.ok (.failure e committed)) →
      (∃ frame ∈ e.frames, frame.location ≠ s.location) →
        committed = true ∧
        (∀ q, g.Ends (p.orElse q) s (.ok (.failure e true))) ∧
        g.Ends p.optional s (.ok (.failure e true)) ∧
        (∀ start b, start.location.Valid → g.Leads p start s → b.most? = none →
          g.Ends (p.repeated b) start (.ok (.failure e true)))) := by
  have hobeys : ∀ depth, (g.parserAt depth p).Obeys CommitsBeyond := fun depth ↦
    Plan.obeys_commitsBeyond (hg.obeys_call depth) hp
  refine ⟨fun s e h ↦ h.obeys hobeys rfl, ?_⟩
  rintro s e committed h ⟨frame, hframe, hbeyond⟩
  obtain rfl : committed = true := (Bool.eq_false_or_eq_true committed).resolve_right fun hoff ↦
    hbeyond (h.obeys hobeys hoff frame hframe)
  have hlawful : p.Lawful := hp.imp fun _ ↦ Plan.Committing.proper
  exact ⟨rfl, h.orElse_of_committed, h.optional_of_committed, fun start b hstart hleads hb ↦
    h.repeated_of_committed hg.lawful hlawful hb hstart hleads⟩

/-- Brackets in brackets around an `x`, where each one picks what follows it. -/
def stepwise : Grammar fun _ : Unit ↦ String where
  body _ :=
    ((Plan.literal "(").flatMap fun _ ↦ (Plan.rule ()).flatMap fun x ↦
      (Plan.literal ")").map fun _ ↦ x).orElse (.literal "x")

theorem stepwise_committing : stepwise.Committing := fun _ ↦
  ⟨trivial, ⟨trivial, trivial, fun _ ↦ ⟨trivial, trivial, fun _ ↦ ⟨trivial, trivial⟩⟩⟩, trivial⟩

/-- Behind an `x` there are brackets, one of which is not closed. That the second turn fails at the
end of the input is not hidden by the first one, which succeeded. -/
theorem stepwise_unclosed_not_hidden :
    ∃ e, stepwise.Ends (Plan.rule ()).many (.start "x((x)") (.ok (.failure e true)) ∧
      e.frames.map (fun frame ↦ (frame.location.offset, frame.message)) = [(5, "')'")] := by
  have hfirst : stepwise.Ends (.rule ()) (.start "x((x)") (.ok (.success (.value "x") 1)) :=
    ⟨nofun, 1, rfl⟩
  have hsecond : stepwise.Ends (.rule ()) ((State.start "x((x)").jump 1)
      (.ok (.failure (((Location.start "x((x)").jump 5).error "')'") true)) := ⟨nofun, 3, rfl⟩
  have hleads : stepwise.Leads (.rule ()) (.start "x((x)") ((State.start "x((x)").jump 1) :=
    .step hfirst (by decide) (.refl _)
  have hbeyond : ((Location.start "x((x)").jump 5) ≠ ((Location.start "x((x)").jump 1) := fun h ↦
    absurd (congrArg Location.offset h) (by decide)
  obtain ⟨-, -, -, hmany⟩ := (failure_beyond_start_commits stepwise_committing
    (p := .rule ()) trivial).2 _ _ _ hsecond ⟨_, List.mem_singleton.2 rfl, hbeyond⟩
  exact ⟨_, hmany _ { least := 0, most? := none } (Location.valid_start (by decide)) hleads rfl,
    rfl⟩

end Grammar

end Descent
