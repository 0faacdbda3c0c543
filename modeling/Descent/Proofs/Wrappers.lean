import Descent.Parser.Basic
import Descent.Proofs.Place

/-!
# Wrappers around a parser

`scope`, `label` and `attempt` change nothing about what a parser matches, only what its failures
say: which frames they have, and whether they commit. They may be put around a parser in any number
and order, and this module says what all of them do together (`Parser.within_eq`). The three kinds
act on different parts of a failure: a scope on the outer end of its frames, a label on the message
of its innermost frame, an attempt on its commitment. So all that matters of a sequence of wrappers
is its scopes in their order, its last label, and whether there is an attempt; and wrappers of
different kinds may change places (`Parser.wrappers_put_failures_in_context`).
-/

namespace Descent

variable {α : Type}

/-! ### Wrappers -/

/-- What may be put around a parser without changing what it matches. -/
inductive Wrapper where
  /-- Adds a frame around failures. -/
  | scope (message : String)
  /-- Gives failures another message. -/
  | label (message : String)
  /-- Takes commitment away from failures. -/
  | attempt
deriving DecidableEq

namespace Wrapper

/-- The parser with the wrapper around it. -/
def around (w : Wrapper) (p : Parser α) : Parser α :=
  match w with
  | scope message => p.scope message
  | label message => p.label message
  | attempt => p.attempt

/-- The message of a scope. -/
def scope? : Wrapper → Option String
  | scope message => some message
  | _ => none

/-- The message of a label. -/
def label? : Wrapper → Option String
  | label message => some message
  | _ => none

/-- The messages of the scopes, from the inside out. -/
def scopes (ws : List Wrapper) : List String :=
  ws.filterMap scope?

/-- The message of the last label, if there is one. -/
def lastLabel? (ws : List Wrapper) : Option String :=
  (ws.filterMap label?).getLast?

section Lists

variable (message : String) (ws : List Wrapper)

@[simp]
theorem scopes_nil : scopes [] = [] :=
  rfl

@[simp]
theorem scopes_cons_scope : scopes (scope message :: ws) = message :: scopes ws :=
  rfl

@[simp]
theorem scopes_cons_label : scopes (label message :: ws) = scopes ws :=
  rfl

@[simp]
theorem scopes_cons_attempt : scopes (attempt :: ws) = scopes ws :=
  rfl

@[simp]
theorem lastLabel?_nil : lastLabel? [] = none :=
  rfl

@[simp]
theorem lastLabel?_cons_scope : lastLabel? (scope message :: ws) = lastLabel? ws :=
  rfl

@[simp]
theorem lastLabel?_cons_label :
    lastLabel? (label message :: ws) = some ((lastLabel? ws).getD message) := by
  rw [lastLabel?, lastLabel?, ← List.getLast?_cons]
  rfl

@[simp]
theorem lastLabel?_cons_attempt : lastLabel? (attempt :: ws) = lastLabel? ws :=
  rfl

theorem scopes_append (ws' : List Wrapper) : scopes (ws ++ ws') = scopes ws ++ scopes ws' :=
  List.filterMap_append

theorem lastLabel?_append (ws' : List Wrapper) :
    lastLabel? (ws ++ ws') = (lastLabel? ws').or (lastLabel? ws) := by
  rw [lastLabel?, List.filterMap_append, List.getLast?_append]
  rfl

end Lists

/-- The wrappers are of different kinds. -/
def Apart : Wrapper → Wrapper → Prop
  | scope _, scope _ | label _, label _ | attempt, attempt => False
  | _, _ => True

end Wrapper

/-- The parser with wrappers around it, the last one outermost. -/
def Parser.within (p : Parser α) (ws : List Wrapper) : Parser α :=
  ws.foldl (fun p w ↦ w.around p) p

/-! ### Failures in context -/

/-- The error with a frame at `l` for each scope, in the words of the last label. -/
def ParseError.inContext (e : ParseError) (l : Location) (ws : List Wrapper) : ParseError where
  innermost :=
    { location := e.innermost.location
      message := (Wrapper.lastLabel? ws).getD e.innermost.message }
  outer := e.outer ++ (Wrapper.scopes ws).map fun message ↦ { location := l, message }

/-- What the wrappers make of an outcome at `l`. -/
def Outcome.inContext (o : Outcome α) (l : Location) (ws : List Wrapper) : Outcome α :=
  match o with
  | success y n => success y n
  | failure e committed => failure (e.inContext l ws) (committed && !ws.contains .attempt)

section InContext

variable (l : Location)

@[simp]
theorem ParseError.inContext_nil (e : ParseError) : e.inContext l [] = e := by
  simp [inContext]

@[simp]
theorem Outcome.inContext_nil (o : Outcome α) : o.inContext l [] = o := by
  cases o <;> simp [inContext]

/-- A wrapper comes first, and then those around it. -/
theorem ParseError.inContext_cons (e : ParseError) (w : Wrapper) (ws : List Wrapper) :
    (e.inContext l [w]).inContext l ws = e.inContext l (w :: ws) := by
  cases w <;> simp [inContext]

theorem Outcome.inContext_cons (o : Outcome α) (w : Wrapper) (ws : List Wrapper) :
    (o.inContext l [w]).inContext l ws = o.inContext l (w :: ws) := by
  cases o with
  | success y n => rfl
  | failure e committed =>
    rw [inContext, inContext, inContext, ParseError.inContext_cons, Bool.and_assoc,
      ← Bool.not_or, List.contains_cons, List.contains_cons, List.contains_nil, Bool.or_false]

theorem Outcome.inContext_scope (o : Outcome α) (message : String) :
    o.inContext l [.scope message] = o.mapError (·.push l message) := by
  cases o <;> simp [inContext, mapError, ParseError.inContext, ParseError.push]

theorem Outcome.inContext_label (o : Outcome α) (message : String) :
    o.inContext l [.label message] = o.mapError (·.label message) := by
  cases o <;> simp [inContext, mapError, ParseError.inContext, ParseError.label]

theorem Outcome.inContext_attempt (o : Outcome α) : o.inContext l [.attempt] = o.uncommitted := by
  cases o <;> simp [inContext, uncommitted, ParseError.inContext]

end InContext

namespace Parser

variable (p : Parser α) (s : State)

/-- A single wrapper changes what its parser answers. -/
theorem around_eq (w : Wrapper) :
    w.around p s = return (← p s).inContext s.location [w] := by
  cases w with
  | scope message => simp only [Wrapper.around, scope, Outcome.inContext_scope]
  | label message => simp only [Wrapper.around, label, Outcome.inContext_label]
  | attempt => simp only [Wrapper.around, attempt, Outcome.inContext_attempt]

/-- So do many. -/
theorem within_eq (ws : List Wrapper) :
    p.within ws s = return (← p s).inContext s.location ws := by
  induction ws generalizing p with
  | nil =>
    simp only [Outcome.inContext_nil, bind_pure]
    rfl
  | cons w ws ih =>
    have hrest : p.within (w :: ws) s = (w.around p).within ws s := rfl
    rw [hrest, ih, around_eq, bind_assoc]
    simp only [pure_bind, Outcome.inContext_cons]

/-- Only the scopes in their order, the last label and the presence of an attempt matter. -/
theorem within_congr {ws ws' : List Wrapper} (hscopes : Wrapper.scopes ws = Wrapper.scopes ws')
    (hlabel : Wrapper.lastLabel? ws = Wrapper.lastLabel? ws')
    (hattempt : .attempt ∈ ws ↔ .attempt ∈ ws') : p.within ws = p.within ws' := by
  have hcontains : ws.contains .attempt = ws'.contains .attempt := by
    rw [Bool.eq_iff_iff, List.contains_iff_mem, List.contains_iff_mem, hattempt]
  funext s
  rw [within_eq, within_eq]
  refine bind_congr_of_ok fun o _ ↦ ?_
  cases o with
  | success y n => rfl
  | failure e committed =>
    simp only [Outcome.inContext, ParseError.inContext, hscopes, hlabel, hcontains]

/-- Neighbours of different kinds may change places: each list that matters has at most one of
them. -/
theorem within_swap {w w' : Wrapper} (h : w.Apart w') (inner outer : List Wrapper) :
    p.within (inner ++ w :: w' :: outer) = p.within (inner ++ w' :: w :: outer) := by
  refine p.within_congr ?_ ?_ ?_
  · rw [Wrapper.scopes_append, Wrapper.scopes_append]
    cases w <;> cases w' <;> first | exact h.elim | simp
  · rw [Wrapper.lastLabel?_append, Wrapper.lastLabel?_append]
    cases w <;> cases w' <;> first | exact h.elim | simp
  · exact (List.Perm.append_left inner (.swap w' w outer)).mem_iff

/-- **Wrappers put failures in context.** Scopes, labels and attempts around a parser, in any number
and order, keep its successes and faults as they are. A failure keeps its frames where they are; the
innermost one has the message of the last label, if there is a label; and behind the frames there is
one for each scope, in order, where the parser started. It is committed if the parser's own is and
there is no attempt. So sequences with the same scopes in order, the same last label and alike with
an attempt or without make the same parser, and neighbours of different kinds may change places. -/
theorem wrappers_put_failures_in_context (ws : List Wrapper) :
    (∀ fault, p s = .error fault → p.within ws s = .error fault) ∧
    (∀ y n, p s = .ok (.success y n) → p.within ws s = .ok (.success y n)) ∧
    (∀ e committed, p s = .ok (.failure e committed) →
      ∃ e' committed', p.within ws s = .ok (.failure e' committed') ∧
        e'.frames =
          { location := e.innermost.location
            message := (Wrapper.lastLabel? ws).getD e.innermost.message } ::
            (e.outer ++ (Wrapper.scopes ws).map fun message ↦ { location := s.location, message }) ∧
        (committed' = true ↔ committed = true ∧ .attempt ∉ ws)) ∧
    (∀ ws', Wrapper.scopes ws = Wrapper.scopes ws' →
      Wrapper.lastLabel? ws = Wrapper.lastLabel? ws' → (.attempt ∈ ws ↔ .attempt ∈ ws') →
      p.within ws = p.within ws') ∧
    (∀ inner w w' outer, ws = inner ++ w :: w' :: outer → w.Apart w' →
      p.within ws = p.within (inner ++ w' :: w :: outer)) := by
  refine ⟨fun fault run ↦ ?_, fun y n run ↦ ?_, fun e committed run ↦ ?_,
    fun ws' ↦ p.within_congr, ?_⟩
  · rw [within_eq, run]
    rfl
  · rw [within_eq, run]
    rfl
  · refine ⟨e.inContext s.location ws, committed && !ws.contains .attempt, ?_, rfl, by simp⟩
    rw [within_eq, run]
    rfl
  · rintro inner w w' outer rfl h
    exact p.within_swap h inner outer

/-- A word in a scope fails behind its first letter, and commits. Wrappers of all kinds around it
make this an uncommitted failure with two more frames, in the words of the outer label. -/
theorem scoped_word_in_context :
    ∃ e, ((literal "bc").scope "word").within
        [.scope "pair", .label "letter", .attempt, .scope "list", .label "second letter"]
        ((State.start "abx").jump 1) = .ok (.failure e false) ∧
      e.frames.map (fun frame ↦ (frame.location.offset, frame.message)) =
        [(2, "second letter"), (1, "word"), (1, "pair"), (1, "list")] := by
  have hrun : (literal "bc").scope "word" ((State.start "abx").jump 1) =
      .ok (.failure ((((Location.start "abx").jump 2).error "'bc'").push
        ((Location.start "abx").jump 1) "word") true) := rfl
  obtain ⟨e, committed, hfail, hframes, hcommitted⟩ :=
    (wrappers_put_failures_in_context ((literal "bc").scope "word") ((State.start "abx").jump 1)
      [.scope "pair", .label "letter", .attempt, .scope "list", .label "second letter"]).2.2.1
      _ _ hrun
  obtain rfl : committed = false := by simpa using hcommitted
  exact ⟨e, hfail, by rw [hframes]; rfl⟩

end Parser

end Descent
