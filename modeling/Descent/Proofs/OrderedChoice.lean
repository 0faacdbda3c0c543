import Descent.Proofs.Failures

/-!
# Ordered choice

Alternatives are put together two at a time, with brackets around them in one way or another
(`Choice`). The brackets do not matter, since `orElse` is associative: whatever they are, the first
alternative is tried with all others behind it (`Choice.parser_eq_foldr`). An alternative that
declines, which is to fail without committing, falls away from the front of such a chain, and one
that does not declines to look at what is behind it.

So the answer is that of the first alternative which does not decline, or else of the last one
(`Choice.first_decisive_alternative_answers`). An attempt declines wherever its parser fails, so
under attempts it is the first alternative that does not fail.
-/

namespace Descent

variable {α : Type}

namespace Parser

/-- The parser fails at `s` without committing, and leaves the choice to other parsers. -/
def Declines (p : Parser α) (s : State) : Prop :=
  ∃ e, p s = .ok (.failure e false)

/-- The parser fails at `s`, committed or not. -/
def Fails (p : Parser α) (s : State) : Prop :=
  ∃ e committed, p s = .ok (.failure e committed)

variable {p q r : Parser α} {s : State}

theorem Declines.fails (h : p.Declines s) : p.Fails s := by
  obtain ⟨e, run⟩ := h
  exact ⟨e, false, run⟩

theorem orElse_of_declines (q : Parser α) (h : p.Declines s) : p.orElse q s = q s := by
  obtain ⟨e, run⟩ := h
  exact orElse_of_uncommitted q run

theorem orElse_of_not_declines (q : Parser α) (h : ¬ p.Declines s) : p.orElse q s = p s := by
  rcases run : p s with fault | ⟨y, n⟩ | ⟨e, - | -⟩
  · exact orElse_of_error q run
  · exact orElse_of_success q run
  · exact absurd ⟨e, run⟩ h
  · exact orElse_of_committed q run

theorem orElse_declines_iff : (p.orElse q).Declines s ↔ p.Declines s ∧ q.Declines s := by
  by_cases h : p.Declines s
  · simp only [Declines, orElse_of_declines q h]
    exact ⟨fun hq ↦ ⟨h, hq⟩, fun hpq ↦ hpq.2⟩
  · simp only [Declines, orElse_of_not_declines q h]
    exact ⟨fun hp ↦ absurd hp h, fun hpq ↦ hpq.1⟩

/-- Three alternatives are tried in order, whichever two of them are in brackets. -/
theorem orElse_assoc (p q r : Parser α) : (p.orElse q).orElse r = p.orElse (q.orElse r) := by
  funext s
  by_cases hp : p.Declines s
  · rw [orElse_of_declines _ hp]
    by_cases hq : q.Declines s
    · rw [orElse_of_declines _ (orElse_declines_iff.2 ⟨hp, hq⟩), orElse_of_declines _ hq]
    · rw [orElse_of_not_declines _ fun h ↦ hq (orElse_declines_iff.1 h).2,
        orElse_of_declines _ hp, orElse_of_not_declines _ hq]
  · rw [orElse_of_not_declines _ fun h ↦ hp (orElse_declines_iff.1 h).1,
      orElse_of_not_declines _ hp, orElse_of_not_declines _ hp]

/-- Under an attempt, every failure leaves the choice to others. -/
theorem attempt_declines_iff : p.attempt.Declines s ↔ p.Fails s := by
  rcases run : p s with fault | ⟨y, n⟩ | ⟨e, committed⟩ <;>
    simp [Declines, Fails, attempt, run, Outcome.uncommitted, bind, Except.bind]

theorem attempt_of_not_fails (h : ¬ p.Fails s) : p.attempt s = p s := by
  rcases run : p s with fault | ⟨y, n⟩ | ⟨e, committed⟩
  · rw [attempt, run]
    rfl
  · rw [attempt, run]
    rfl
  · exact absurd ⟨e, committed, run⟩ h

/-- Alternatives that decline fall away from the front. -/
theorem foldr_orElse_of_declines {front : List (Parser α)} (h : ∀ p ∈ front, p.Declines s)
    (last : Parser α) : front.foldr orElse last s = last s := by
  induction front with
  | nil => rfl
  | cons p front ih =>
    rw [List.foldr_cons, orElse_of_declines _ (h p List.mem_cons_self)]
    exact ih fun q hq ↦ h q (List.mem_cons_of_mem p hq)

end Parser

/-- Alternatives in order, with brackets around two at a time. -/
inductive Choice (α : Type) where
  /-- A single parser. -/
  | one (p : Parser α)
  /-- Those of `first`, and behind them those of `second`. -/
  | either (first second : Choice α)

namespace Choice

/-- The alternatives without their brackets. -/
def alternatives : Choice α → List (Parser α)
  | one p => [p]
  | either first second => first.alternatives ++ second.alternatives

/-- The alternatives put together as the brackets say. -/
def parser : Choice α → Parser α
  | one p => p
  | either first second => first.parser.orElse second.parser

theorem alternatives_ne_nil (c : Choice α) : c.alternatives ≠ [] := by
  induction c with
  | one p => exact List.cons_ne_nil p []
  | either first second ih _ => exact List.append_ne_nil_of_left_ne_nil ih _

/-- With another parser behind a choice, each of its alternatives has all others behind it. -/
theorem parser_orElse (c : Choice α) (q : Parser α) :
    c.parser.orElse q = c.alternatives.foldr Parser.orElse q := by
  induction c generalizing q with
  | one p => rfl
  | either first second ih ih' =>
    rw [parser, Parser.orElse_assoc, ih' q, ih, alternatives, List.foldr_append]

/-- The brackets may be put to the right. -/
theorem parser_eq_foldr {c : Choice α} {front : List (Parser α)} {last : Parser α}
    (h : c.alternatives = front ++ [last]) : c.parser = front.foldr Parser.orElse last := by
  induction c generalizing front with
  | one p =>
    have hone : [] ++ [p] = front ++ [last] := h
    obtain ⟨rfl, hlast⟩ := List.append_inj' hone rfl
    obtain rfl := List.singleton_inj.1 hlast
    rfl
  | either first second _ ih =>
    have hsecond := List.dropLast_concat_getLast second.alternatives_ne_nil
    rw [alternatives, ← hsecond, ← List.append_assoc] at h
    obtain ⟨rfl, hlast⟩ := List.append_inj' h rfl
    obtain rfl := List.singleton_inj.1 hlast
    rw [parser, parser_orElse, ih hsecond.symm, List.foldr_append]

section Answer

variable {c : Choice α} {s : State} {before after front : List (Parser α)} {p last : Parser α}

/-- If all alternatives but the last decline, then the last one answers. -/
theorem parser_of_declines (h : c.alternatives = front ++ [last])
    (hfront : ∀ q ∈ front, q.Declines s) : c.parser s = last s := by
  rw [parser_eq_foldr h]
  exact Parser.foldr_orElse_of_declines hfront last

/-- The first alternative that does not decline answers, whatever stands behind it. -/
theorem parser_of_not_declines (h : c.alternatives = before ++ p :: after)
    (hbefore : ∀ q ∈ before, q.Declines s) (hp : ¬ p.Declines s) : c.parser s = p s := by
  rcases List.eq_nil_or_concat after with rfl | ⟨more, last, rfl⟩
  · exact parser_of_declines h hbefore
  · have hchain : c.alternatives = (before ++ p :: more) ++ [last] := by
      rw [h, List.concat_eq_append, List.append_assoc, List.cons_append]
    rw [parser_eq_foldr hchain, List.foldr_append,
      Parser.foldr_orElse_of_declines hbefore, List.foldr_cons, Parser.orElse_of_not_declines _ hp]

end Answer

/-- **A choice is ordered.** Take alternatives in any brackets, and a state.

* If some decline there and the next one does not, then the answer is that of the next one. Any
  other choice that begins with these alternatives gives it too, whatever it has behind them.
* If all decline, then the answer is that of the last one.
* If all but the last one are attempts of other parsers, then these need only fail: the answer is
  that of the first of these parsers which does not fail, or if all of them fail, that of the last
  alternative. -/
theorem first_decisive_alternative_answers (c : Choice α) (s : State) :
    (∀ before p after, c.alternatives = before ++ p :: after → (∀ q ∈ before, q.Declines s) →
      ¬ p.Declines s → c.parser s = p s ∧
        ∀ (d : Choice α) after', d.alternatives = before ++ p :: after' →
          d.parser s = c.parser s) ∧
    (∀ front last, c.alternatives = front ++ [last] → (∀ q ∈ c.alternatives, q.Declines s) →
      c.parser s = last s) ∧
    ∀ front last, c.alternatives = front.map Parser.attempt ++ [last] →
      (∀ before p after, front = before ++ p :: after → (∀ q ∈ before, q.Fails s) →
        ¬ p.Fails s → c.parser s = p s) ∧
      ((∀ q ∈ front, q.Fails s) → c.parser s = last s) := by
  have hattempts : ∀ {ps : List (Parser α)}, (∀ q ∈ ps, q.Fails s) →
      ∀ q ∈ ps.map Parser.attempt, q.Declines s := fun h ↦
    List.forall_mem_map.2 fun q hq ↦ Parser.attempt_declines_iff.2 (h q hq)
  refine ⟨fun before p after h hbefore hp ↦ ?_, fun front last h hall ↦ ?_,
    fun front last h ↦ ⟨?_, fun hfront ↦ parser_of_declines h (hattempts hfront)⟩⟩
  · have hanswer : c.parser s = p s := parser_of_not_declines h hbefore hp
    exact ⟨hanswer, fun d after' h' ↦
      (parser_of_not_declines h' hbefore hp).trans hanswer.symm⟩
  · exact parser_of_declines h fun q hq ↦ hall q (h ▸ List.mem_append_left [last] hq)
  · rintro before p after rfl hbefore hp
    rw [List.map_append, List.map_cons, List.append_assoc, List.cons_append] at h
    have hdecisive : ¬ p.attempt.Declines s := fun hdeclines ↦
      hp (Parser.attempt_declines_iff.1 hdeclines)
    rw [parser_of_not_declines h (hattempts hbefore) hdecisive, Parser.attempt_of_not_fails hp]

/-- A word that is found in part hides one that would be found behind it, wherever the brackets are;
an attempt at it does not. -/
theorem partial_word_decides :
    (Choice.either (.either (.one (.literal "é")) (.one (.literal "ab")))
        (.one (.literal "ad"))).parser (.start "ad") =
        .ok (.failure (((Location.start "ad").jump 1).error "'ab'") true) ∧
      (Choice.either (.one (Parser.literal "é").attempt)
        (.either (.one (Parser.literal "ab").attempt) (.one (.literal "ad")))).parser
        (.start "ad") = .ok (.success (.value "ad") 2) := by
  have hfirst : (Parser.literal "é").Declines (.start "ad") := ⟨_, rfl⟩
  have hsecond : Parser.literal "ab" (.start "ad") =
      .ok (.failure (((Location.start "ad").jump 1).error "'ab'") true) := rfl
  constructor
  · have hdecisive : ¬ (Parser.literal "ab").Declines (.start "ad") := by
      rintro ⟨e, run⟩
      cases hsecond.symm.trans run
    have hanswer := (first_decisive_alternative_answers
      (.either (.either (.one (.literal "é")) (.one (.literal "ab"))) (.one (.literal "ad")))
      (.start "ad")).1 [.literal "é"] (.literal "ab") [.literal "ad"] rfl
      (List.forall_mem_singleton.2 hfirst) hdecisive
    exact hanswer.1.trans hsecond
  · have hfails : ∀ q ∈ [Parser.literal "é", .literal "ab"], q.Fails (.start "ad") :=
      List.forall_mem_cons.2 ⟨hfirst.fails, List.forall_mem_singleton.2 ⟨_, _, hsecond⟩⟩
    exact ((first_decisive_alternative_answers
      (.either (.one (Parser.literal "é").attempt)
        (.either (.one (Parser.literal "ab").attempt) (.one (.literal "ad"))))
      (.start "ad")).2.2 [.literal "é", .literal "ab"] (.literal "ad") rfl).2 hfails

end Choice

end Descent
