import Descent.Pattern
import Descent.Proofs.UnopenedBracket

/-!
# Patterns that stay in their brackets

The text that is read for a pattern is an anchor and a group around the pattern. So it is read as
the bracket decides that is the first to close nothing (`read?_wrapped_eq_some_iff`), which may be
one of the pattern's own.

In a pattern that can be read by itself there is no such bracket but the one that is put behind it.
So it means in its brackets what it means alone: its wrapped text is the start of the text, and the
pattern behind it. It is looked for at the start of a text only (`startBound_of_read?`). But the
bracket behind it may be lost in a comment, and then the wrapped text cannot be read
(`read?_wrapped_iff`).
-/

namespace Descent.Regex

/-- The group that stands around the text of a pattern: behind the start of the text. -/
def anchorGroup : OpenGroup where
  number? := none
  outside := {}
  items := [some { regex := .look .textStart, depth := 0 }]

/-- The start of the text, and the expression in a group behind it. -/
def Nested.anchored (r : Nested) : Nested where
  regex := .concat [.look .textStart, r.regex]
  depth := r.depth + 2

/-- The closing bracket behind a pattern does not close anything: it is part of a comment. -/
def SwallowsBracket (source : String) : Prop :=
  (read? (source ++ ")")).isSome

theorem read?_eq (pattern : String) : read? pattern = Draft.start.expression? pattern.toList := by
  rw [read?, Draft.expression?, Draft.readAll]
  rcases Draft.readTokens _ _ _ <;> rfl

/-- The text in front of a pattern is read as an anchor and an open group. -/
theorem readTokens_anchor (fuel : Nat) (cs : List Char) :
    Draft.readTokens (fuel + 2) .start ('^' :: '(' :: '?' :: ':' :: cs) =
      Draft.readTokens fuel (Draft.start.within anchorGroup) cs :=
  rfl

theorem toList_wrapped (source : String) :
    (Pattern.wrapped source).toList = '^' :: '(' :: '?' :: ':' :: (source.toList ++ [')']) := by
  simp [Pattern.wrapped, String.toList_append]

theorem read?_wrapped_eq (source : String) :
    read? (Pattern.wrapped source) =
      (Draft.start.within anchorGroup).expression? (source.toList ++ [')']) := by
  rw [read?_eq, Draft.expression?, Draft.expression?, toList_wrapped]
  congr 1
  rw [Draft.readAll, Draft.readAll, List.length_cons, List.length_cons, List.length_cons,
    List.length_cons, readTokens_anchor]
  exact Draft.readTokens_congr (by omega) (by omega)

/-- **What the wrapped text is read as.** The first bracket that closes nothing in the pattern, with
the bracket behind it, closes the group around; and what stands behind that bracket is read as the
rest of the expression. -/
theorem read?_wrapped_eq_some_iff {source : String} {r : Nested} :
    read? (Pattern.wrapped source) = some r ↔
      ∃ p rest, Draft.start.Unopened (source.toList ++ [')']) p rest ∧
        (p.closeInto anchorGroup).expression? rest = some r := by
  rw [read?_wrapped_eq, Draft.expression?_within_eq_some_iff]

/-- What is read comes from a draft without open groups. -/
theorem exists_of_read? {source : String} {r : Nested} (h : read? source = some r) :
    ∃ p, Draft.start.readAll source.toList = some p ∧ p.outer = [] ∧ p.here.content = r := by
  rw [read?_eq, Draft.expression?] at h
  obtain ⟨p, hread, hfinish⟩ := Option.bind_eq_some_iff.1 h
  unfold Draft.finish at hfinish
  split at hfinish
  · exact ⟨p, hread, ‹_›, Option.some.inj hfinish⟩
  · cases hfinish

/-- A draft that closes the group around it becomes what it is by itself, behind the anchor. -/
theorem expression?_closeInto {p : Draft} {cs : List Char} (h : Draft.start.readAll cs = some p)
    (hclosed : p.outer = []) :
    (p.closeInto anchorGroup).expression? [] = some p.here.content.anchored := by
  have hplain : p.here.number? = none := by
    have hlast := Draft.getLast?_numbers_readAll h
    rw [Draft.numbers, hclosed] at hlast
    exact Option.some.inj hlast
  have hclose : p.here.close =
      { regex := p.here.content.regex, depth := p.here.content.depth + 1 } := by
    rw [OpenGroup.close, hplain]
  have hend : (p.closeInto anchorGroup).readAll [] = some (p.closeInto anchorGroup) :=
    Draft.readAll_of_end (Flags.skip_nil _)
  rw [Draft.expression?, hend, Option.bind_some, Draft.closeInto, hclose]
  simp [Draft.finish, OpenGroup.content, OpenGroup.branch, OpenGroup.add, anchorGroup,
    depthOfParts, Nested.anchored]

theorem read?_bracketed (source : String) :
    read? (source ++ ")") = Draft.start.expression? (source.toList ++ [')']) := by
  rw [read?_eq, String.toList_append]
  rfl

/-- A pattern that can be read by itself closes the group around it with the bracket behind it, and
is read as the start of the text and itself; or it ends in a comment, and closes nothing. -/
theorem unopened_of_read? {source : String} {r : Nested} (h : read? source = some r) :
    (¬ SwallowsBracket source ∧ ∃ p, Draft.start.Unopened (source.toList ++ [')']) p [] ∧
        (p.closeInto anchorGroup).expression? [] = some r.anchored) ∨
      SwallowsBracket source ∧
        ∀ p rest, ¬ Draft.start.Unopened (source.toList ++ [')']) p rest := by
  obtain ⟨p, hread, hclosed, rfl⟩ := exists_of_read? h
  rcases Draft.unopened_of_readAll (.concat _) hread hclosed with hunopened | hall
  · refine Or.inl ⟨fun hswallows ↦ ?_, p, hunopened, expression?_closeInto hread hclosed⟩
    rw [SwallowsBracket, read?_bracketed, Draft.expression?, hunopened.readAll_eq_none] at hswallows
    cases hswallows
  · refine Or.inr ⟨?_, fun q rest hunopened ↦ ?_⟩
    · rw [SwallowsBracket, read?_bracketed, Draft.expression?, hall, Option.bind_some,
        Draft.finish, hclosed]
      rfl
    · cases hall.symm.trans hunopened.readAll_eq_none

/-- **A pattern that can be read by itself stays in its brackets.** If its wrapped text can be read
as well, then as the start of the text and the pattern behind it; and so it is if the pattern does
not end in a comment. -/
theorem read?_wrapped_iff {source : String} {r r' : Nested} (h : read? source = some r) :
    read? (Pattern.wrapped source) = some r' ↔ ¬ SwallowsBracket source ∧ r' = r.anchored := by
  rw [read?_wrapped_eq_some_iff]
  rcases unopened_of_read? h with ⟨hopen, p, hunopened, hall⟩ | ⟨hswallows, hnone⟩
  · constructor
    · rintro ⟨q, rest, hunopened', hall'⟩
      obtain ⟨rfl, rfl⟩ := hunopened.unique hunopened'
      exact ⟨hopen, Option.some.inj (hall'.symm.trans hall)⟩
    · rintro ⟨-, rfl⟩
      exact ⟨p, [], hunopened, hall⟩
  · exact ⟨fun ⟨q, rest, hunopened, _⟩ ↦ absurd hunopened (hnone q rest),
      fun ⟨hopen, _⟩ ↦ absurd hswallows hopen⟩

/-- If the bracket behind a pattern is the first to close nothing, then the pattern can be read by
itself. -/
theorem isSome_read?_of_unopened {source : String} {p : Draft}
    (h : Draft.start.Unopened (source.toList ++ [')']) p []) : (read? source).isSome := by
  rw [read?_eq, Draft.expression?, h.readAll_front (.concat _), Option.bind_some, Draft.finish,
    h.outer_eq_nil]
  rfl

/-- Behind the start of the text, matches are found at the start of a text only. -/
theorem startBound_concat (r : Regex) : (concat [.look .textStart, r]).startBound = true := by
  have hfactors : ([.look .textStart, r] : List Regex).flatMap factors =
      .look .textStart :: r.factors := by
    simp [factors]
  rw [concat, hfactors, List.foldr_cons, consFactor]
  · cases r.factors.foldr consFactor [] with
    | nil => rfl
    | cons s rs => simp [ofFactors, startBound]
  · exact nofun

/-- So a pattern that can be read by itself is looked for at the start of a text only. -/
theorem startBound_of_read? {source : String} {r : Nested}
    (hr : read? (Pattern.wrapped source) = some r) (h : (read? source).isSome) :
    r.regex.startBound = true := by
  obtain ⟨r', hr'⟩ := Option.isSome_iff_exists.1 h
  rw [((read?_wrapped_iff hr').1 hr).2]
  exact startBound_concat r'.regex

end Descent.Regex
