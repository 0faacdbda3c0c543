import Descent.Proofs.Anchoring

/-!
# Valid patterns and accepted ones

A pattern is valid if it is an expression by itself, and accepted if its wrapped text is one. These
come apart in two ways, and in no other (`accepted_iff_valid_iff`).

A pattern that is not valid becomes so if it closes the group around it and opens another one, which
the bracket behind it then closes. Nothing else can happen to a pattern that cannot be read: what it
breaks off, an escape or a class or flags, takes the bracket behind it, and then the group around is
not closed at all (`Draft.Unopened.readAll_front`).

A valid pattern is read in its brackets as what it is alone, if the bracket behind it is not lost in
a comment. Then it may still exceed a limit: its levels are two more, and its automata are those of
the pattern behind an anchor. What the limits are does not matter for any of this, and memory is
counted differently from one engine to the next, so they are any condition on what has been read.
The limits of `ofPattern?` and `ofSource?` are `Regex.Nested.Admissible`.
-/

namespace Descent

namespace Regex

/-- In a pattern that can be read by itself, no bracket of its own closes nothing. -/
theorem rest_eq_nil_of_unopened {source : String} {r : Nested} {p : Draft} {rest : List Char}
    (h : read? source = some r) (hunopened : Draft.start.Unopened (source.toList ++ [')']) p rest) :
    rest = [] := by
  rcases unopened_of_read? h with ⟨-, q, hlast, -⟩ | ⟨-, hnone⟩
  · exact (hunopened.unique hlast).2
  · exact absurd hunopened (hnone p rest)

variable {limits : Nested → Prop} [DecidablePred limits]

theorem isSome_ofPatternWithin?_iff {pattern : String} :
    (ofPatternWithin? limits pattern).isSome ↔ ∃ r, read? pattern = some r ∧ limits r := by
  rw [Option.isSome_iff_exists]
  constructor
  · rintro ⟨regex, hregex⟩
    obtain ⟨r, hr, hlimits, -⟩ := ofPatternWithin?_eq_some_iff.1 hregex
    exact ⟨r, hr, hlimits⟩
  · rintro ⟨r, hr, hlimits⟩
    exact ⟨r.regex, ofPatternWithin?_eq_some_iff.2 ⟨r, hr, hlimits, rfl⟩⟩

end Regex

namespace Pattern

open Regex

variable {limits : Nested → Prop} [DecidablePred limits]

theorem isSome_ofSourceWithin?_iff {source : String} :
    (ofSourceWithin? limits source).isSome ↔ ∃ r, read? (wrapped source) = some r ∧ limits r := by
  rw [ofSourceWithin?, Option.isSome_map, isSome_ofPatternWithin?_iff]

/-- A pattern that can be read by itself is accepted if it does not end in a comment and is within
the limits behind the anchor. -/
theorem isSome_ofSourceWithin?_iff_of_read? {source : String} {r : Nested}
    (h : read? source = some r) :
    (ofSourceWithin? limits source).isSome ↔ ¬ SwallowsBracket source ∧ limits r.anchored := by
  rw [isSome_ofSourceWithin?_iff]
  constructor
  · rintro ⟨r', hr', hlimits⟩
    obtain ⟨hopen, rfl⟩ := (read?_wrapped_iff h).1 hr'
    exact ⟨hopen, hlimits⟩
  · rintro ⟨hopen, hlimits⟩
    exact ⟨_, (read?_wrapped_iff h).2 ⟨hopen, rfl⟩, hlimits⟩

/-- A pattern that cannot be read by itself is accepted if a bracket of its own closes the group
around it, and what stands behind that bracket completes an expression within the limits. -/
theorem isSome_ofSourceWithin?_iff_of_read?_eq_none {source : String} (h : read? source = none) :
    (ofSourceWithin? limits source).isSome ↔
      ∃ p rest r, Draft.start.Unopened (source.toList ++ [')']) p rest ∧ rest ≠ [] ∧
        (p.closeInto anchorGroup).expression? rest = some r ∧ limits r := by
  rw [isSome_ofSourceWithin?_iff]
  constructor
  · rintro ⟨r, hr, hlimits⟩
    obtain ⟨p, rest, hunopened, hrest⟩ := read?_wrapped_eq_some_iff.1 hr
    refine ⟨p, rest, r, hunopened, ?_, hrest, hlimits⟩
    rintro rfl
    cases h ▸ isSome_read?_of_unopened hunopened
  · rintro ⟨p, rest, r, hunopened, -, hrest, hlimits⟩
    exact ⟨r, read?_wrapped_eq_some_iff.2 ⟨p, rest, hunopened, hrest⟩, hlimits⟩

/-- **When exactly the valid patterns are accepted.** Whatever the limits for expressions are, a
pattern is accepted if and only if it is valid by itself, or else one of two things is the case:

* It closes the group that is put around it. Reading it comes to a bracket of its own that closes
  nothing, and behind that bracket, in the group around, the rest of the pattern and the bracket
  behind it complete an expression within the limits. Such a pattern is accepted and not valid.
* It can be read by itself, and the text around it decides about it: it is within the limits by
  itself, but it ends in a comment, or is not within them behind the anchor; or the other way
  round.

With the limits `Nested.Admissible`, this is about `ofSource?` and `ofPattern?`. -/
theorem accepted_iff_valid_iff (limits : Nested → Prop) [DecidablePred limits] (source : String) :
    ((ofSourceWithin? limits source).isSome ↔ (ofPatternWithin? limits source).isSome) ↔
      (∀ p rest r, Draft.start.Unopened (source.toList ++ [')']) p rest → rest ≠ [] →
        (p.closeInto anchorGroup).expression? rest = some r → ¬ limits r) ∧
      ∀ r, read? source = some r →
        (limits r ↔ ¬ SwallowsBracket source ∧ limits r.anchored) := by
  rw [isSome_ofPatternWithin?_iff]
  rcases hread : read? source with - | r
  · rw [isSome_ofSourceWithin?_iff_of_read?_eq_none hread]
    constructor
    · refine fun h ↦ ⟨fun p rest r hunopened hrest hall hlimits ↦ ?_, nofun⟩
      obtain ⟨r', hr', -⟩ := h.1 ⟨p, rest, r, hunopened, hrest, hall, hlimits⟩
      cases hr'
    · rintro ⟨hown, -⟩
      constructor
      · rintro ⟨p, rest, r, hunopened, hrest, hall, hlimits⟩
        exact absurd hlimits (hown p rest r hunopened hrest hall)
      · rintro ⟨r', hr', -⟩
        cases hr'
  · have hvalid : (∃ r', some r = some r' ∧ limits r') ↔ limits r := by
      simp only [Option.some.injEq, exists_eq_left']
    rw [isSome_ofSourceWithin?_iff_of_read? hread, hvalid]
    constructor
    · refine fun h ↦ ⟨fun p rest _ hunopened hrest ↦ ?_, fun r' hr' ↦ ?_⟩
      · exact absurd (rest_eq_nil_of_unopened hread hunopened) hrest
      · cases hr'
        exact h.symm
    · exact fun h ↦ (h.2 r rfl).symm

/-- A pattern that closes the group around it is accepted without being valid, and one that ends in
a comment is valid without being accepted. -/
theorem unopened_bracket_accepted :
    ((ofSource? "a)(?:b").isSome ∧ ofPattern? "a)(?:b" = none) ∧
      (ofPattern? "(?x)a # c").isSome ∧ (ofSource? "(?x)a # c").isNone := by
  refine ⟨⟨rfl, rfl⟩, rfl, rfl⟩

end Pattern

end Descent
