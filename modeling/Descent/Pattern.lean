import Descent.Regex.Reader
import Descent.Regex.Search

/-!
# Patterns

A pattern that a parser matches at its location. The pattern's text is put between `^(?:` and `)`
and read as a whole, so the text need not be an expression by itself: `a)(?:b` is a pattern, and
`a)|(?:b` is one whose second alternative stands outside of what `^` governs, and may be found
further on. What is consumed ends where the match ends, wherever it begins.

Parsers only ask a pattern for its first match in a text. A pattern therefore is any search whose
matches stand in the text searched; that of `Pattern.ofSource?` is the one that runs.
-/

namespace Descent

/-- An expression to be matched at a location, with the text it was written as. -/
structure Pattern where
  /-- The text of the pattern. -/
  source : String
  /-- The first match in a text. -/
  find : List Char → Option Regex.Program.Found
  /-- A match stands in the text that was searched, behind what was skipped. -/
  exists_of_find : ∀ {text : List Char} {found : Regex.Program.Found}, find text = some found →
    ∃ behind, text = found.skipped ++ found.text ++ behind

namespace Pattern

open Regex

/-- The text that is read for a pattern: the pattern in a group, behind a `^`. -/
def wrapped (source : String) : String :=
  "^(?:" ++ source ++ ")"

/-- The pattern that looks for an expression by running its program. -/
def ofRegex (source : String) (regex : Regex) : Pattern :=
  let program := regex.program
  { source, find := program.find, exists_of_find := Program.exists_of_find }

/-- The pattern written as `source`, if its wrapped text is a valid expression within limits. -/
def ofSourceWithin? (limits : Nested → Prop) [DecidablePred limits] (source : String) :
    Option Pattern :=
  (ofPatternWithin? limits (wrapped source)).map (ofRegex source)

/-- The pattern written as `source`, if its wrapped text is a valid expression. -/
def ofSource? (source : String) : Option Pattern :=
  ofSourceWithin? Nested.Admissible source

end Pattern

end Descent
