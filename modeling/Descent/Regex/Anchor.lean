import Descent.CharSet.Basic

/-!
# Anchors

An anchor is a condition on a place in a text. It looks at the two characters around the place.
Since an expression is matched against the text behind some place of an input, the start of that
text is where `textStart` holds.
-/

namespace Descent

/-- The characters on both sides of a place in a text; none at its ends. -/
structure Surroundings where
  /-- The character before the place. -/
  before? : Option Char
  /-- The character behind the place. -/
  behind? : Option Char

/-- Where a word begins or ends. -/
inductive Edge where
  /-- A word begins or ends here. -/
  | boundary
  /-- No word begins or ends here. -/
  | inside
  /-- A word begins here. -/
  | first
  /-- A word ends here. -/
  | last
  /-- No word goes on from before this place. -/
  | firstHalf
  /-- No word goes on behind this place. -/
  | lastHalf
deriving DecidableEq

/-- Whether a place is such an edge, from whether word characters stand before and behind it. -/
def Edge.holds : Edge → Bool → Bool → Bool
  | boundary, before, behind => before != behind
  | inside, before, behind => before == behind
  | first, before, behind => !before && behind
  | last, before, behind => before && !behind
  | firstHalf, before, _ => !before
  | lastHalf, _, behind => !behind

/-- A condition on a place in a text. -/
inductive Anchor where
  /-- The start of the text. -/
  | textStart
  /-- The end of the text. -/
  | textEnd
  /-- The start of a line. -/
  | lineStart
  /-- The end of a line. -/
  | lineEnd
  /-- The start of a line, where carriage returns end lines too. -/
  | lineStartReturn
  /-- The end of a line, where carriage returns end lines too. -/
  | lineEndReturn
  /-- The edge of a word made of the characters of a set. -/
  | edge (edge : Edge) (letters : CharSet)
deriving DecidableEq

/-- Whether the anchor holds at a place. A line feed after a carriage return belongs to the same
line ending, so that no line starts or ends between them. -/
def Anchor.holds (a : Anchor) (around : Surroundings) : Bool :=
  match a with
  | textStart => around.before?.isNone
  | textEnd => around.behind?.isNone
  | lineStart => around.before?.all (· == '\n')
  | lineEnd => around.behind?.all (· == '\n')
  | lineStartReturn =>
    around.before?.all fun c ↦ c == '\n' || c == '\r' && around.behind? != some '\n'
  | lineEndReturn =>
    around.behind?.all fun c ↦ c == '\r' || c == '\n' && around.before? != some '\r'
  | edge e letters =>
    e.holds (around.before?.any letters.contains) (around.behind?.any letters.contains)

end Descent
