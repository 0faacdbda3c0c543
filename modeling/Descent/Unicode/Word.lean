import Descent.Unicode.Blank
import Descent.Unicode.Category
import Descent.Unicode.Property.Contributory

/-!
# Word characters

What `\d`, `\s` and `\w` stand for in a pattern. Words are made of alphabetic characters, decimal
digits, marks, connecting punctuation such as the underscore, and the two characters that join or
separate letters.
-/

namespace Descent.Unicode

/-- The characters with the property `Alphabetic`. -/
def alphabetic : CharSet :=
  .union letters (setOfTables [letterNumbers, otherAlphabetic])

/-- The decimal digits of all scripts. -/
def digits : CharSet :=
  decimalDigits.toSet

/-- The characters with the property `White_Space`. -/
def whiteSpace : CharSet :=
  blanks.toSet

/-- The characters with the property `Join_Control`. -/
def joinControls : CharSet :=
  .range '\u200c' '\u200d'

/-- The characters that can be part of a word. -/
def wordCharacters : CharSet :=
  [alphabetic, marks, digits, connectorPunctuation.toSet, joinControls].foldr .union .empty

/-- Whether a character is alphabetic. -/
def isLetter (c : Char) : Bool :=
  alphabetic.contains c

/-- Whether a character is a number: a digit, or a sign such as `½` or `²`. -/
def isNumber (c : Char) : Bool :=
  numbers.contains c

/-- Alphabetic characters can be part of a word. -/
theorem contains_wordCharacters_of_isLetter {c : Char} (h : isLetter c = true) :
    wordCharacters.contains c = true := by
  simp only [isLetter] at h
  simp [wordCharacters, h]

end Descent.Unicode
