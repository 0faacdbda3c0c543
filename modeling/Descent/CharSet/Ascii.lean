import Descent.CharSet.Basic

/-!
# Sets within ASCII

The sets that a class in brackets calls by name, as in `[[:alpha:]]`. They hold characters of ASCII
only, whatever a pattern's flags are.
-/

namespace Descent.CharSet

/-- The decimal digits of ASCII. -/
def asciiDigit : CharSet :=
  range '0' '9'

/-- The letters of ASCII. -/
def asciiLetter : CharSet :=
  union (range 'A' 'Z') (range 'a' 'z')

/-- The white space of ASCII. -/
def asciiBlank : CharSet :=
  union (range '\t' '\r') (single ' ')

/-- The word characters of ASCII. -/
def asciiWord : CharSet :=
  union asciiLetter (union asciiDigit (single '_'))

/-- Whether all members of a set are characters of ASCII. -/
def isAscii (s : CharSet) : Bool :=
  (diff s (range '\x00' '\x7f')).isEmpty

/-- The letter of ASCII in the other case; any other character stays as it is. -/
def swapAsciiCase (c : Char) : Char :=
  if c.isUpper then c.toLower else c.toUpper

/-- The characters that agree with one of a set up to the case of letters of ASCII. -/
def asciiClosure (s : CharSet) : CharSet :=
  let letters := (List.range 128).map Char.ofNat
  union (ofList (letters.filter fun c ↦ s.contains (swapAsciiCase c))) s

/-- Closure under change of case loses no character. -/
theorem contains_asciiClosure_of_contains {s : CharSet} {c : Char} (h : s.contains c = true) :
    (asciiClosure s).contains c = true := by
  simp [asciiClosure, h]

/-- The set of a name. -/
def named? : String → Option CharSet
  | "alnum" => some (union asciiLetter asciiDigit)
  | "alpha" => some asciiLetter
  | "ascii" => some (range '\x00' '\x7f')
  | "blank" => some (union (single '\t') (single ' '))
  | "cntrl" => some (union (range '\x00' '\x1f') (single '\x7f'))
  | "digit" => some asciiDigit
  | "graph" => some (range '!' '~')
  | "lower" => some (range 'a' 'z')
  | "print" => some (range ' ' '~')
  | "punct" => some (ofRanges [('!', '/'), (':', '@'), ('[', '\x60'), ('\x7b', '~')])
  | "space" => some asciiBlank
  | "upper" => some (range 'A' 'Z')
  | "word" => some asciiWord
  | "xdigit" => some (ofRanges [('0', '9'), ('A', 'F'), ('a', 'f')])
  | _ => none

end Descent.CharSet
