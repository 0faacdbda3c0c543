/-!
# Decimal numbers in text

Numbers as texts spell them: ASCII digits, at least one, with or without a sign. Leading zeros are
allowed, blanks and separators are not.
-/

namespace Descent.Text

/-- The number that digits spell after `value`, and nothing if one of the characters is no digit. -/
def decimalFrom (value : Nat) : List Char → Option Nat
  | [] => some value
  | c :: cs => if c.isDigit then decimalFrom (10 * value + (c.toNat - '0'.toNat)) cs else none

/-- The number spelled by digits, of which there is at least one. -/
def decimal? : List Char → Option Nat
  | [] => none
  | c :: cs => decimalFrom 0 (c :: cs)

/-- The number spelled by digits with or without a plus sign. -/
def natural? : List Char → Option Nat
  | '+' :: cs => decimal? cs
  | cs => decimal? cs

/-- The number spelled by digits with or without a sign. -/
def integer? : List Char → Option Int
  | '-' :: cs => (decimal? cs).map fun n ↦ -(n : Int)
  | cs => (natural? cs).map fun n ↦ (n : Int)

example : natural? "+007".toList = some 7 := by decide
example : natural? "-7".toList = none := by decide
example : integer? "-7".toList = some (-7) := by decide
example : integer? "+-7".toList = none := by decide
example : integer? "-".toList = none := by decide

end Descent.Text
