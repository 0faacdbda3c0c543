import Descent.Fault
import Descent.Text.Decimal

/-!
# Dynamic values

The values of parsers that are put together while a program runs, when their types are not known
beforehand. Values have the shapes of data formats: nothing, truth values, integers, text, lists and
records.

An operation on values of the wrong shape gives `null`, so that mapping never fails.
-/

namespace Descent

/-- A value of a shape that is known only when it is looked at. -/
inductive Value where
  /-- Nothing. -/
  | null
  /-- A truth value. -/
  | bool (b : Bool)
  /-- An integer. -/
  | int (n : Int)
  /-- Text. -/
  | text (s : String)
  /-- Values in a row. -/
  | list (vs : List Value)
  /-- Values with names. -/
  | record (fields : List (String × Value))
deriving Inhabited

namespace Value

/-! ### Values of common types -/

/-- The value with no information. -/
def unit : Value :=
  record [("unit", list [])]

/-- Two values. -/
def pair (a b : Value) : Value :=
  record [("pair", list [a, b])]

/-- A value that may be missing. -/
def ofOption : Option Value → Value
  | none => null
  | some v => record [("some", v)]

/-! ### Functions of one value -/

/-- The number of bytes of a text, or of items of a list. -/
def length : Value → Value
  | text s => int s.utf8ByteSize
  | list vs => int vs.length
  | _ => null

/-- Whether a number is a signed 64-bit integer. -/
def isWord (n : Int) : Bool :=
  -0x8000000000000000 ≤ n && n < 0x8000000000000000

/-- The number that a text spells, if it is a signed 64-bit integer. -/
def integer : Value → Value
  | text s =>
    match Text.integer? s.toList with
    | some n => if isWord n then int n else null
    | none => null
  | _ => null

/-- The text of a value that is one. -/
def text? : Value → Option String
  | text s => some s
  | _ => none

/-- The texts of a list put together; its other items are left out. -/
def join : Value → Value
  | list vs => text (String.join (vs.filterMap text?))
  | _ => null

/-- A value under a name. -/
def tag (name : String) (v : Value) : Value :=
  record [(name, v)]

/-- The number of turns that a value asks for: the number that a text spells, or else its length in
bytes; the length of a list; and none for any other value. -/
def turns : Value → Nat
  | text s =>
    match Text.natural? s.toList with
    | some n => if n < wordLimit then n else s.utf8ByteSize
    | none => s.utf8ByteSize
  | list vs => vs.length
  | _ => 0

/-! ### Functions of two values -/

/-- Two values in the other order. -/
def swap (a b : Value) : Value :=
  pair b a

/-- One text behind another. -/
def concat : Value → Value → Value
  | text s, text t => text (s ++ t)
  | _, _ => null

/-- A list with a value in front. -/
def cons (a : Value) : Value → Value
  | list vs => list (a :: vs)
  | _ => null

end Value

end Descent
