import Descent.Location

/-!
# Parse states

What a parser is given: a location, and whether only the text that it matches is wanted. In the
second case, slicing mode, parsers save themselves the work of building values.
-/

namespace Descent

/-- What a parser is given. -/
structure State where
  /-- Where the parser starts. -/
  location : Location
  /-- Slicing mode: only the text matched is wanted, not a value. -/
  sliced : Bool

namespace State

/-- The state in which a parse begins: at the start of the input, with slicing off. -/
def start (input : String) : State where
  location := .start input
  sliced := false

/-- The number of bytes before the state's location. -/
def offset (s : State) : Nat :=
  s.location.offset

/-- The state `n` bytes further on, in the same mode. -/
def advance (s : State) (n : Nat) : Except Fault State :=
  return { s with location := ← s.location.advance n }

/-- The state at the same location with slicing on or off. -/
def withSlicing (s : State) (sliced : Bool) : State :=
  { s with sliced }

/-- The state at the same location in the mode of `other`. -/
def withSlicingFrom (s other : State) : State :=
  s.withSlicing other.sliced

/-- The characters behind the state's location. -/
def rest (s : State) : Except Fault (List Char) :=
  s.location.rest

/-- The next `n` bytes of the input, as text. -/
def span (s : State) (n : Nat) : Except Fault String := do
  match Text.takeBytes? (← s.rest) n with
  | some cs => return String.ofList cs
  | none => .error .unreadable

@[simp] theorem location_withSlicing (s : State) (b : Bool) :
    (s.withSlicing b).location = s.location := rfl

@[simp] theorem sliced_withSlicing (s : State) (b : Bool) : (s.withSlicing b).sliced = b := rfl

@[simp] theorem withSlicing_withSlicing (s : State) (b c : Bool) :
    (s.withSlicing b).withSlicing c = s.withSlicing c := rfl

@[simp] theorem withSlicing_sliced (s : State) : s.withSlicing s.sliced = s := rfl

end State

end Descent
