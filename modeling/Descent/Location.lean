import Descent.Fault
import Descent.Text.Lines
import Descent.Text.Utf8

/-!
# Locations

A location is a byte offset into an input. Moving a location looks at the input's length alone, so
an offset may fall inside a character; whoever reads the text there gets a fault instead
(`rest`, `before`). The text behind the offset is kept beside it, so that a parse which moves
forward step by step does not walk the input again from its start; `rest?_eq` says that this text
is a function of the input and the offset.
-/

namespace Descent

/-- A byte offset into an input. -/
structure Location where
  /-- The whole input. -/
  input : String
  /-- The number of bytes before the location. -/
  offset : Nat
  /-- The text behind the offset, if the offset falls between two characters. -/
  rest? : Option (List Char)
  /-- The text kept is the input's. -/
  rest?_eq : rest? = Text.dropBytes? input.toList offset

namespace Location

theorem ext {l m : Location} (hinput : l.input = m.input) (hoffset : l.offset = m.offset) :
    l = m := by
  obtain ⟨input, offset, rest, hrest⟩ := l
  obtain ⟨input', offset', rest', hrest'⟩ := m
  subst hinput hoffset hrest hrest'
  rfl

/-! ### Making and moving -/

/-- The start of an input. -/
def start (input : String) : Location where
  input
  offset := 0
  rest? := some input.toList
  rest?_eq := by simp

@[simp] theorem input_start (input : String) : (start input).input = input := rfl

@[simp] theorem offset_start (input : String) : (start input).offset = 0 := rfl

@[simp] theorem rest?_start (input : String) : (start input).rest? = some input.toList := rfl

/-- The location at another offset of the same input. Text already cut off is used where the move
goes forward from between two characters. -/
def jump (l : Location) (n : Nat) : Location where
  input := l.input
  offset := l.offset + n
  rest? :=
    match l.rest? with
    | some cs => Text.dropBytes? cs n
    | none => Text.dropBytes? l.input.toList (l.offset + n)
  rest?_eq := by
    split <;> rename_i hrest
    · exact (Text.dropBytes?_add (l.rest?_eq ▸ hrest) n).symm
    · rfl

@[simp] theorem input_jump (l : Location) (n : Nat) : (l.jump n).input = l.input := rfl

@[simp] theorem offset_jump (l : Location) (n : Nat) : (l.jump n).offset = l.offset + n := rfl

/-- The location `n` bytes further on. The sum of the offsets is made before it is compared with
the input's length. -/
def advance (l : Location) (n : Nat) : Except Fault Location := do
  let offset ← addCounts l.offset n
  if offset ≤ l.input.utf8ByteSize then .ok (l.jump n) else .error .pastEnd

/-- A location moves exactly to the offsets of its input that are machine words. -/
theorem advance_eq_ok_iff {l m : Location} {n : Nat} :
    l.advance n = .ok m ↔
      l.offset + n < wordLimit ∧ l.offset + n ≤ l.input.utf8ByteSize ∧ m = l.jump n := by
  unfold advance
  by_cases hword : l.offset + n < wordLimit
  · by_cases hend : l.offset + n ≤ l.input.utf8ByteSize
    · simp [addCounts_of_lt hword, bind, Except.bind, hword, hend, eq_comm]
    · simp [addCounts_of_lt hword, bind, Except.bind, hend]
  · simp [addCounts, hword, bind, Except.bind]

/-! ### Reading -/

/-- The characters behind the location. -/
def rest (l : Location) : Except Fault (List Char) :=
  match l.rest? with
  | some cs => .ok cs
  | none => .error .unreadable

/-- The characters before the location. -/
def before (l : Location) : Except Fault (List Char) :=
  match Text.takeBytes? l.input.toList l.offset with
  | some cs => .ok cs
  | none => .error .unreadable

/-- The text behind the location. -/
def remaining (l : Location) : Except Fault String :=
  return String.ofList (← l.rest)

/-- The number of the location's line, from one. -/
def line (l : Location) : Except Fault Nat :=
  return Text.lineNumber (← l.before)

/-- The location's column in characters, from one. -/
def column (l : Location) : Except Fault Nat :=
  return Text.columnNumber (← l.before)

/-- The text of the location's line, without its line ending. -/
def currentLine (l : Location) : Except Fault String :=
  return String.ofList (Text.lineAround (← l.before) (← l.rest))

end Location

end Descent
