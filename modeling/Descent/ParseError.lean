import Descent.Location

/-!
# Parse errors

An error is a stack of frames, each a location and a message. The innermost frame was made where
the parse failed; frames outside it say what was being parsed. An error has an innermost frame by
its type, so that there always is a place to point at.

Messages go to the two ends of the stack: `push` adds an outermost frame, `label` rewords the
innermost one. They therefore commute.
-/

namespace Descent

/-- One line of an error: where, and what was expected or being parsed there. -/
structure Frame where
  /-- The place that the message is about. -/
  location : Location
  /-- The words shown. -/
  message : String

/-- Why a parse failed. -/
structure ParseError where
  /-- The frame made where the parse failed. -/
  innermost : Frame
  /-- The frames around it, from the inside out. -/
  outer : List Frame

namespace ParseError

/-- An error with a single frame. -/
def single (location : Location) (message : String) : ParseError where
  innermost := { location, message }
  outer := []

/-- All frames, from the inside out. -/
def frames (e : ParseError) : List Frame :=
  e.innermost :: e.outer

/-- The number of frames. -/
def size (e : ParseError) : Nat :=
  e.frames.length

/-- Adds an outermost frame. -/
def push (e : ParseError) (location : Location) (message : String) : ParseError :=
  { e with outer := e.outer ++ [{ location, message }] }

/-- Rewords the innermost frame, which stays where it is. -/
def label (e : ParseError) (message : String) : ParseError :=
  { e with innermost := { e.innermost with message } }

@[simp] theorem frames_single (l : Location) (m : String) :
    (single l m).frames = [{ location := l, message := m }] := rfl

@[simp] theorem frames_push (e : ParseError) (l : Location) (m : String) :
    (e.push l m).frames = e.frames ++ [{ location := l, message := m }] := rfl

@[simp] theorem frames_label (e : ParseError) (m : String) :
    (e.label m).frames = { location := e.innermost.location, message := m } :: e.outer := rfl

@[simp] theorem size_push (e : ParseError) (l : Location) (m : String) :
    (e.push l m).size = e.size + 1 := by
  simp [size]

@[simp] theorem size_label (e : ParseError) (m : String) : (e.label m).size = e.size := rfl

theorem size_pos (e : ParseError) : 0 < e.size :=
  Nat.succ_pos _

/-- Adding a frame outside and rewording the frame inside do not meet. -/
theorem label_push (e : ParseError) (l : Location) (m n : String) :
    (e.push l m).label n = (e.label n).push l m := rfl

/-! ### The report -/

/-- A frame as a line of a report: its line and column, and its message. -/
def frameLine (frame : Frame) : Except Fault String := do
  let line ← frame.location.line
  let column ← frame.location.column
  return s!"{line}.{column} {frame.message}\n"

/-- The error as text: a line for each frame, from the outside in; an empty line; the input's line
on which the innermost frame lies; and a caret under its column. The caret is put there by padding,
which has a limit, so that an error too far to the right has no text. -/
def report (e : ParseError) : Except Fault String := do
  let lines ← e.frames.reverse.mapM frameLine
  let shown ← e.innermost.location.currentLine
  let column ← e.innermost.location.column
  let indent ← blanks (column - 1)
  return String.join lines ++ "\n" ++ shown ++ "\n" ++ indent ++ "^"

end ParseError

/-- An error with a single frame at this location. -/
def Location.error (l : Location) (message : String) : ParseError :=
  .single l message

end Descent
