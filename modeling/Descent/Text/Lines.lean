/-!
# Lines and columns

What a reader of an error message wants to know of a position: the number of its line, its column
in characters, and the text of the line. All three are read off the characters before the position
and those behind it. Lines end with `'\n'`; one `'\r'` before it belongs to the line ending.
-/

namespace Descent.Text

/-- The number of the line on which text stands that has `before` in front of it, from one. -/
def lineNumber (before : List Char) : Nat :=
  before.count '\n' + 1

/-- The part of `before` that lies behind its last newline. -/
def lineStart (before : List Char) : List Char :=
  (before.reverse.takeWhile (· ≠ '\n')).reverse

/-- The column of text that has `before` in front of it, in characters, from one. -/
def columnNumber (before : List Char) : Nat :=
  (lineStart before).length + 1

/-- A line without the carriage return that may end it. -/
def dropReturn (line : List Char) : List Char :=
  if line.getLast? = some '\r' then line.dropLast else line

/-- The line that the position between `before` and `behind` lies on, without its line ending. -/
def lineAround (before behind : List Char) : List Char :=
  dropReturn (lineStart before ++ behind.takeWhile (· ≠ '\n'))

@[simp] theorem lineNumber_nil : lineNumber [] = 1 := rfl

@[simp] theorem columnNumber_nil : columnNumber [] = 1 := rfl

theorem newline_notMem_takeWhile (cs : List Char) : '\n' ∉ cs.takeWhile (· ≠ '\n') := by
  intro h
  have hall := List.all_takeWhile (p := (· ≠ '\n')) (l := cs)
  rw [List.all_eq_true] at hall
  have := hall '\n' h
  simp at this

theorem newline_notMem_lineStart (before : List Char) : '\n' ∉ lineStart before := fun h ↦
  newline_notMem_takeWhile before.reverse (List.mem_reverse.1 h)

theorem newline_notMem_lineAround (before behind : List Char) :
    '\n' ∉ lineAround before behind := by
  have hline : '\n' ∉ lineStart before ++ behind.takeWhile (· ≠ '\n') := fun h ↦
    (List.mem_append.1 h).elim (newline_notMem_lineStart before) (newline_notMem_takeWhile behind)
  intro h
  rw [lineAround, dropReturn] at h
  split at h
  · exact hline ((List.dropLast_sublist _).mem h)
  · exact hline h

end Descent.Text
