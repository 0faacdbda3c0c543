/-!
# Faults

A parser answers with a success or a failure of the input. Apart from these stand the faults:
uses of the library that have no answer at all, such as a move past the end of the input. They
are ordinary values, so that a caller can tell which one arose and go on.

What cannot arise has no fault. That one of two successes is a failure after all is ruled out by the
type of `Outcome.pair`, which is given what both have yielded; failures have been handed back before
that. And that a repetition which only adds up lengths is given a value is ruled out by its loop,
which does not look at what a run yields in slicing mode (`Progress.add`).
-/

namespace Descent

/-- The ways in which a call can have no answer. -/
inductive Fault where
  /-- A sum of counts does not fit in a machine word. -/
  | overflow
  /-- A location was moved past the end of its input. -/
  | pastEnd
  /-- Text was asked for at an offset inside a character or past the end. -/
  | unreadable
  /-- The value of a bare success was asked for, which has kept only its length. -/
  | bareSuccess
  /-- Text was to be padded to a width that does not fit in 16 bits. -/
  | tooWide
  /-- The evaluation was cut off: rules called each other more deeply than it allows, or a loop
  without an upper bound has not come to its end within its turns. -/
  | unfinished
deriving DecidableEq, Repr

namespace Fault

/-- The words that a fault is reported with. Reading text at a bad offset has none, and neither have
padding too far and an evaluation that was cut off. -/
def message? : Fault → Option String
  | overflow => some "attempt to add with overflow"
  | pastEnd => some "advanced past the end of the input"
  | bareSuccess =>
    some "internal error: entered unreachable code: a slice collapsed under slicing mode escaped it"
  | unreadable | tooWide | unfinished => none

end Fault

/-- Counts are kept below this bound, the number of 64-bit words. -/
def wordLimit : Nat := 0x10000000000000000

/-- The sum of two counts, if it is still a machine word. -/
def addCounts (m n : Nat) : Except Fault Nat :=
  if m + n < wordLimit then .ok (m + n) else .error .overflow

theorem addCounts_of_lt {m n : Nat} (h : m + n < wordLimit) : addCounts m n = .ok (m + n) :=
  if_pos h

@[simp] theorem addCounts_eq_ok_iff {m n k : Nat} :
    addCounts m n = .ok k ↔ m + n < wordLimit ∧ k = m + n := by
  unfold addCounts
  split <;> rename_i h
  · simp [h, eq_comm]
  · simp [h]

/-- Text is padded to widths below this bound, the number of 16-bit words. -/
def widthLimit : Nat := 0x10000

/-- So many blanks, if this is a width that text is padded to. -/
def blanks (width : Nat) : Except Fault String :=
  if width < widthLimit then .ok ("".pushn ' ' width) else .error .tooWide

theorem blanks_of_lt {width : Nat} (h : width < widthLimit) :
    blanks width = .ok ("".pushn ' ' width) :=
  if_pos h

theorem blanks_of_le {width : Nat} (h : widthLimit ≤ width) : blanks width = .error .tooWide :=
  if_neg (Nat.not_lt.2 h)

end Descent
