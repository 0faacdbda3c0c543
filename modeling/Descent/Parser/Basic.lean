import Descent.Outcome
import Descent.Pattern

/-!
# Parsers

A parser is a function from states to outcomes, or to a fault. This module holds the primitives and
the combinators on one or two parsers; repetition and what is derived from these have modules of
their own.

Commitment decides where alternatives are tried. A literal commits once its first character has
matched, `flatMap` once its first parser has consumed something, and `fail` always; `orElse` and
`optional` go on only after a failure that is not committed, and `attempt` takes commitment away.

Slicing mode is handed down by all combinators but two: `slice` switches it on for its parser, and
`flatMap` switches it off for its first one, whose value picks the second.
-/

namespace Descent

/-- A parser of values of type `α`. -/
abbrev Parser (α : Type) := State → Except Fault (Outcome α)

namespace Parser

variable {α β γ : Type}

/-! ### Primitives -/

/-- Succeeds with a value, without looking at the input. -/
def succeed (a : α) : Parser α := fun _ ↦ .ok (.value a 0)

/-- Fails at the state's location, and commits. -/
def fail (message : String) : Parser α := fun s ↦
  .ok (.failure (s.location.error message) true)

/-- The number of bytes of `word` in front of the first character that `text` does not have at its
place; none if `text` starts with `word`. -/
def firstMismatch : List Char → List Char → Option Nat
  | [], _ => none
  | _ :: _, [] => some 0
  | w :: ws, c :: cs => if w = c then (firstMismatch ws cs).map (w.utf8Size + ·) else some 0

/-- Matches a word exactly. The failure lies where the input differs from the word, and is committed
if the first character did match. -/
def literal (word : String) : Parser String := fun s ↦ do
  match firstMismatch word.toList (← s.rest) with
  | none =>
    if s.sliced then return .slice word.utf8ByteSize
    else return .value (← s.span word.utf8ByteSize) word.utf8ByteSize
  | some n =>
    let place ← s.location.advance n
    return .failure (place.error s!"'{word}'") (n != 0)

/-- Looks for a pattern in the text behind the location, and consumes up to the end of the match.
Never commits. -/
def pattern (p : Pattern) : Parser String := fun s ↦ do
  match p.find (← s.rest) with
  | some found =>
    let consumed := Text.byteLength found.skipped + Text.byteLength found.text
    if s.sliced then return .slice consumed
    else return .value (String.ofList found.text) consumed
  | none => return .failure (s.location.error s!"regex {p.source}") false

/-- Succeeds at the end of the input only. -/
def eof : Parser Unit := fun s ↦ do
  match ← s.rest with
  | [] => return .value () 0
  | _ :: _ => return .failure (s.location.error "end of input") false

/-- The next character, as a value in either mode. -/
def anyChar : Parser String := fun s ↦ do
  match ← s.rest with
  | c :: _ => return .value (String.singleton c) c.utf8Size
  | [] => return .failure (s.location.error "any char") false

/-! ### Alternatives and commitment -/

/-- The second parser, if the first one fails without committing. -/
def orElse (p q : Parser α) : Parser α := fun s ↦ do
  match ← p s with
  | .failure _ false => q s
  | o => return o

/-- Takes commitment away from a failure. -/
def attempt (p : Parser α) : Parser α := fun s ↦ return (← p s).uncommitted

/-- Gives nothing rather than fail, unless the failure is committed. -/
def optional (p : Parser α) : Parser (Option α) := fun s ↦ do
  match ← p s with
  | .failure _ false => return .value none 0
  | o => o.mapValue s some

/-! ### Messages -/

/-- Says what was being parsed, in a frame outside those of a failure. -/
def scope (p : Parser α) (message : String) : Parser α := fun s ↦
  return (← p s).mapError (·.push s.location message)

/-- Rewords a failure where it arose. -/
def label (p : Parser α) (message : String) : Parser α := fun s ↦
  return (← p s).mapError (·.label message)

/-! ### Values -/

/-- Applies a function to the value. In slicing mode this reads the text of a slice; a bare success
has no value and stays bare. -/
def map (p : Parser α) (f : α → β) : Parser β := fun s ↦ do
  (← p s).mapValue s f

/-- Changes the type of the values without reading any: a slice stays a slice. -/
def retype (p : Parser α) (f : α → β) : Parser β := fun s ↦
  return (← p s).retype f

/-- Gives the text that the parser matches, and parses in slicing mode. -/
def slice (p : Parser α) : Parser String := fun s ↦
  return (← p (s.withSlicing true)).toSlice

/-- Parses with slicing switched on or off. -/
def inMode (p : Parser α) (sliced : Bool) : Parser α := fun s ↦
  p (s.withSlicing sliced)

/-! ### Sequences -/

/-- Two parsers one after the other, in the mode at hand. In slicing mode the successes collapse
into a bare one where they have no values to combine. -/
def map2 (p : Parser α) (q : Parser β) (f : α → β → γ) : Parser γ := fun s ↦ do
  match ← p s with
  | .failure e committed => return .failure e committed
  | .success y m =>
    let next ← s.advance m
    match ← q next with
    | .failure e committed => return .failure e committed
    | .success z n => Outcome.pair f s next y m z n

/-- A parser, and then the one that its value picks. A failure of the second is committed if the
first one consumed something. -/
def flatMap (p : Parser α) (f : α → Parser β) : Parser β := fun s ↦ do
  let unsliced := s.withSlicing false
  match ← (← p unsliced).read unsliced with
  | .failure e committed => return .failure e committed
  | .value a n =>
    let next ← s.advance n
    ((← f a next).withCommit (n != 0)).advance n

/-! ### Running -/

/-- Parses an input from its start, and reads the value of a success. -/
def run (p : Parser α) (input : String) : Except Fault (Except ParseError α) := do
  (← p (.start input)).extract input

end Parser

end Descent
