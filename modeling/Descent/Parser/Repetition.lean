import Descent.Parser.Basic

/-!
# Repetition

A parser is run again and again, each time where the last run ended, until it fails without
committing, or has been run as often as wanted. Without an upper bound, a run that consumes nothing
is the last one, since it would match nothing forever. A failure before the lower bound is the
failure of the whole.

One loop serves both modes. With slicing off it reads the value of each run as it goes; in slicing
mode it only adds up lengths. The loop counts down the runs that may come: an upper bound is such a
number, and without one there are at most as many as bytes remain, and one more, because every run
but the last consumes something. A loop without an upper bound that had used up this number would be
cut off, which is a fault and not an outcome.

In slicing mode a run is a success with a length or a failure, and there is nothing else to tell
apart: what the part gives, a value or a text, is forgotten before the loop looks at it.
-/

namespace Descent

/-- How often a parser is to be repeated. -/
structure Bounds where
  /-- At least so many times. -/
  least : Nat
  /-- At most so many times, if there is a limit. -/
  most? : Option Nat

namespace Bounds

/-- The number of runs after which none will come any more, from a place with `remaining` bytes
behind it. Without a limit, one run more than can be is allowed: its start lies behind the end of
the input, and the move there is a fault. -/
def allowance (b : Bounds) (remaining : Nat) : Nat :=
  b.most?.getD (remaining + 2)

/-- Whether a run that consumed `n` bytes is the last one. -/
def stalls (b : Bounds) (n : Nat) : Bool :=
  b.most?.isNone && n == 0

end Bounds

/-- What a repetition has matched so far. -/
structure Progress (α : Type) where
  /-- The values, the last one first; none in slicing mode. -/
  values : List α
  /-- The number of runs. -/
  count : Nat
  /-- The number of bytes consumed. -/
  consumed : Nat

namespace Progress

variable {α : Type}

/-- Nothing has been matched. -/
def start : Progress α where
  values := []
  count := 0
  consumed := 0

/-- Adds a run at the state `here`. Its value is read with slicing off. Both sums are counts in
machine words. -/
def add (done : Progress α) (here : State) (yield : Yield α) (n : Nat) :
    Except Fault (Progress α) := do
  let values ←
    if here.sliced then pure done.values
    else pure ((← yield.read here n) :: done.values)
  let count ← addCounts done.count 1
  let consumed ← addCounts done.consumed n
  return { values, count, consumed }

/-- The outcome of a repetition that ends here. -/
def outcome (done : Progress α) (sliced : Bool) : Outcome (List α) :=
  if sliced then .success .bare done.consumed else .value done.values.reverse done.consumed

end Progress

namespace Parser

variable {α : Type}

/-- Runs the parser again, at most as often as the first argument says, `jump` bytes behind the
state given. With an upper bound there are as many runs as wanted then; without one the loop is cut
off. -/
def repeatLoop (p : Parser α) (b : Bounds) :
    Nat → State → Nat → Progress α → Except Fault (Outcome (List α))
  | 0, s, _, done =>
    if b.most?.isSome then return done.outcome s.sliced else .error .unfinished
  | budget + 1, s, jump, done => do
    let here ← s.advance jump
    match ← p here with
    | .failure e committed =>
      if committed || done.count < b.least then return .failure e committed
      else return done.outcome s.sliced
    | .success yield n =>
      let done ← done.add here yield n
      if b.stalls n then return done.outcome s.sliced
      else repeatLoop p b budget here n done

/-- A loop with an upper bound ends when it has made all its runs. -/
theorem repeatLoop_zero_of_some (p : Parser α) {b : Bounds} {k : Nat} (h : b.most? = some k)
    (s : State) (jump : Nat) (done : Progress α) :
    p.repeatLoop b 0 s jump done = .ok (done.outcome s.sliced) := by
  rw [repeatLoop, h]
  rfl

/-- Repeats a parser within bounds. -/
def repeated (p : Parser α) (b : Bounds) : Parser (List α) := fun s ↦
  p.repeatLoop b (b.allowance (s.location.input.utf8ByteSize - s.offset)) s 0 .start

/-- A parser any number of times. -/
def many (p : Parser α) : Parser (List α) :=
  p.repeated { least := 0, most? := none }

/-- A parser at least once. -/
def many1 (p : Parser α) : Parser (List α) :=
  p.repeated { least := 1, most? := none }

/-- A parser exactly `n` times. -/
def listOfN (p : Parser α) (n : Nat) : Parser (List α) :=
  p.repeated { least := n, most? := some n }

end Parser

end Descent
