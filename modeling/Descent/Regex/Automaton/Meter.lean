/-!
# The size of an automaton

An expression stands for an automaton that reads bytes, forwards or backwards. Here nothing is kept
of the automaton but the memory that it takes, and not even that once it takes too much: a `Growth`
adds a part of an automaton to what is there, or fails.

Every state takes a fixed amount. A state that asks for a byte of several ranges takes some more for
each of them, and a fork for each of the ways on that it has. So a part whose last state is a fork
grows once more when something is put behind it; a `Growth` therefore says of its part how it ends.
-/

namespace Descent.Regex

/-- The memory taken by an automaton that is being built. -/
structure Meter where
  /-- The number of states. They are numbered in the order in which they are added. -/
  states : Nat
  /-- The bytes taken by what leads from some states to others. -/
  links : Nat

namespace Meter

/-- The bytes that an automaton may take. -/
def limit : Nat := 0xa00000

/-- The bytes of a state. -/
def perState : Nat := 32

/-- The bytes of a range of bytes in a state that has several ones. -/
def perRange : Nat := 8

/-- The bytes of a way on from a fork. -/
def perWay : Nat := 4

/-- All bytes taken. -/
def bytes (m : Meter) : Nat :=
  perState * m.states + m.links

/-- Adds some states, and bytes for what leads on from states, within the limit. -/
def add? (m : Meter) (states links : Nat) : Option Meter :=
  let m : Meter := { states := m.states + states, links := m.links + links }
  if m.bytes ≤ limit then some m else none

theorem bytes_le_of_add? {m n : Meter} {states links : Nat} (h : m.add? states links = some n) :
    n.bytes ≤ limit := by
  simp only [add?] at h
  split at h
  · cases h
    assumption
  · simp at h

end Meter

/-- How a part of an automaton ends. -/
inductive Ending where
  /-- With a state that has one way on. -/
  | plain
  /-- With a fork. -/
  | fork

/-- The bytes that are added where something is put behind a part. -/
def Ending.links : Ending → Nat
  | plain => 0
  | fork => Meter.perWay

/-- Adds a part to an automaton, if there is room for it. -/
abbrev Growth := Meter → Option (Meter × Ending)

namespace Growth

/-- A part of some states in a row. -/
def row (states : Nat) : Growth := fun m ↦
  (m.add? states 0).map (·, .plain)

/-- One part behind another. -/
def andThen (g h : Growth) : Growth := fun m ↦
  match g m with
  | none => none
  | some (m, middle) =>
    match h m with
    | none => none
    | some (m, ending) => (m.add? 0 middle.links).map (·, ending)

/-- As many parts behind one that ends with `ending`. -/
def timesBehind (g : Growth) : Nat → Ending → Growth
  | 0, ending, m => some (m, ending)
  | n + 1, ending, m =>
    match g m with
    | none => none
    | some (m, next) =>
      match m.add? 0 ending.links with
      | none => none
      | some m => timesBehind g n next m

/-- A part a number of times. -/
def times (g : Growth) : Nat → Growth
  | 0 => row 1
  | n + 1 => fun m ↦
    match g m with
    | none => none
    | some (m, ending) => timesBehind g n ending m

/-- A part that may be left out, as many times, behind one that ends with `ending`. Each has a fork
in front, from which there is a way past all of them. -/
def optionalBehind (g : Growth) : Nat → Ending → Growth
  | 0, ending, m => (m.add? 0 ending.links).map (·, .plain)
  | n + 1, ending, m =>
    match m.add? 1 (2 * Meter.perWay + ending.links) with
    | none => none
    | some m =>
      match g m with
      | none => none
      | some (m, next) => optionalBehind g n next m

/-- A part that may be left out. -/
def optional (g : Growth) : Growth := fun m ↦
  match m.add? 1 (2 * Meter.perWay) with
  | none => none
  | some m =>
    match g m with
    | none => none
    | some (m, ending) => (m.add? 1 ending.links).map (·, .plain)

/-- A loop that may be left before its first turn. If a turn may consume nothing, the fork before
the first turn is not the one between two turns. -/
def star (g : Growth) (consumes : Bool) : Growth := fun m ↦
  if consumes then
    match m.add? 1 Meter.perWay with
    | none => none
    | some m =>
      match g m with
      | none => none
      | some (m, ending) => (m.add? 0 ending.links).map (·, .fork)
  else
    match g m with
    | none => none
    | some (m, ending) => (m.add? 3 (4 * Meter.perWay + ending.links)).map (·, .plain)

/-- A loop of one turn or more. -/
def plus (g : Growth) : Growth := fun m ↦
  match g m with
  | none => none
  | some (m, ending) => (m.add? 1 (Meter.perWay + ending.links)).map (·, .fork)

/-- A repetition. -/
def repeated (g : Growth) (consumes : Bool) (least : Nat) (most? : Option Nat) : Growth :=
  match least, most? with
  | 0, none => g.star consumes
  | 1, none => g.plus
  | n + 1, none => (g.times n).andThen g.plus
  | 0, some 1 => g.optional
  | least, some most =>
    if least = most then g.times least
    else fun m ↦
      match g.times least m with
      | none => none
      | some (m, ending) =>
        match m.add? 1 0 with
        | none => none
        | some m => optionalBehind g (most - least) ending m

/-- Parts of which one is passed, behind a fork in front of them and joined behind them. The fork
comes after the second part. `count` parts have been added before. -/
def choiceFrom (count : Nat) : List Growth → Growth
  | [], m => some (m, .plain)
  | g :: gs, m =>
    match g m with
    | none => none
    | some (m, ending) =>
      match m.add? (if count = 1 then 2 else 0) (Meter.perWay + ending.links) with
      | none => none
      | some m => choiceFrom (count + 1) gs m

end Growth

end Descent.Regex
