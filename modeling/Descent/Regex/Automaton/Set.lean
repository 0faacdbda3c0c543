import Std.Data.HashMap
import Descent.CharSet.Ascii
import Descent.CharSet.Encoding
import Descent.Regex.Automaton.Meter

/-!
# Sets of characters in an automaton

A set within ASCII is one state with a range of bytes for each of its ranges. Any other set becomes
a small automaton of its own, from the encodings of its members. States of it that would be alike
are shared as far as a memory of limited size tells: it has a number of slots, and a state that
belongs into an occupied one takes the place of the other. So a state may be built again that has
been forgotten, and how often that happens depends on the numbers of the states.
-/

namespace Descent.Regex

/-- A set of states that is being built. -/
structure Workshop where
  /-- The number of states in the whole automaton. -/
  states : Nat
  /-- The bytes taken by what leads on from states. -/
  links : Nat
  /-- The states that are remembered, by slot: what they are like, and their numbers. -/
  slots : Std.HashMap Nat (List Nat × Nat)

/-- The slot for a state, out of `count` slots, by what the state is like. -/
def slotOf (count : Nat) (key : List Nat) : Nat :=
  let hash : UInt64 := key.foldl (fun h n ↦ (h ^^^ n.toUInt64) * 0x100000001b3) 0xcbf29ce484222325
  hash.toNat % count

namespace Workshop

/-- Builds a state that is like `key`, and remembers it. -/
def build (w : Workshop) (slot : Nat) (key : List Nat) (links : Nat) : Nat × Workshop :=
  (w.states,
    { states := w.states + 1
      links := w.links + links
      slots := w.slots.insert slot (key, w.states) })

/-- The state that is like `key`, which takes `links` bytes if it has to be built. -/
def obtain (w : Workshop) (count : Nat) (key : List Nat) (links : Nat) : Nat × Workshop :=
  let slot := slotOf count key
  match w.slots[slot]? with
  | some (known, state) => if known = key then (state, w) else w.build slot key links
  | none => w.build slot key links

/-! ### Backwards -/

/-- The slots of an automaton that reads backwards. -/
def backwardSlots : Nat := 1000

/-- Adds an encoding whose first byte, read last, leads to the state `target`. The answer is the
state that reads the last byte. -/
def addBackward (w : Workshop) (target : Nat) (encoding : List ByteRange) : Nat × Workshop :=
  encoding.foldl (fun (next, w) r ↦ w.obtain backwardSlots [next, r.first, r.last] 0) (target, w)

/-- Adds a fork with a way on for each encoding. -/
def addFork (w : Workshop) (target : Nat) (encodings : List (List ByteRange)) : Workshop :=
  encodings.foldl (fun w encoding ↦
    let w := (w.addBackward target encoding).2
    { w with links := w.links + Meter.perWay }) w

/-! ### Forwards -/

/-- The slots of an automaton that reads forwards. -/
def forwardSlots : Nat := 10000

/-- Puts encodings next to each other that begin with the same range of bytes. -/
def byFirst : List (List ByteRange) → List (ByteRange × List (List ByteRange))
  | [] => []
  | [] :: more => byFirst more
  | (r :: rest) :: more =>
    match byFirst more with
    | (s, rests) :: groups =>
      if r = s then (r, rest :: rests) :: groups else (r, [rest]) :: (s, rests) :: groups
    | [] => [(r, [rest])]

/-- The state that reads one of some encodings of at most so many bytes and leads to `target`. The
states behind it are built before it. -/
def addForward (target : Nat) : Nat → List (List ByteRange) → Workshop → Nat × Workshop
  | 0, _, w => (target, w)
  | n + 1, encodings, w =>
    let groups := byFirst encodings
    -- What a state is like: the ranges of bytes that it asks for and where each of them leads.
    let (key, w) := groups.foldl (fun (key, w) (r, rests) ↦
      let (next, w) := if rests.all List.isEmpty then (target, w) else addForward target n rests w
      (next :: r.last :: r.first :: key, w)) ([], w)
    w.obtain forwardSlots key.reverse (Meter.perRange * groups.length)

end Workshop

namespace Growth

/-- What is built of a set, as a part of an automaton. -/
def ofWorkshop (w : Workshop) : Option (Meter × Ending) :=
  (Meter.add? { states := w.states, links := w.links } 0 0).map (·, .plain)

/-- One character out of a set. -/
def ofSet (backward : Bool) (s : CharSet) : Growth :=
  if s.isAscii then fun m ↦ (m.add? 2 (Meter.perRange * s.codeRanges.length)).map (·, .plain)
  else
    let encodings := s.encodings
    if backward then fun m ↦
      ofWorkshop <| Workshop.addFork { states := m.states + 2, links := m.links, slots := ∅ }
        (m.states + 1) encodings
    else fun m ↦
      ofWorkshop (Workshop.addForward m.states 4 encodings
        { states := m.states + 1, links := m.links, slots := ∅ }).2

end Growth

end Descent.Regex
