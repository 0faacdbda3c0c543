import Descent.Regex.Basic

/-!
# Programs

An expression is matched by a program, whose instructions are known by their numbers. An instruction
says what is asked of the text at some place and where to go on. The code of an expression is
emitted in front of the code of what follows it, so that every part knows where to go on; only the
loop of a repetition without end needs an instruction that is filled in later.
-/

namespace Descent.Regex

/-- What a program does at a place. -/
inductive Instruction where
  /-- What has been consumed is a match. -/
  | accept
  /-- Consumes a character. -/
  | char (c : Char) (next : Nat)
  /-- Consumes a character of a set. -/
  | one (set : CharSet) (next : Nat)
  /-- Goes on if an anchor holds. -/
  | look (anchor : Anchor) (next : Nat)
  /-- Goes on in two ways, of which the first is preferred. -/
  | fork (first second : Nat)
deriving Inhabited

/-- Two ways to go on, into another turn of a repetition or out of it. -/
def Instruction.turn (greedy : Bool) (into out : Nat) : Instruction :=
  if greedy then .fork into out else .fork out into

/-- Instructions, each known by its place in the list. -/
abbrev Code := Array Instruction

namespace Code

/-- Adds an instruction. The answer is its number. -/
def emit (code : Code) (i : Instruction) : Nat × Code :=
  (code.size, code.push i)

/-- Adds the code of a text in front of `next`. -/
def emitText (code : Code) (text : List Char) (next : Nat) : Nat × Code :=
  text.foldr (fun c behind ↦ behind.2.emit (.char c behind.1)) (next, code)

end Code

/-- Adds the code of an expression that goes on at `next`. The answer is where it begins.

A repetition without end of something that may consume nothing is one turn or more, or nothing at
all: so that an empty turn is not lost, the place before the first turn is not the one between two
turns. -/
def emit : Regex → Nat → Code → Nat × Code
  | empty, next, code => (next, code)
  | literal text, next, code => code.emitText text next
  | one set, next, code => code.emit (.one set next)
  | look a, next, code => code.emit (.look a next)
  | seq a b, next, code =>
    let (behind, code) := b.emit next code
    a.emit behind code
  | alt a b, next, code =>
    let (second, code) := b.emit next code
    let (first, code) := a.emit next code
    code.emit (.fork first second)
  | repeated a least none greedy, next, code =>
    -- Where a turn begins is known only behind the code of the turn, so the loop is filled in then.
    let (loop, code) := code.emit .accept
    let (turn, code) := a.emit loop code
    let code : Code := code.setIfInBounds loop (.turn greedy turn next)
    match least with
    | 0 => if a.consumes then (loop, code) else code.emit (.turn greedy turn next)
    | n + 1 => Nat.repeat (fun (start, code) ↦ a.emit start code) n (turn, code)
  | repeated a least (some most) greedy, next, code =>
    let more := Nat.repeat (fun (start, code) ↦
      let (turn, code) := a.emit start code
      code.emit (.turn greedy turn next)) (most - least) (next, code)
    Nat.repeat (fun (start, code) ↦ a.emit start code) least more
  | group _ a, next, code => a.emit next code

/-- The instructions that match an expression. -/
structure Program where
  /-- The instructions. -/
  code : Code
  /-- The number of the first instruction. -/
  start : Nat
  /-- Whether matches are found at the start of a text only. -/
  startBound : Bool

/-- The program of an expression. Its first instruction in number is the last one to be done. -/
def program (r : Regex) : Program :=
  let (accept, code) := Code.emit #[] .accept
  let (start, code) := r.emit accept code
  { code, start, startBound := r.startBound }

end Descent.Regex
