import Descent.Regex.BracketClass
import Descent.Regex.Form

/-!
# Tokens of a pattern

A pattern is a list of tokens: items that match something, the bounds of repetitions, bars, the
brackets of groups, and flags. How a token is read depends on the flags in force where it stands,
so they are read one at a time. That brackets match, and that a repetition has something to repeat,
is not looked at here.
-/

namespace Descent.Regex

/-- What the brackets of a group are for. -/
inductive Brackets where
  /-- To hold together what is inside. -/
  | plain
  /-- To make it a group of its own, which may have a name. -/
  | group (name? : Option String)

/-- A token of a pattern. -/
inductive Token where
  /-- Something to match, which can be repeated, and the number of levels in it. -/
  | item (r : Regex) (depth : Nat)
  /-- The bounds of a repetition. -/
  | repetition (least : Nat) (most? : Option Nat) (greedy : Bool)
  /-- A bar between alternatives. -/
  | bar
  /-- The start of a group: what its brackets are for, and the flags in force inside. -/
  | opening (brackets : Brackets) (flags : Flags)
  /-- The end of a group. -/
  | closing
  /-- A change of the flags, for the rest of the group. -/
  | flags (flags : Flags)

namespace Token

/-! ### Items -/

/-- A single character, in either case where case is ignored. -/
def char (f : Flags) (c : Char) : Token :=
  .item (.ofSet (f.variants c)) 0

/-- The dot: any character, or any that does not end a line. Without Unicode there is none, since it
would match bytes that are no characters. -/
def dot? (f : Flags) : Option Token :=
  let ends : CharSet := if f.returns then .ofList ['\n', '\r'] else .single '\n'
  if f.unicode then some (.item (.one (if f.dotAll then .all else ends.compl)) 0) else none

/-- The anchor that `^` stands for. -/
def startAnchor (f : Flags) : Anchor :=
  if f.multiLine then if f.returns then .lineStartReturn else .lineStart else .textStart

/-- The anchor that `$` stands for. -/
def endAnchor (f : Flags) : Anchor :=
  if f.multiLine then if f.returns then .lineEndReturn else .lineEnd else .textEnd

/-- What an escape stands for outside of classes. -/
def ofEscape? (f : Flags) : Escape → Option Token
  | .char c => some (char f c)
  | .set s negated => (f.complement? negated s).map fun s ↦ .item (.ofSet s) 0
  | .anchor a => some (.item (.look a) 0)

/-! ### Repetitions -/

/-- The bounds of a repetition with the `?` that may follow them, which makes it prefer fewer
turns. -/
def repetitionMark (f : Flags) (least : Nat) (most? : Option Nat) :
    List Char → Token × List Char
  | '?' :: cs => (.repetition least most? f.swapGreed, cs)
  | cs => (.repetition least most? !f.swapGreed, cs)

/-- Reads decimal digits, and skips what is ignored behind each. -/
def readDigits (f : Flags) : Nat → Option Nat → List Char → Option Nat × List Char
  | fuel + 1, value?, c :: cs =>
    if c.isDigit then
      readDigits f fuel (some (10 * value?.getD 0 + (c.toNat - '0'.toNat))) (f.skip cs)
    else (value?, c :: cs)
  | _, value?, cs => (value?, cs)

/-- Skips blanks, which may stand around a bound whatever the flags are. -/
def skipAround (f : Flags) : Nat → List Char → List Char
  | fuel + 1, c :: cs => if Unicode.isBlank c then skipAround f fuel (f.skip cs) else c :: cs
  | _, cs => cs

/-- Reads a bound: a decimal number below 2^32. -/
def readBound (f : Flags) (cs : List Char) : Option (Nat × List Char) := do
  let cs := cs.dropWhile Unicode.isBlank
  let (value?, rest) := readDigits f (cs.length + 1) none cs
  let value ← value?
  if value < 0x100000000 then return (value, skipAround f (rest.length + 1) rest) else none

/-- Reads the bounds of a repetition, behind the opening brace: `n`, `n,` or `n,m`. -/
def readBounds (f : Flags) (cs : List Char) : Option (Token × List Char) := do
  let (least, cs) ← readBound f (f.skip cs)
  match cs with
  | '\x7d' :: rest => return repetitionMark f least (some least) (f.skip rest)
  | ',' :: rest =>
    match f.skip rest with
    | '\x7d' :: rest => return repetitionMark f least none (f.skip rest)
    | cs =>
      let (most, cs) ← readBound f cs
      match cs with
      | '\x7d' :: rest =>
        if least ≤ most then return repetitionMark f least (some most) (f.skip rest) else none
      | _ => none
  | _ => none

/-! ### Groups -/

/-- Whether a character can be part of a group's name. -/
def isNameChar (first : Bool) (c : Char) : Bool :=
  c = '_' || Unicode.isLetter c ||
    !first && (c = '.' || c = '[' || c = ']' || Unicode.isNumber c)

/-- Reads a group's name up to the closing angle bracket. -/
def readName (f : Flags) (cs : List Char) : Option (Token × List Char) :=
  match cs.takeWhile (· ≠ '>'), cs.dropWhile (· ≠ '>') with
  | c :: name, _ :: rest =>
    if isNameChar true c && name.all (isNameChar false) then
      some (.opening (.group (some (String.ofList (c :: name)))) f, rest)
    else none
  | _, _ => none

/-- Reads the start of a group, behind its bracket. A question mark begins a name or flags; flags
that end with the group stand alone, and must not be missing then. -/
def readOpening (f : Flags) (cs : List Char) : Option (Token × List Char) :=
  match f.skip cs with
  | '?' :: '=' :: _ | '?' :: '!' :: _ | '?' :: '<' :: '=' :: _ | '?' :: '<' :: '!' :: _ => none
  | '?' :: 'P' :: '<' :: cs | '?' :: '<' :: cs => readName f cs
  | '?' :: ')' :: _ => none
  | '?' :: cs =>
    match f.read true [] false cs with
    | some (inner, ':' :: rest) => some (.opening .plain inner, rest)
    | some (inner, _ :: rest) => some (.flags inner, rest)
    | _ => none
  | cs => some (.opening (.group none) f, cs)

/-! ### All tokens -/

/-- Reads the token that begins with the character `c`. -/
def read (f : Flags) (c : Char) (cs : List Char) : Option (Token × List Char) :=
  match c with
  | '(' => readOpening f cs
  | ')' => some (.closing, cs)
  | '|' => some (.bar, cs)
  | '[' => (readClass f cs).map fun (s, rest) ↦ (.item (.ofSet s.set) s.depth, rest)
  | '?' => some (repetitionMark f 0 (some 1) cs)
  | '*' => some (repetitionMark f 0 none cs)
  | '+' => some (repetitionMark f 1 none cs)
  | '\x7b' => readBounds f cs
  | '\\' =>
    match Escape.read f cs with
    | some (e, rest) => (ofEscape? f e).map fun t ↦ (t, rest)
    | none => none
  | '.' => (dot? f).map fun t ↦ (t, cs)
  | '^' => some (.item (.look (startAnchor f)) 0, cs)
  | '$' => some (.item (.look (endAnchor f)) 0, cs)
  | c => some (char f c, cs)

end Token

end Descent.Regex
