import Descent.Regex.Anchor
import Descent.Regex.Flags
import Descent.Unicode.Query

/-!
# Escapes

What may follow a backslash in a pattern: a character that would otherwise be an operator, a
control character by its letter, a character by its number, a class by its letter or by the name of
a property, or an anchor. Anything else is an error, so that letters and digits stay free for
meanings of their own.
-/

namespace Descent.Regex

/-- What an escape stands for. -/
inductive Escape where
  /-- A character. -/
  | char (c : Char)
  /-- A set of characters, or all others. -/
  | set (set : CharSet) (negated : Bool)
  /-- A condition on the place. -/
  | anchor (a : Anchor)

namespace Escape

/-! ### Characters by number -/

/-- The value of a hexadecimal digit. -/
def hexValue? (c : Char) : Option Nat :=
  if '0' ≤ c ∧ c ≤ '9' then some (c.toNat - '0'.toNat)
  else if 'a' ≤ c ∧ c ≤ 'f' then some (c.toNat - 'a'.toNat + 10)
  else if 'A' ≤ c ∧ c ≤ 'F' then some (c.toNat - 'A'.toNat + 10)
  else none

/-- The character with a number, if there is one. -/
def charOfNumber? (n : Nat) : Option Char :=
  if n.isValidChar then some (Char.ofNat n) else none

/-- Reads exactly `n` hexadecimal digits, and skips what is ignored behind each. -/
def readDigits (f : Flags) : Nat → Nat → List Char → Option (Nat × List Char)
  | 0, value, cs => some (value, cs)
  | n + 1, value, cs =>
    match cs with
    | [] => none
    | c :: cs =>
      match hexValue? c with
      | some d => readDigits f n (16 * value + d) (f.skip cs)
      | none => none

/-- Reads hexadecimal digits up to a closing brace. `fuel` bounds their number. -/
def readBraced (f : Flags) : Nat → Option Nat → List Char → Option (Nat × List Char)
  | fuel + 1, value?, c :: cs =>
    if c = '\x7d' then value?.map fun value ↦ (value, f.skip cs)
    else
      match hexValue? c with
      | some d => readBraced f fuel (some (16 * value?.getD 0 + d)) (f.skip cs)
      | none => none
  | _, _, _ => none

/-- The character with a number, if there is one. -/
def ofNumber? (n : Nat) : Option Escape :=
  (charOfNumber? n).map .char

/-- Reads the number of a character: in braces, or of exactly `width` digits. Two digits alone stand
for a byte without Unicode, and so only for one of ASCII: another would be no character. -/
def readNumber (f : Flags) (width : Nat) (cs : List Char) : Option (Escape × List Char) :=
  match f.skip cs with
  | '\x7b' :: cs =>
    match readBraced f (cs.length + 1) none (f.skip cs) with
    | some (n, rest) => (ofNumber? n).map (·, rest)
    | none => none
  | cs =>
    match readDigits f width 0 cs with
    | some (n, rest) =>
      if width = 2 ∧ !f.unicode ∧ 0x80 ≤ n then none else (ofNumber? n).map (·, rest)
    | none => none

/-! ### Classes -/

/-- The set that `\w` stands for. -/
def wordSet (f : Flags) : CharSet :=
  if f.unicode then Unicode.wordCharacters else .asciiWord

/-- The set that `\d` stands for. -/
def digitSet (f : Flags) : CharSet :=
  if f.unicode then Unicode.digits else .asciiDigit

/-- The set that `\s` stands for. -/
def blankSet (f : Flags) : CharSet :=
  if f.unicode then Unicode.whiteSpace else .asciiBlank

/-- Reads the text of a query up to the closing brace. -/
def readQueryText (f : Flags) : Nat → List Char → Option (List Char × List Char)
  | fuel + 1, c :: cs =>
    if c = '\x7d' then some ([], cs)
    else (readQueryText f fuel (f.skip cs)).map fun (text, rest) ↦ (c :: text, rest)
  | _, _ => none

/-- Reads what follows `\p` or `\P`: one character that is no backslash, or a text in braces. There
are no such sets without Unicode. -/
def readProperty (f : Flags) (negated : Bool) (cs : List Char) : Option (Escape × List Char) := do
  let (query, rest) ←
    match f.skip cs with
    | '\x7b' :: cs =>
      (readQueryText f (cs.length + 1) (f.skip cs)).map fun (text, rest) ↦
        (Unicode.Query.ofText text, rest)
    | c :: cs => if c = '\\' then none else some (.name [c], cs)
    | [] => none
  if f.unicode then return (.set (f.close (← query.set?)) negated, rest) else none

/-! ### Word edges -/

/-- The edges that `\b` names in braces. -/
def edgeNamed? : String → Option Edge
  | "start" => some .first
  | "end" => some .last
  | "start-half" => some .firstHalf
  | "end-half" => some .lastHalf
  | _ => none

/-- Whether a character can be part of an edge's name. -/
def isEdgeChar (c : Char) : Bool :=
  c.isAlpha || c = '-'

/-- Reads the letters of an edge's name, what is ignored between them left out. -/
def readEdgeName (f : Flags) : Nat → List Char → List Char × List Char
  | fuel + 1, c :: cs =>
    if isEdgeChar c then
      let (name, rest) := readEdgeName f fuel (f.skip cs)
      (c :: name, rest)
    else ([], c :: cs)
  | _, cs => ([], cs)

/-- Reads what follows `\b`. A brace there begins the name of an edge if a letter follows it, and is
left in place otherwise: it then begins the bounds of a repetition. -/
def readBoundary (f : Flags) (cs : List Char) : Option (Escape × List Char) :=
  let plain := Escape.anchor (.edge .boundary (wordSet f))
  match cs with
  | '\x7b' :: inner =>
    match f.skip inner with
    | [] => none
    | c :: more =>
      if isEdgeChar c then
        match readEdgeName f (more.length + 1) (c :: more) with
        | (name, '\x7d' :: rest) =>
          (edgeNamed? (String.ofList name)).map fun e ↦ (.anchor (.edge e (wordSet f)), rest)
        | _ => none
      else some (plain, cs)
  | cs => some (plain, cs)

/-! ### All escapes -/

/-- Whether the character stands for itself behind a backslash: all of ASCII but letters, digits
and the angle brackets, which are anchors. -/
def isEscapable (c : Char) : Bool :=
  c.toNat < 128 && !c.isAlphanum && c != '<' && c != '>'

/-- Reads what follows a backslash. -/
def read (f : Flags) : List Char → Option (Escape × List Char)
  | [] => none
  | c :: cs =>
    if isEscapable c then some (.char c, cs)
    else
      match c with
      | 'x' => readNumber f 2 cs
      | 'u' => readNumber f 4 cs
      | 'U' => readNumber f 8 cs
      | 'd' => some (.set (digitSet f) false, cs)
      | 'D' => some (.set (digitSet f) true, cs)
      | 's' => some (.set (blankSet f) false, cs)
      | 'S' => some (.set (blankSet f) true, cs)
      | 'w' => some (.set (wordSet f) false, cs)
      | 'W' => some (.set (wordSet f) true, cs)
      | 'p' => readProperty f false cs
      | 'P' => readProperty f true cs
      | 'a' => some (.char '\x07', cs)
      | 'f' => some (.char '\x0c', cs)
      | 't' => some (.char '\t', cs)
      | 'n' => some (.char '\n', cs)
      | 'r' => some (.char '\r', cs)
      | 'v' => some (.char '\x0b', cs)
      | 'A' => some (.anchor .textStart, cs)
      | 'z' => some (.anchor .textEnd, cs)
      | 'b' => readBoundary f cs
      | 'B' => some (.anchor (.edge .inside (wordSet f)), cs)
      | '<' => some (.anchor (.edge .first (wordSet f)), cs)
      | '>' => some (.anchor (.edge .last (wordSet f)), cs)
      | _ => none

end Escape

end Descent.Regex
