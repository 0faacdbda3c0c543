import Descent.Regex.Escape

/-!
# Classes in brackets

A class in brackets is a list of characters, ranges, escapes, named sets and further classes, which
stand for their union. Between such unions may stand the operators `&&`, `--` and `~~`, all of one
strength and grouped to the left. A `^` behind the opening bracket takes the complement.

The open classes are a list, the innermost one first; a closing bracket turns the first one into a
set, which becomes an item of the next. Where case is ignored, a class is closed under change of
case before its complement is taken, and so are the operands of an operator.

How deep a class is nested is counted as it is read: brackets, operators and unions of more than one
item are each one level above what they hold.
-/

namespace Descent.Regex

/-- A set of characters with the number of levels in what it was read from. -/
structure NestedSet where
  /-- The characters. -/
  set : CharSet
  /-- The number of levels. -/
  depth : Nat

/-- What joins two unions in a class. -/
inductive SetOperator where
  /-- The characters of both. -/
  | inter
  /-- The characters of the first that are not in the second. -/
  | diff
  /-- The characters of exactly one. -/
  | symmDiff

/-- The set that an operator makes of two. -/
def SetOperator.apply : SetOperator → CharSet → CharSet → CharSet
  | inter => CharSet.inter
  | diff => CharSet.diff
  | symmDiff => CharSet.symmDiff

/-- A class whose closing bracket has not been read yet. -/
structure OpenClass where
  /-- Whether the complement is meant. -/
  negated : Bool
  /-- The operator in front of the current union, and what stands to the left of it. -/
  left? : Option (NestedSet × SetOperator) := none
  /-- The union of the items read so far, and the levels of the deepest. -/
  items : NestedSet := { set := .empty, depth := 0 }
  /-- The number of items read so far. -/
  count : Nat := 0

namespace OpenClass

/-- Adds an item to the current union. -/
def add (c : OpenClass) (s : NestedSet) : OpenClass :=
  { c with
    items := { set := .union c.items.set s.set, depth := max c.items.depth s.depth }
    count := c.count + 1 }

/-- Adds a character to the current union. -/
def addChar (c : OpenClass) (d : Char) : OpenClass :=
  c.add { set := .single d, depth := 0 }

/-- The current union. -/
def currentUnion (c : OpenClass) : NestedSet :=
  { c.items with depth := if 1 < c.count then c.items.depth + 1 else c.items.depth }

/-- What stands to the left of an operator or bracket that comes next: the current union, joined to
what stands to the left of it. -/
def joined (f : Flags) (c : OpenClass) : NestedSet :=
  match c.left? with
  | some (left, operator) =>
    { set := operator.apply (f.close left.set) (f.close c.items.set)
      depth := max left.depth c.currentUnion.depth + 1 }
  | none => c.currentUnion

/-- Begins another union behind an operator. -/
def operate (f : Flags) (c : OpenClass) (operator : SetOperator) : OpenClass :=
  { negated := c.negated, left? := some (c.joined f, operator) }

/-- The set that the class stands for. -/
def set? (f : Flags) (c : OpenClass) : Option NestedSet :=
  let joined := c.joined f
  (f.complement? c.negated (f.close joined.set)).map ({ set := ·, depth := joined.depth + 1 })

/-- Reads minus signs, which stand for themselves at the start of a class. -/
def readSigns (f : Flags) : Nat → OpenClass → List Char → OpenClass × List Char
  | fuel + 1, c, '-' :: cs => readSigns f fuel (c.addChar '-') (f.skip cs)
  | _, c, cs => (c, cs)

/-- Reads the start of a class, behind its opening bracket: the `^` of a complement, then minus
signs, or a closing bracket that stands for itself. -/
def read (f : Flags) (cs : List Char) : OpenClass × List Char :=
  let (negated, cs) :=
    match f.skip cs with
    | '^' :: cs => (true, f.skip cs)
    | cs => (false, cs)
  match cs with
  | ']' :: cs => (OpenClass.addChar { negated } ']', f.skip cs)
  | cs => readSigns f (cs.length + 1) { negated } cs

end OpenClass

/-! ### Items -/

/-- Reads one end of a range, or an item that cannot be one. -/
def readClassItem (f : Flags) : List Char → Option (Escape × List Char)
  | [] => none
  | '\\' :: cs => Escape.read f cs
  | c :: cs => some (.char c, cs)

/-- The character behind the next one, where what is ignored is passed over: blanks, and behind them
a number sign with the blanks behind it. -/
def peekIgnoring (f : Flags) (cs : List Char) : Option Char :=
  if f.verbose then
    match cs.dropWhile Unicode.isBlank with
    | '#' :: cs => (cs.dropWhile Unicode.isBlank).head?
    | cs => cs.head?
  else cs.head?

/-- Reads a character, a range or an escaped set. A minus sign makes a range, unless a closing
bracket or another minus sign follows it. -/
def readRange (f : Flags) (cs : List Char) : Option (CharSet × List Char) := do
  let (first, cs) ← readClassItem f cs
  match f.skip cs with
  | [] => none
  | c :: rest =>
    if c ≠ '-' ∨ peekIgnoring f rest = some ']' ∨ peekIgnoring f rest = some '-' then
      match first with
      | .char a => if f.admits a then return (.single a, c :: rest) else none
      | .set s negated => return (← f.complement? negated s, c :: rest)
      | .anchor _ => none
    else
      let (last, rest) ← readClassItem f (f.skip rest)
      match first, last with
      | .char a, .char b =>
        if a ≤ b ∧ f.admits a ∧ f.admits b then return (.range a b, rest) else none
      | _, _ => none

/-- Reads the name of a set, as in `[:alpha:]` or `[:^alpha:]`, behind its opening bracket. Gives
nothing if no such name stands there, and a set that does not exist as `some none`. -/
def readNamedSet (f : Flags) : List Char → Option (Option CharSet × List Char)
  | ':' :: cs =>
    let (negated, cs) :=
      match cs with
      | '^' :: cs => (true, cs)
      | cs => (false, cs)
    match cs.dropWhile (· ≠ ':') with
    | ':' :: ']' :: rest =>
      (CharSet.named? (String.ofList (cs.takeWhile (· ≠ ':')))).map fun s ↦
        (f.complement? negated (f.close s), rest)
    | _ => none
  | _ => none

/-! ### The whole class -/

/-- Reads the items of a class up to its closing bracket. `outer` are the classes around it, the
innermost one first; `fuel` bounds the number of items. -/
def readClassItems (f : Flags) :
    Nat → OpenClass → List OpenClass → List Char → Option (NestedSet × List Char)
  | 0, _, _, _ => none
  | fuel + 1, here, outer, cs =>
    match f.skip cs with
    | [] => none
    | '[' :: rest =>
      match readNamedSet f rest with
      | some (some set, rest) => readClassItems f fuel (here.add { set, depth := 0 }) outer rest
      | some (none, _) => none
      | none =>
        let (inner, rest) := OpenClass.read f rest
        readClassItems f fuel inner (here :: outer) rest
    | ']' :: rest =>
      match here.set? f, outer with
      | some s, [] => some (s, rest)
      | some s, up :: outer => readClassItems f fuel (up.add s) outer rest
      | none, _ => none
    | '&' :: '&' :: rest => readClassItems f fuel (here.operate f .inter) outer rest
    | '-' :: '-' :: rest => readClassItems f fuel (here.operate f .diff) outer rest
    | '~' :: '~' :: rest => readClassItems f fuel (here.operate f .symmDiff) outer rest
    | cs =>
      match readRange f cs with
      | some (set, rest) => readClassItems f fuel (here.add { set, depth := 0 }) outer rest
      | none => none

/-- Reads a class, behind its opening bracket. -/
def readClass (f : Flags) (cs : List Char) : Option (NestedSet × List Char) :=
  let (c, rest) := OpenClass.read f cs
  readClassItems f (cs.length + 1) c [] rest

end Descent.Regex
