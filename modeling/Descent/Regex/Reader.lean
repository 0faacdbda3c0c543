import Descent.Regex.Automaton
import Descent.Regex.Token

/-!
# Reading patterns

The tokens of a pattern are put together from left to right. What has been read so far is a list of
open groups, the innermost one first, each with its finished alternatives and the items of the one
at hand; a closing bracket turns the innermost group into an item of the next. So no token is looked
at twice, and what stands in the groups around does not matter until they are closed.

Flags are in force up to the end of the group that they stand in, past the bars in it.

A pattern is valid if it can be read, if it is not nested too deep, and if its automata fit into
memory. A group, a repetition, alternatives and items that follow one another are each one level
above what they hold. What can be read is a matter of the syntax alone; the limits are a condition
on what has been read, and come in as a parameter (`ofPatternWithin?`).
-/

namespace Descent.Regex

/-- An expression with the number of levels in what it was read from. -/
structure Nested where
  /-- The expression. -/
  regex : Regex
  /-- The number of levels. -/
  depth : Nat

/-- The levels of some parts put together, which is one level more if there are several. -/
def depthOfParts (depths : List Nat) : Nat :=
  depths.foldr max 0 + if 1 < depths.length then 1 else 0

/-- A group whose closing bracket has not been read yet. -/
structure OpenGroup where
  /-- The number of the group, unless its brackets only hold together what is inside. -/
  number? : Option Nat
  /-- The flags in force behind the group. -/
  outside : Flags
  /-- The finished alternatives, the last one first. -/
  branches : List Nested := []
  /-- The items of the alternative at hand, the last one first. What only sets flags has none, and
  cannot be repeated. -/
  items : List (Option Nested) := []

namespace OpenGroup

/-- The alternative at hand. -/
def branch (g : OpenGroup) : Nested where
  regex := .concat (g.items.reverse.filterMap fun item? ↦ item?.map (·.regex))
  depth := depthOfParts (g.items.map fun item? ↦ (item?.map (·.depth)).getD 0)

/-- What the group holds. -/
def content (g : OpenGroup) : Nested :=
  match g.branches with
  | [] => g.branch
  | branches =>
    let branches := g.branch :: branches
    { regex := .alternatives (branches.reverse.map (·.regex))
      depth := depthOfParts (branches.map (·.depth)) }

/-- The expression that the group stands for. -/
def close (g : OpenGroup) : Nested :=
  let content := g.content
  match g.number? with
  | some number => { regex := .group number content.regex, depth := content.depth + 1 }
  | none => { content with depth := content.depth + 1 }

/-- Finishes the alternative at hand, and begins another one. -/
def next (g : OpenGroup) : OpenGroup :=
  { g with branches := g.branch :: g.branches, items := [] }

/-- Adds something to match to the alternative at hand. -/
def add (g : OpenGroup) (item? : Option Nested) : OpenGroup :=
  { g with items := item? :: g.items }

end OpenGroup

/-- What has been read of a pattern. -/
structure Draft where
  /-- The flags in force. -/
  flags : Flags
  /-- The number of groups so far. -/
  groups : Nat
  /-- The names of groups so far. -/
  names : List String
  /-- The innermost open group. -/
  here : OpenGroup
  /-- The open groups around it, from the inside out. -/
  outer : List OpenGroup

namespace Draft

/-- Nothing has been read. -/
def start : Draft where
  flags := {}
  groups := 0
  names := []
  here := { number? := none, outside := {} }
  outer := []

/-- Opens a group. A name must not come twice. -/
def openGroup (p : Draft) (brackets : Brackets) (flags : Flags) : Option Draft :=
  let opened (number? : Option Nat) : Draft :=
    { p with flags, here := { number?, outside := p.flags }, outer := p.here :: p.outer }
  match brackets with
  | .plain => some (opened none)
  | .group none => some { opened (some p.groups) with groups := p.groups + 1 }
  | .group (some name) =>
    if name ∈ p.names then none
    else some { opened (some p.groups) with groups := p.groups + 1, names := name :: p.names }

/-- Adds a token. A repetition has to follow something that can be repeated, and a closing bracket
an opening one. -/
def push (p : Draft) : Token → Option Draft
  | .item regex depth => some { p with here := p.here.add (some { regex, depth }) }
  | .repetition least most? greedy =>
    match p.here.items with
    | some r :: items =>
      let r := { regex := .repeating r.regex least most? greedy, depth := r.depth + 1 }
      some { p with here := { p.here with items := some r :: items } }
    | _ => none
  | .bar => some { p with here := p.here.next }
  | .opening brackets flags => p.openGroup brackets flags
  | .closing =>
    match p.outer with
    | up :: outer =>
      some { p with flags := p.here.outside, here := up.add (some p.here.close), outer }
    | [] => none
  | .flags flags => some { p with flags, here := p.here.add none }

/-- The expression read, if all groups are closed. -/
def finish (p : Draft) : Option Nested :=
  match p.outer with
  | [] => some p.here.content
  | _ :: _ => none

/-- Reads tokens up to the end of the pattern. `fuel` bounds their number. -/
def readTokens : Nat → Draft → List Char → Option Draft
  | 0, _, _ => none
  | fuel + 1, p, cs =>
    match p.flags.skip cs with
    | [] => some p
    | c :: cs =>
      match Token.read p.flags c cs with
      | none => none
      | some (t, rest) =>
        match p.push t with
        | none => none
        | some p => readTokens fuel p rest

end Draft

/-- The expression that a text is read as, with its levels. -/
def read? (pattern : String) : Option Nested :=
  let cs := pattern.toList
  match Draft.readTokens (cs.length + 1) .start cs with
  | some p => p.finish
  | none => none

/-- The levels that a pattern may have. -/
def maxDepth : Nat := 250

/-- The expression is within the limits for levels and memory. -/
def Nested.Admissible (r : Nested) : Prop :=
  r.depth ≤ maxDepth ∧ r.regex.fits

instance : DecidablePred Nested.Admissible := fun r ↦
  inferInstanceAs (Decidable (r.depth ≤ maxDepth ∧ r.regex.fits))

/-- The expression that a pattern stands for, if it can be read and is within limits. -/
def ofPatternWithin? (limits : Nested → Prop) [DecidablePred limits] (pattern : String) :
    Option Regex :=
  match read? pattern with
  | some r => if limits r then some r.regex else none
  | none => none

theorem ofPatternWithin?_eq_some_iff {limits : Nested → Prop} [DecidablePred limits]
    {pattern : String} {regex : Regex} :
    ofPatternWithin? limits pattern = some regex ↔
      ∃ r, read? pattern = some r ∧ limits r ∧ r.regex = regex := by
  cases hread : read? pattern with
  | none => simp [ofPatternWithin?, hread]
  | some r =>
    by_cases hlimits : limits r <;> simp [ofPatternWithin?, hread, hlimits]

/-- The expression that a pattern stands for, if it is a valid one. -/
def ofPattern? (pattern : String) : Option Regex :=
  ofPatternWithin? Nested.Admissible pattern

end Descent.Regex
