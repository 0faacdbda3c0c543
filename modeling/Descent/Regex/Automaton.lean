import Descent.Regex.Automaton.Set
import Descent.Regex.Automaton.Texts
import Descent.Regex.Basic

/-!
# Automata of expressions

An expression is accepted only if its automata fit into the memory that there is for one: the one
that reads forwards and notes where groups begin and end, and the one that reads backwards.
-/

namespace Descent.Regex

/-- An alternative in an automaton. -/
inductive Branch where
  /-- A text, by its bytes in the order in which they are read. -/
  | text (bytes : List Nat)
  /-- Anything else. -/
  | part (growth : Growth)

/-- The text of an alternative, if it is one. -/
def Branch.text? : Branch → Option (List Nat)
  | text bytes => some bytes
  | part _ => none

/-- An alternative as a part of its own. -/
def Branch.growth : Branch → Growth
  | text bytes => .row bytes.length
  | part g => g

/-- Alternatives as a part. -/
def joinBranches : List Branch → Growth
  | [b] => b.growth
  | bs =>
    match bs.mapM Branch.text? with
    | some texts => .ofTexts texts
    | none => .choiceFrom 0 (bs.map Branch.growth)

/-- The bytes of a text in UTF-8. -/
def bytesOf (text : List Char) : List Nat :=
  text.flatMap fun c ↦ (String.utf8EncodeChar c).map UInt8.toNat

/-- The alternatives of an expression in an automaton. -/
def branchesIn (backward : Bool) : Regex → List Branch
  | empty | look _ => [.part (.row 1)]
  | literal text => [.text (if backward then (bytesOf text).reverse else bytesOf text)]
  | one set => [.part (.ofSet backward set)]
  | seq a b =>
    let g := joinBranches (a.branchesIn backward)
    let h := joinBranches (b.branchesIn backward)
    [.part (if backward then h.andThen g else g.andThen h)]
  | alt a b => a.branchesIn backward ++ b.branchesIn backward
  | repeated a least most? _ =>
    [.part (.repeated (joinBranches (a.branchesIn backward)) a.consumes least most?)]
  | group _ a =>
    let g := joinBranches (a.branchesIn backward)
    [.part (if backward then g else ((Growth.row 1).andThen g).andThen (.row 1))]

/-- What an automaton begins with: no more than a state if matches are found at one end of a text
only, and else a loop over any bytes before the match. -/
def entrance (bound : Bool) : Growth := fun m ↦
  if bound then (m.add? 1 0).map (·, .plain)
  else (m.add? 3 (Meter.perRange + Meter.perWay)).map (·, .fork)

/-- The automaton of an expression, within the limit. The match as a whole is a group, too. -/
def automaton? (backward : Bool) (r : Regex) : Option Meter :=
  let g := joinBranches (r.branchesIn backward)
  let whole : Growth := if backward then g else ((Growth.row 1).andThen g).andThen (.row 1)
  let bound := if backward then r.endBound else r.startBound
  (((entrance bound).andThen whole).andThen (.row 1) { states := 0, links := 0 }).map (·.1)

/-- Whether the automata of an expression fit into memory. -/
def fits (r : Regex) : Bool :=
  (r.automaton? false).isSome && (r.automaton? true).isSome

end Descent.Regex
