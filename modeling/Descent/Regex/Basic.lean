import Descent.Regex.Anchor

/-!
# Regular expressions

The syntax of regular expressions after reading: flags have been applied, and groups have become
nesting. Matching prefers the left alternative of an `alt`, and more repetitions or fewer, as
`greedy` says.

The expressions that are read are built by the functions of `Regex.Form`, which keep to a normal
form: a `seq` or `alt` has no other one of its kind on its left, no literal stands next to another
one in a `seq`, and nothing that consumes nothing is repeated more than once.
-/

namespace Descent

/-- A regular expression. -/
inductive Regex where
  /-- Matches without consuming anything. -/
  | empty
  /-- A text. -/
  | literal (text : List Char)
  /-- One character of a set. -/
  | one (set : CharSet)
  /-- Matches where an anchor holds, without consuming anything. -/
  | look (anchor : Anchor)
  /-- One expression after the other. -/
  | seq (a b : Regex)
  /-- One of two expressions, the left one by preference. -/
  | alt (a b : Regex)
  /-- At least `least` times and at most `most?` times the same expression, as often as possible or
  as seldom. -/
  | repeated (a : Regex) (least : Nat) (most? : Option Nat) (greedy : Bool)
  /-- An expression in brackets of its own. It matches like the expression; the number tells it from
  another group that holds the same one. -/
  | group (number : Nat) (a : Regex)
deriving DecidableEq

namespace Regex

/-- The fewest characters that a match consumes, as far as the form shows. None if a part of the
expression never matches. -/
def fewest? : Regex → Option Nat
  | empty | look _ => some 0
  | literal text => some text.length
  | one set => if set.isEmpty then none else some 1
  | seq a b =>
    match a.fewest?, b.fewest? with
    | some m, some n => some (m + n)
    | _, _ => none
  | alt a b =>
    match a.fewest?, b.fewest? with
    | some m, some n => some (min m n)
    | _, _ => none
  | repeated a least _ _ => a.fewest?.map (least * ·)
  | group _ a => a.fewest?

/-- Whether the form shows that every match consumes something. -/
def consumes (r : Regex) : Bool :=
  r.fewest?.any (0 < ·)

/-- Whether the form shows that no match consumes anything. -/
def staysPut : Regex → Bool
  | empty | look _ => true
  | literal text => text.isEmpty
  | one _ => false
  | seq a b | alt a b => a.staysPut && b.staysPut
  | repeated a _ most? _ => most?.isSome && a.staysPut
  | group _ a => a.staysPut

/-- Whether the form shows that every match begins at the start of a text. -/
def startBound : Regex → Bool
  | look .textStart => true
  | seq a b => a.startBound || a.staysPut && b.startBound
  | alt a b => a.startBound && b.startBound
  | repeated a least _ _ => 0 < least && a.startBound
  | group _ a => a.startBound
  | _ => false

/-- Whether the form shows that every match ends at the end of a text. -/
def endBound : Regex → Bool
  | look .textEnd => true
  | seq a b => b.endBound || b.staysPut && a.endBound
  | alt a b => a.endBound && b.endBound
  | repeated a least _ _ => 0 < least && a.endBound
  | group _ a => a.endBound
  | _ => false

end Regex

end Descent
