import Descent.Regex.Automaton.Meter

/-!
# Texts in an automaton

Alternatives that are all texts share what they begin with: they become a tree of states. The order
of preference must not get lost, so a text that ends where another one goes on divides the bytes
that may follow there into those of the texts before it and those of the texts behind it.
-/

namespace Descent.Regex

/-- The texts that go on with a byte, by that byte, and what they go on with behind it. Each has its
texts in their order. -/
def byByte (texts : List (List Nat)) : List (Nat × List (List Nat)) :=
  texts.foldr (fun text groups ↦
    match text with
    | [] => groups
    | b :: rest =>
      match groups.lookup b with
      | some rests => (b, rest :: rests) :: groups.filter (·.1 ≠ b)
      | none => (b, [rest]) :: groups) []

/-- Divides texts where one of them has come to its end. Of several that end before any other goes
on, the first one counts alone. -/
def divideAtEnds (texts : List (List Nat)) : List (List (List Nat)) :=
  let ended := texts.takeWhile List.isEmpty
  let others := texts.dropWhile List.isEmpty
  let sections := others.foldr (fun text sections ↦
    match text, sections with
    | [], sections => [] :: sections
    | text, first :: more => (text :: first) :: more
    | text, [] => [[text]]) [[]]
  if ended.isEmpty then sections else [] :: sections

/-- The states, and the bytes for what leads on from them, of the tree of some texts, none of which
is longer than the first argument. -/
def treeOfTexts : Nat → List (List Nat) → Nat × Nat
  | 0, _ => (0, 0)
  | n + 1, texts =>
    if texts.all List.isEmpty then (0, 0)
    else
      let sections := divideAtEnds texts
      let groups := sections.map byByte
      -- One way for each section that goes on, and one for each text that ends between sections.
      let ways := (sections.length - 1) + (groups.filter fun g ↦ !g.isEmpty).length
      -- A fork, and behind it a state for each section that goes on.
      let own := groups.foldl (fun (states, links) g ↦
        match g with
        | [] => (states, links)
        | [_] => (states + 1, links)
        | g => (states + 1, links + Meter.perRange * g.length)) (1, Meter.perWay * ways)
      groups.flatten.foldl (fun (states, links) (_, rests) ↦
        let (s, l) := treeOfTexts n rests
        (states + s, links + l)) own

/-- One of several texts. -/
def Growth.ofTexts (texts : List (List Nat)) : Growth := fun m ↦
  let (states, links) := treeOfTexts (texts.foldr (fun text n ↦ max text.length n) 0) texts
  (m.add? (states + 1) links).map (·, .plain)

end Descent.Regex
