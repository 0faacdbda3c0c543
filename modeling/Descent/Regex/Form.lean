import Descent.Regex.Basic

/-!
# Building expressions

Expressions are put together here in a normal form. Sequences and alternatives are lists, which are
flattened; texts that follow one another become one text; alternatives that are single characters or
sets become a set, and what all alternatives begin with is taken out in front of them. Something
that consumes nothing is repeated at most once, because another turn of it would make no difference.
So the size of an expression is that of what it means, however it was written.
-/

namespace Descent.Regex

/-- One character of a set: the character itself, if there is only one. -/
def ofSet (s : CharSet) : Regex :=
  match s.only? with
  | some c => literal [c]
  | none => one s

/-! ### Sequences -/

/-- The expressions that follow one another in an expression. -/
def factors : Regex → List Regex
  | empty => []
  | seq a b => a :: b.factors
  | r => [r]

/-- Expressions one after the other. -/
def ofFactors : List Regex → Regex
  | [] => empty
  | [r] => r
  | r :: rs => seq r (ofFactors rs)

/-- Puts an expression in front of others. Texts are joined. -/
def consFactor (r : Regex) (rs : List Regex) : List Regex :=
  match r, rs with
  | literal s, literal t :: rs => literal (s ++ t) :: rs
  | r, rs => r :: rs

/-- Expressions one after the other, in normal form. -/
def concat (rs : List Regex) : Regex :=
  ofFactors ((rs.flatMap factors).foldr consFactor [])

/-! ### Alternatives -/

/-- The alternatives of an expression, in order of preference. -/
def branches : Regex → List Regex
  | alt a b => a :: b.branches
  | r => [r]

/-- The first of some expressions that matches. -/
def ofBranches : List Regex → Regex
  | [] => one .empty
  | [r] => r
  | r :: rs => alt r (ofBranches rs)

/-- The character that an expression matches, if it is a text of one character. -/
def letter? : Regex → Option Char
  | literal [c] => some c
  | _ => none

/-- The set that an expression matches a character of, if it is no more than that. -/
def set? : Regex → Option CharSet
  | one s => some s
  | _ => none

/-- Whether several expressions follow one another in an expression. -/
def isSequence : Regex → Bool
  | seq _ _ => true
  | _ => false

/-- What two lists begin with. -/
def commonFactors : List Regex → List Regex → List Regex
  | r :: rs, s :: ss => if r = s then r :: commonFactors rs ss else []
  | _, _ => []

/-- What all alternatives begin with, if all of them are sequences. -/
def sharedFactors (rs : List Regex) : List Regex :=
  match rs with
  | [] => []
  | r :: more =>
    if rs.all isSequence then more.foldl (fun shared s ↦ commonFactors shared s.factors) r.factors
    else []

/-- The number of parts of an expression. -/
def size : Regex → Nat
  | seq a b | alt a b => a.size + b.size + 1
  | repeated a _ _ _ | group _ a => a.size + 1
  | _ => 1

/-- Alternatives in normal form. What they begin with is taken out at most `fuel` times. -/
def alternativesWithin : Nat → List Regex → Regex
  | 0, rs => ofBranches rs
  | fuel + 1, rs =>
    let rs := rs.flatMap branches
    match rs with
    | [] => one .empty
    | [r] => r
    | rs =>
      match rs.mapM letter?, rs.mapM set? with
      | some cs, _ => ofSet (.ofList cs)
      | _, some sets => ofSet (sets.foldr .union .empty)
      | none, none =>
        match sharedFactors rs with
        | [] => ofBranches rs
        | shared =>
          let rests := rs.map fun r ↦ concat (r.factors.drop shared.length)
          concat (shared ++ [alternativesWithin fuel rests])

/-- The first of some expressions that matches, in normal form. Each time that something is taken
out in front of the alternatives, their size goes down. -/
def alternatives (rs : List Regex) : Regex :=
  alternativesWithin (rs.foldr (fun r n ↦ r.size + n) 1) rs

/-! ### Repetitions -/

/-- A repetition in normal form. -/
def repeating (r : Regex) (least : Nat) (most? : Option Nat) (greedy : Bool) : Regex :=
  let least := if r.staysPut then min least 1 else least
  let most? := if r.staysPut then some (min (most?.getD 1) 1) else most?
  if least = 0 ∧ most? = some 0 then empty
  else if least = 1 ∧ most? = some 1 then r
  else repeated r least most? greedy

end Descent.Regex
