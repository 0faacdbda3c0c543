import Descent.Plan
import Descent.Value

/-!
# Plans that a value picks

What may follow a value whose shape is not known beforehand, as the second argument of
`Plan.flatMap`: the same text once more, a plan as often as the value says, or a plan for each text
that the value may be.
-/

namespace Descent.Plan

variable {ι : Type} {ρ : ι → Type}

/-- A plan for text as one for values; its slices stay slices. -/
def text (p : Plan ρ String) : Plan ρ Value :=
  p.retype .text

/-- A plan for lists as one for values. -/
def list (p : Plan ρ (List Value)) : Plan ρ Value :=
  p.map .list

/-- The text of the value once more. -/
def same : Value → Plan ρ Value
  | .text s => (literal s).text
  | _ => fail "not text"

/-- A plan as often as the value says. -/
def times (p : Plan ρ Value) (v : Value) : Plan ρ Value :=
  (p.listOfN v.turns).list

/-- The plan listed for the value's text, or else `other`. -/
def cases (listed : List (String × Plan ρ Value)) (other : Plan ρ Value) : Value → Plan ρ Value
  | .text s =>
    match listed.find? (·.1 == s) with
    | some (_, p) => p
    | none => other
  | _ => other

end Descent.Plan
