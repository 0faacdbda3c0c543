import Descent.Plan

/-!
# Grammars

A grammar gives a plan for each of its rules. The plans may refer to all rules, so what a rule
does is defined by depth: `Grammar.call depth` lets rules call each other `depth` levels deep, and
answers with a fault below that.

For a grammar with finitely many rules no depth has to be chosen. A parse does the same thing
whenever it calls the same rule at the same place in the same mode, so a call inside a call like it
would go on for ever; a parse that ends nests no more calls than there are rules, places and modes
to tell them apart.
-/

namespace Descent

/-- A plan for each rule. -/
structure Grammar {ι : Type} (ρ : ι → Type) where
  /-- What a rule stands for. -/
  body : (r : ι) → Plan ρ (ρ r)

namespace Grammar

variable {ι : Type} {ρ : ι → Type} {α : Type}

/-- What the rules do, if they call each other at most `depth` levels deep. -/
def call (g : Grammar ρ) : Nat → (r : ι) → Parser (ρ r)
  | 0, _ => fun _ ↦ .error .unfinished
  | depth + 1, r => (g.body r).parser (g.call depth)

/-- What a plan over the rules does, if they call each other at most `depth` levels deep. -/
def parserAt (g : Grammar ρ) (depth : Nat) (p : Plan ρ α) : Parser α :=
  p.parser (g.call depth)

@[simp] theorem call_zero (g : Grammar ρ) (r : ι) (s : State) :
    g.call 0 r s = .error .unfinished := rfl

theorem call_succ (g : Grammar ρ) (depth : Nat) (r : ι) :
    g.call (depth + 1) r = g.parserAt depth (g.body r) := rfl

/-! ### Finitely many rules -/

/-- The number of different calls of `rules` rules in an input: one for each rule, offset and
mode. -/
def callBound (rules : Nat) (input : String) : Nat :=
  rules * (input.utf8ByteSize + 1) * 2

/-- What a plan over finitely many rules does. -/
def parser {n : Nat} {ρ : Fin n → Type} (g : Grammar ρ) (p : Plan ρ α) : Parser α := fun s ↦
  g.parserAt (callBound n s.location.input) p s

end Grammar

end Descent
