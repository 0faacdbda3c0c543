import Descent.Parser.Basic

/-!
# Probes

Parsers that show what they are given. They look at the state itself, its offset and its mode, which
no combinator does, and so make visible where and how a combinator runs its parts.
-/

namespace Descent.Parser

/-- The state's offset and mode, without consuming anything. -/
def info : Parser (Nat × Bool) := fun s ↦
  .ok (.value (s.offset, s.sliced) 0)

/-- Fails with a message that tells the mode. -/
def reject {α : Type} (committed : Bool) : Parser α := fun s ↦
  let mode := if s.sliced then "true" else "false"
  .ok (.failure (s.location.error s!"rejected, sliced={mode}") committed)

/-- The next `n` bytes as a slice, in either mode and without looking at the input. -/
def span (n : Nat) : Parser String := fun _ ↦
  .ok (.slice n)

end Descent.Parser
