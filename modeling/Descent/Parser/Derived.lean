import Descent.Parser.Repetition

/-!
# Derived combinators

Combinators that are words for compositions of others. Each is defined as such, so that what holds
of the parts holds of the whole.
-/

namespace Descent.Parser

variable {α β γ : Type}

/-! ### Sequences -/

/-- Two parsers one after the other, with both values. -/
def product (p : Parser α) (q : Parser β) : Parser (α × β) :=
  p.map2 q Prod.mk

/-- Two parsers one after the other, with the value of the first. -/
def skip (p : Parser α) (q : Parser β) : Parser α :=
  p.map2 q fun a _ ↦ a

/-- Two parsers one after the other, with the value of the second. -/
def skipLeft (p : Parser α) (q : Parser β) : Parser β :=
  p.map2 q fun _ b ↦ b

/-- A parser between two others, with its value. -/
def surroundedBy (p : Parser α) (opening : Parser β) (closing : Parser γ) : Parser α :=
  (opening.skipLeft p).skip closing

/-- A parser that has to consume the whole input. -/
def root (p : Parser α) : Parser α :=
  p.skip eof

/-! ### Lists -/

/-- At least one `p`, with separators between them. -/
def sepBy1 (p : Parser α) (separator : Parser β) : Parser (List α) :=
  p.map2 (separator.skipLeft p).many List.cons

/-- Any number of `p`, with separators between them. -/
def sepBy (p : Parser α) (separator : Parser β) : Parser (List α) :=
  (p.sepBy1 separator).optional.map (·.getD [])

/-! ### Values -/

/-- A fixed value in place of the one parsed, whose text is all that is asked for. -/
def giving (p : Parser α) (b : β) : Parser β :=
  p.slice.map fun _ ↦ b

end Descent.Parser
