import Descent.Parser.Derived

/-!
# Plans

A plan is a parser as data: which primitives and combinators it is made of. Its meaning is the
parser that `Plan.parser` builds from them. Plans exist for the two things that cannot be said of a
function: that a parser is made of certain parts only, and that it refers to named rules, which may
refer to themselves.

Rules are taken from a family: rule `r` yields values of type `ρ r`. What a rule does is not part of
a plan that refers to it; `Plan.parser` is given a parser for each.
-/

namespace Descent

/-- A parser of values of type `α` as data, over rules that yield values of types `ρ`. -/
inductive Plan {ι : Type} (ρ : ι → Type) : Type → Type 1 where
  /-- A value. -/
  | succeed {α : Type} (a : α) : Plan ρ α
  /-- A failure that commits. -/
  | fail {α : Type} (message : String) : Plan ρ α
  /-- A word. -/
  | literal (word : String) : Plan ρ String
  /-- A pattern. -/
  | pattern (p : Pattern) : Plan ρ String
  /-- The end of the input. -/
  | eof : Plan ρ Unit
  /-- One character. -/
  | anyChar : Plan ρ String
  /-- Any parser at all. -/
  | ofParser {α : Type} (p : Parser α) : Plan ρ α
  /-- A rule. -/
  | rule (r : ι) : Plan ρ (ρ r)
  /-- The second plan, if the first one fails without committing. -/
  | orElse {α : Type} (p q : Plan ρ α) : Plan ρ α
  /-- A plan, and then the one that its value picks. -/
  | flatMap {α β : Type} (p : Plan ρ α) (f : α → Plan ρ β) : Plan ρ β
  /-- A function of the value. -/
  | map {α β : Type} (p : Plan ρ α) (f : α → β) : Plan ρ β
  /-- Two plans one after the other. -/
  | map2 {α β γ : Type} (p : Plan ρ α) (q : Plan ρ β) (f : α → β → γ) : Plan ρ γ
  /-- A repetition. -/
  | repeated {α : Type} (p : Plan ρ α) (b : Bounds) : Plan ρ (List α)
  /-- The text matched. -/
  | slice {α : Type} (p : Plan ρ α) : Plan ρ String
  /-- A plan that does not commit. -/
  | attempt {α : Type} (p : Plan ρ α) : Plan ρ α
  /-- A frame around failures. -/
  | scope {α : Type} (p : Plan ρ α) (message : String) : Plan ρ α
  /-- Another message for failures. -/
  | label {α : Type} (p : Plan ρ α) (message : String) : Plan ρ α
  /-- Nothing, rather than an uncommitted failure. -/
  | optional {α : Type} (p : Plan ρ α) : Plan ρ (Option α)
  /-- Another type of values, without reading any. -/
  | retype {α β : Type} (p : Plan ρ α) (f : α → β) : Plan ρ β
  /-- A plan with slicing switched on or off. -/
  | inMode {α : Type} (p : Plan ρ α) (sliced : Bool) : Plan ρ α

namespace Plan

variable {ι : Type} {ρ : ι → Type} {α β γ : Type}

/-- The parser that a plan describes, where `call` says what the rules do. -/
def parser (call : ∀ r, Parser (ρ r)) : {α : Type} → Plan ρ α → Parser α
  | _, succeed a => .succeed a
  | _, fail message => .fail message
  | _, literal word => .literal word
  | _, pattern p => .pattern p
  | _, eof => .eof
  | _, anyChar => .anyChar
  | _, ofParser p => p
  | _, rule r => call r
  | _, orElse p q => (p.parser call).orElse (q.parser call)
  | _, flatMap p f => (p.parser call).flatMap fun a ↦ (f a).parser call
  | _, map p f => (p.parser call).map f
  | _, map2 p q f => (p.parser call).map2 (q.parser call) f
  | _, repeated p b => (p.parser call).repeated b
  | _, slice p => (p.parser call).slice
  | _, attempt p => (p.parser call).attempt
  | _, scope p message => (p.parser call).scope message
  | _, label p message => (p.parser call).label message
  | _, optional p => (p.parser call).optional
  | _, retype p f => (p.parser call).retype f
  | _, inMode p sliced => (p.parser call).inMode sliced

/-! ### Derived plans -/

/-- Two plans one after the other, with both values. -/
def product (p : Plan ρ α) (q : Plan ρ β) : Plan ρ (α × β) :=
  p.map2 q Prod.mk

/-- Two plans one after the other, with the value of the first. -/
def skip (p : Plan ρ α) (q : Plan ρ β) : Plan ρ α :=
  p.map2 q fun a _ ↦ a

/-- Two plans one after the other, with the value of the second. -/
def skipLeft (p : Plan ρ α) (q : Plan ρ β) : Plan ρ β :=
  p.map2 q fun _ b ↦ b

/-- A plan between two others, with its value. -/
def surroundedBy (p : Plan ρ α) (opening : Plan ρ β) (closing : Plan ρ γ) : Plan ρ α :=
  (opening.skipLeft p).skip closing

/-- A plan that has to consume the whole input. -/
def root (p : Plan ρ α) : Plan ρ α :=
  p.skip eof

/-- A plan any number of times. -/
def many (p : Plan ρ α) : Plan ρ (List α) :=
  p.repeated { least := 0, most? := none }

/-- A plan at least once. -/
def many1 (p : Plan ρ α) : Plan ρ (List α) :=
  p.repeated { least := 1, most? := none }

/-- A plan exactly `n` times. -/
def listOfN (p : Plan ρ α) (n : Nat) : Plan ρ (List α) :=
  p.repeated { least := n, most? := some n }

/-- At least one `p`, with separators between them. -/
def sepBy1 (p : Plan ρ α) (separator : Plan ρ β) : Plan ρ (List α) :=
  p.map2 (separator.skipLeft p).many List.cons

/-- Any number of `p`, with separators between them. -/
def sepBy (p : Plan ρ α) (separator : Plan ρ β) : Plan ρ (List α) :=
  (p.sepBy1 separator).optional.map (·.getD [])

/-- A fixed value in place of the one parsed. -/
def giving (p : Plan ρ α) (b : β) : Plan ρ β :=
  p.slice.map fun _ ↦ b

section Meaning

variable (call : ∀ r, Parser (ρ r))

theorem parser_surroundedBy (p : Plan ρ α) (opening : Plan ρ β) (closing : Plan ρ γ) :
    (p.surroundedBy opening closing).parser call =
      (p.parser call).surroundedBy (opening.parser call) (closing.parser call) := rfl

theorem parser_root (p : Plan ρ α) : p.root.parser call = (p.parser call).root := rfl

theorem parser_sepBy (p : Plan ρ α) (separator : Plan ρ β) :
    (p.sepBy separator).parser call = (p.parser call).sepBy (separator.parser call) := rfl

theorem parser_giving (p : Plan ρ α) (b : β) :
    (p.giving b).parser call = (p.parser call).giving b := rfl

end Meaning

end Plan

end Descent
