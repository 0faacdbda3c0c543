import Descent.ParseError
import Descent.State

/-!
# Outcomes

What a parser answers. A success says how many bytes it consumed and what it has to give for them,
its `Yield`: a value, the text consumed (which can be turned into a value when somebody asks), or
nothing at all. A bare success, of the last kind, arises only in slicing mode, where no value will
be asked for; asking for one is a fault.

A failure is committed or not. After a committed failure no alternative is tried.

An outcome does not know where its parse began. To read a value, `Yield.read` is given that state,
and looks up the consumed text there.
-/

namespace Descent

/-- What a success has to give. -/
inductive Yield (α : Type) where
  /-- A value. -/
  | value (a : α)
  /-- The text consumed, and how a value is made of it. -/
  | text (read : String → α)
  /-- Nothing but the length consumed. -/
  | bare

/-- What a parser answers. -/
inductive Outcome (α : Type) where
  /-- The parser matched `consumed` bytes. -/
  | success (yield : Yield α) (consumed : Nat)
  /-- The parser did not match. No alternative is tried if the failure is committed. -/
  | failure (error : ParseError) (committed : Bool)

/-- An outcome whose value has been read. -/
inductive Reading (α : Type) where
  /-- The value of a match of `consumed` bytes. -/
  | value (a : α) (consumed : Nat)
  /-- A failure, as in the outcome. -/
  | failure (error : ParseError) (committed : Bool)

variable {α β γ : Type}

/-! ### Yields -/

namespace Yield

/-- The value that a success gives which consumed `n` bytes from the state `start`. -/
def read (y : Yield α) (start : State) (n : Nat) : Except Fault α :=
  match y with
  | value a => .ok a
  | text f => return f (← start.span n)
  | bare => .error .bareSuccess

/-- Changes the values without reading any text. -/
def map (f : α → β) : Yield α → Yield β
  | value a => value (f a)
  | text g => text (f ∘ g)
  | bare => bare

/-- Whether two neighbours have no value of their own to combine under slicing: one of them gives
nothing, or both give text. -/
def collapses : Yield α → Yield β → Bool
  | bare, _ | _, bare | text _, text _ => true
  | _, _ => false

@[simp] theorem map_id (y : Yield α) : y.map id = y := by
  cases y <;> rfl

end Yield

/-! ### Outcomes -/

namespace Outcome

/-- A value. -/
def value (a : α) (consumed : Nat) : Outcome α :=
  .success (.value a) consumed

/-- The text consumed. -/
def slice (consumed : Nat) : Outcome String :=
  .success (.text id) consumed

/-- The number of bytes that a success consumed. -/
def consumed? : Outcome α → Option Nat
  | success _ n => some n
  | failure _ _ => none

/-- Whether the parser matched. -/
def isSuccess (o : Outcome α) : Bool :=
  o.consumed?.isSome

/-- Whether alternatives must not be tried. -/
def isCommitted : Outcome α → Bool
  | success _ _ => false
  | failure _ committed => committed

/-- A failure becomes uncommitted. -/
def uncommitted : Outcome α → Outcome α
  | success y n => success y n
  | failure e _ => failure e false

/-- A failure becomes committed if `commit` holds, and otherwise stays as it is. -/
def withCommit (o : Outcome α) (commit : Bool) : Outcome α :=
  match o with
  | success y n => success y n
  | failure e committed => failure e (committed || commit)

/-- Changes the error of a failure. -/
def mapError (o : Outcome α) (f : ParseError → ParseError) : Outcome α :=
  match o with
  | success y n => success y n
  | failure e committed => failure (f e) committed

/-- A success has consumed `n` bytes more. -/
def advance (o : Outcome α) (n : Nat) : Except Fault (Outcome α) :=
  match o with
  | success y m => return success y (← addCounts m n)
  | failure e committed => .ok (failure e committed)

/-- Forgets the value of a success, and gives the text consumed in its place. -/
def toSlice : Outcome α → Outcome String
  | success _ n => slice n
  | failure e committed => failure e committed

/-- Changes the values without reading any text: what gave text still gives it. -/
def retype (o : Outcome α) (f : α → β) : Outcome β :=
  match o with
  | success y n => success (y.map f) n
  | failure e committed => failure e committed

/-- The value of a success that began at `start`. -/
def read (o : Outcome α) (start : State) : Except Fault (Reading α) :=
  match o with
  | success y n => return .value (← y.read start n) n
  | failure e committed => .ok (.failure e committed)

/-- Applies `f` to the value of a success that began at `start`. The text of a slice is read for it;
a bare success stays bare. -/
def mapValue (o : Outcome α) (start : State) (f : α → β) : Except Fault (Outcome β) :=
  match o with
  | success .bare n => .ok (success .bare n)
  | success y n => return value (f (← y.read start n)) n
  | failure e committed => .ok (failure e committed)

/-- The success of two neighbours, of which the first consumed `m` bytes from `start` and the second
`n` bytes from `next`. In slicing mode it is bare where they have no values to combine. -/
def pair (f : α → β → γ) (start next : State) (y : Yield α) (m : Nat) (z : Yield β) (n : Nat) :
    Except Fault (Outcome γ) := do
  if start.sliced && y.collapses z then return .success .bare (← addCounts m n)
  else
    let a ← y.read start m
    let b ← z.read next n
    return value (f a b) (← addCounts m n)

/-- The final value or error of a parse that began at the start of `input`. -/
def extract (o : Outcome α) (input : String) : Except Fault (Except ParseError α) := do
  match ← o.read (.start input) with
  | .value a _ => return .ok a
  | .failure e _ => return .error e

@[simp] theorem withCommit_false (o : Outcome α) : o.withCommit false = o := by
  cases o <;> simp [withCommit]

@[simp] theorem retype_id (o : Outcome α) : o.retype id = o := by
  cases o <;> simp [retype]

@[simp] theorem uncommitted_uncommitted (o : Outcome α) :
    o.uncommitted.uncommitted = o.uncommitted := by
  cases o <;> rfl

@[simp] theorem consumed?_toSlice (o : Outcome α) : o.toSlice.consumed? = o.consumed? := by
  cases o <;> rfl

end Outcome

end Descent
