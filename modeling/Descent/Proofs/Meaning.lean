import Descent.Grammar
import Descent.Proofs.Primitives

/-!
# What a plan means

The plain meaning of a plan, with no slices, no slicing mode and no texts to be read later: at a
location a plan gives a value and the length it consumed, or fails with what is said of the failure
and a commitment (`Sense`). The clauses say what the documentation of each part says, and none of
them calls on what parsers do.

* What is said of a failure is a list of frames, which `label` and `scope` change at its two ends.
* A repetition goes on behind each turn: so often, if it has an upper bound (`Meaning.upTo`), and
  else until a turn fails or takes nothing, by recursion on what is left (`Meaning.unlimited`).
* The only thing kept from parsers is that the meaning of rules is taken to a depth of calls, so a
  meaning may be missing.
-/

namespace Descent

variable {ι : Type} {ρ : ι → Type} {α β γ : Type}

/-- What a plan gives at a location. -/
inductive Sense (α : Type) where
  /-- A value, and the number of bytes consumed. -/
  | value (a : α) (consumed : Nat)
  /-- A failure: what is said of it, from the inside out, and whether it rules out alternatives. -/
  | failure (frames : List Frame) (committed : Bool)

namespace Sense

/-- A function of the value. -/
def map (f : α → β) : Sense α → Sense β
  | value a n => .value (f a) n
  | failure frames committed => .failure frames committed

/-- The same without commitment. -/
def uncommitted : Sense α → Sense α
  | value a n => .value a n
  | failure frames _ => .failure frames false

/-- Where and what was being parsed, said around a failure. -/
def saidAround (frame : Frame) : Sense α → Sense α
  | value a n => .value a n
  | failure frames committed => .failure (frames ++ [frame]) committed

/-- Other words for the innermost frame of a failure, which stays where it is. -/
def reworded (message : String) : Sense α → Sense α
  | failure (frame :: outer) committed =>
    .failure ({ location := frame.location, message } :: outer) committed
  | s => s

/-- Values and bytes that came before. -/
def prepend (as : List α) (n : Nat) : Sense (List α) → Sense (List α)
  | value bs m => .value (as ++ bs) (n + m)
  | failure frames committed => .failure frames committed

@[simp]
theorem prepend_nil (s : Sense (List α)) : s.prepend [] 0 = s := by
  cases s with
  | value as n => simp only [prepend, List.nil_append, Nat.zero_add]
  | failure frames committed => rfl

@[simp]
theorem prepend_prepend (as bs : List α) (m n : Nat) (s : Sense (List α)) :
    (s.prepend bs n).prepend as m = s.prepend (as ++ bs) (m + n) := by
  cases s with
  | value cs k => simp only [prepend, List.append_assoc, Nat.add_assoc]
  | failure frames committed => rfl

end Sense

/-- What is meant where an outcome has been read like this. -/
def Reading.sense : Reading α → Sense α
  | value a n => .value a n
  | failure e committed => .failure e.frames committed

/-- What is given at a location, if the rules are followed far enough for that. -/
abbrev Meaning (α : Type) := Location → Option (Sense α)

namespace Meaning

/-! ### Primitives -/

/-- A word stands at the location. If it does not, the failure lies behind the front that the word
shares with the text, and is committed unless this front is empty. -/
def literal (word : String) : Meaning String := fun l ↦
  let front := Text.sharedFront word.toList l.behind
  if front = word.toList then some (.value word word.utf8ByteSize)
  else some (.failure [⟨l.jump (Text.byteLength front), s!"'{word}'"⟩] (!front.isEmpty))

/-- A match of the pattern stands at the location. -/
def pattern (p : Pattern) : Meaning String := fun l ↦
  match p.find l.behind with
  | some found => some (.value (String.ofList found.text) (Text.byteLength found.text))
  | none => some (.failure [⟨l, s!"regex {p.source}"⟩] false)

/-- Nothing stands behind the location. -/
def eof : Meaning Unit := fun l ↦
  match l.behind with
  | [] => some (.value () 0)
  | _ :: _ => some (.failure [⟨l, "end of input"⟩] false)

/-- The next character. -/
def anyChar : Meaning String := fun l ↦
  match l.behind with
  | c :: _ => some (.value (String.singleton c) c.utf8Size)
  | [] => some (.failure [⟨l, "any char"⟩] false)

/-- A parser from outside means what it answers. -/
def ofParser (p : Parser α) : Meaning α := fun l ↦
  let s : State := { location := l, sliced := false }
  (do (← p s).read s).toOption.map Reading.sense

/-! ### Combinators -/

/-- The second, where the first fails and has not committed. -/
def orElse (m m' : Meaning α) : Meaning α := fun l ↦ do
  match ← m l with
  | .failure _ false => m' l
  | r => some r

/-- A value that may be missing. -/
def optional (m : Meaning α) : Meaning (Option α) := fun l ↦ do
  match ← m l with
  | .failure _ false => some (.value none 0)
  | r => some (r.map some)

/-- One behind the other. -/
def map2 (m : Meaning α) (m' : Meaning β) (f : α → β → γ) : Meaning γ := fun l ↦ do
  match ← m l with
  | .failure frames committed => some (.failure frames committed)
  | .value a i =>
    match ← m' (l.jump i) with
    | .failure frames committed => some (.failure frames committed)
    | .value b j => some (.value (f a b) (i + j))

/-- One behind the other, where the value of the first picks the second. -/
def flatMap (m : Meaning α) (f : α → Meaning β) : Meaning β := fun l ↦ do
  match ← m l with
  | .failure frames committed => some (.failure frames committed)
  | .value a i =>
    match ← f a (l.jump i) with
    | .failure frames committed => some (.failure frames (committed || i != 0))
    | .value b j => some (.value b (i + j))

/-- The text consumed. -/
def slice (m : Meaning α) : Meaning String := fun l ↦ do
  match ← m l with
  | .failure frames committed => some (.failure frames committed)
  | .value _ n => some (.value (l.text n) n)

/-! ### Repetition -/

/-- One turn of a repetition, and what comes of its value and length. A failure is an end like any
other, unless it is committed or so many turns as `least` are still missing. -/
def turn (m : Meaning α) (least : Nat) (next : α → Nat → Option (Sense (List α))) :
    Meaning (List α) := fun l ↦
  match m l with
  | none => none
  | some (.failure frames committed) =>
    if committed || 0 < least then some (.failure frames committed) else some (.value [] 0)
  | some (.value a n) => next a n

/-- At most so many turns, and at least so many. -/
def upTo (m : Meaning α) : (most least : Nat) → Meaning (List α)
  | 0, _ => fun _ ↦ some (.value [] 0)
  | most + 1, least => fun l ↦
    m.turn least (fun a n ↦ (upTo m most (least - 1) (l.jump n)).map (.prepend [a] n)) l

/-- Turns without a limit, and at least so many. A turn that consumes nothing is the last one, and
none consumes anything where nothing is left. -/
def unlimited (m : Meaning α) (least : Nat) : Meaning (List α) := fun l ↦
  m.turn least (fun a n ↦
    if n = 0 then some (.value [a] 0)
    else if l.offset < l.input.utf8ByteSize then
      (unlimited m (least - 1) (l.jump n)).map (.prepend [a] n)
    else none) l
termination_by l => l.input.utf8ByteSize - l.offset
decreasing_by
  rw [Location.input_jump, Location.offset_jump]
  omega

/-- One behind the other, as often as the bounds say. -/
def repeated (m : Meaning α) (b : Bounds) : Meaning (List α) :=
  match b.most? with
  | some most => m.upTo most b.least
  | none => m.unlimited b.least

/-- One behind the other, any number of times. -/
def many (m : Meaning α) : Meaning (List α) :=
  m.repeated { least := 0, most? := none }

/-- At valid places, values end within the input. -/
def Within (m : Meaning α) : Prop :=
  ∀ l a n, l.Valid → m l = some (.value a n) → (l.jump n).Valid

/-- Where a turn consumes something, something is left. -/
theorem Within.offset_lt {m : Meaning α} (hm : m.Within) {l : Location} (hl : l.Valid) {a : α}
    {n : Nat} (h : m l = some (.value a n)) (hn : n ≠ 0) : l.offset < l.input.utf8ByteSize := by
  have hle : l.offset + n ≤ l.input.utf8ByteSize := (hm l a n hl h).offset_le
  omega

/-- Any number of turns: none if there is no first one, that one alone if it takes no byte, and else
that one and any number of turns behind it. -/
theorem many_eq {m : Meaning α} (hm : m.Within) {l : Location} (hl : l.Valid) :
    m.many l = (do
      match ← m l with
      | .failure frames committed =>
        if committed then some (.failure frames committed) else some (.value [] 0)
      | .value a n =>
        if n = 0 then some (.value [a] n)
        else (m.many (l.jump n)).map (.prepend [a] n)) := by
  change m.unlimited 0 l = _
  rw [unlimited, turn]
  rcases hr : m l with - | ⟨a, n⟩ | ⟨frames, committed⟩
  · rfl
  · by_cases hn : n = 0
    · simp [hn]
    · have hleft := hm.offset_lt hl hr hn
      simp [hn, hleft, many, repeated]
  · simp

end Meaning

/-! ### Plans -/

namespace Plan

/-- The meaning of a plan, where `call` says what the rules mean. -/
def meaning (call : ∀ r, Meaning (ρ r)) : {α : Type} → Plan ρ α → Meaning α
  | _, succeed a => fun _ ↦ some (.value a 0)
  | _, fail message => fun l ↦ some (.failure [⟨l, message⟩] true)
  | _, literal word => .literal word
  | _, pattern p => .pattern p
  | _, eof => .eof
  | _, anyChar => .anyChar
  | _, ofParser p => .ofParser p
  | _, rule r => call r
  | _, orElse p q => (p.meaning call).orElse (q.meaning call)
  | _, flatMap p f => (p.meaning call).flatMap fun a ↦ (f a).meaning call
  | _, map p f => fun l ↦ (p.meaning call l).map (.map f)
  | _, map2 p q f => (p.meaning call).map2 (q.meaning call) f
  | _, repeated p b => (p.meaning call).repeated b
  | _, slice p => (p.meaning call).slice
  | _, attempt p => fun l ↦ (p.meaning call l).map .uncommitted
  | _, scope p message => fun l ↦ (p.meaning call l).map (.saidAround ⟨l, message⟩)
  | _, label p message => fun l ↦ (p.meaning call l).map (.reworded message)
  | _, optional p => (p.meaning call).optional
  | _, retype p f => fun l ↦ (p.meaning call l).map (.map f)
  | _, inMode p _ => p.meaning call

section Derived

variable (call : ∀ r, Meaning (ρ r))

/-- A fixed value stands for whatever the plan would give. -/
theorem meaning_giving (p : Plan ρ α) (b : β) (l : Location) :
    (p.giving b).meaning call l = (p.meaning call l).map (.map fun _ ↦ b) := by
  change Option.map _ ((p.meaning call).slice l) = _
  rw [Meaning.slice]
  rcases p.meaning call l with - | ⟨a, n⟩ | ⟨frames, committed⟩
  · rfl
  · rfl
  · rfl

/-- No list at all is an empty list. -/
theorem meaning_sepBy (p : Plan ρ α) (separator : Plan ρ β) (l : Location) :
    (p.sepBy separator).meaning call l =
      (do match ← (p.sepBy1 separator).meaning call l with
        | .failure _ false => some (.value [] 0)
        | r => some r) := by
  change Option.map _ (((p.sepBy1 separator).meaning call).optional l) = _
  rw [Meaning.optional]
  rcases (p.sepBy1 separator).meaning call l with - | ⟨as, n⟩ | ⟨frames, - | -⟩
  · rfl
  · rfl
  · rfl
  · rfl

end Derived

end Plan

/-! ### Rules -/

namespace Grammar

/-- What the rules mean, if they call each other at most `depth` levels deep. -/
def ruleMeaning (g : Grammar ρ) : Nat → (r : ι) → Meaning (ρ r)
  | 0, _ => fun _ ↦ none
  | depth + 1, r => (g.body r).meaning (g.ruleMeaning depth)

/-- The plan means `m` at the location, if calls may go deep enough. -/
def Means (g : Grammar ρ) (p : Plan ρ α) (l : Location) (m : Sense α) : Prop :=
  ∃ depth, p.meaning (g.ruleMeaning depth) l = some m

end Grammar

end Descent
