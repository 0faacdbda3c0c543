import Descent.Regex.Program

/-!
# Searching

A match is looked for by running threads side by side. A thread is the number of the instruction
that it has come to, and a list of threads is in order of preference. At each place of the text the
threads are followed as far as they get without consuming (`explore`); a thread that comes to
`accept` is a match that ends here, and drops all threads behind it. The others step over the next
character or die. The last match found so is the preferred one.

An instruction is reached only once at a place, by the thread that comes first; what a second one
could reach from there, the first one reaches with more preference. So loops end, and there are
never more threads than instructions. To tell what has been reached without starting afresh at every
place, the number of the place is noted for each instruction.

The text given is all that there is to see: its start is the start of the text for anchors.
-/

namespace Descent.Regex

/-! ### One place of the text -/

/-- What is known of the threads at a place while they are followed. -/
structure Frontier where
  /-- The place at which each instruction was reached last. -/
  reached : Array Nat
  /-- The threads that wait for a character, the last one first. -/
  waiting : List Nat
  /-- Whether a thread has come to the end of the program. -/
  accepted : Bool

/-- Follows threads in order, those that a thread becomes before the ones behind it, until one
accepts. Places are numbered from one on. -/
def explore (code : Code) (place : Nat) (around : Surroundings) :
    Nat → List Nat → Frontier → Frontier
  | 0, _, frontier | _, [], frontier => frontier
  | fuel + 1, t :: ts, frontier =>
    if frontier.reached.getD t 0 = place then explore code place around fuel ts frontier
    else
      let reached := frontier.reached.setIfInBounds t place
      match code.getD t .accept with
      | .accept => { frontier with reached, accepted := true }
      | .char _ _ | .one _ _ =>
        explore code place around fuel ts
          { frontier with reached, waiting := t :: frontier.waiting }
      | .look a next =>
        explore code place around fuel (if a.holds around then next :: ts else ts)
          { frontier with reached }
      | .fork first second =>
        explore code place around fuel (first :: second :: ts) { frontier with reached }

/-- Follows threads at a place where none has been met yet. Each instruction is reached once and
leads to at most two others, which is what bounds the steps. -/
def frontier (code : Code) (place : Nat) (around : Surroundings) (threads : List Nat)
    (reached : Array Nat) : Frontier :=
  explore code place around (3 * code.size + 1) threads
    { reached, waiting := [], accepted := false }

/-- Where a thread goes on behind a character, if it consumes the character. -/
def Instruction.step? (i : Instruction) (c : Char) : Option Nat :=
  match i with
  | .char d next => if c = d then some next else none
  | .one set next => if set.contains c then some next else none
  | _ => none

/-- The threads that go on behind a character, in order. `waiting` has the last one first. -/
def threadsBehind (code : Code) (c : Char) (waiting : List Nat) : List Nat :=
  waiting.foldl (fun threads t ↦
    match (code.getD t .accept).step? c with
    | some next => next :: threads
    | none => threads) []

/-! ### A whole text -/

/-- Runs threads over a text. `count` characters have been consumed, and `best?` is the length of
the last match found; the answer is the length of the preferred match. -/
def runThreads (code : Code) :
    List Char → Option Char → List Nat → Nat → Option Nat → Array Nat → Option Nat
  | [], before?, threads, count, best?, reached =>
    let here := frontier code (count + 1) { before?, behind? := none } threads reached
    if here.accepted then some count else best?
  | c :: cs, before?, threads, count, best?, reached =>
    let here := frontier code (count + 1) { before?, behind? := some c } threads reached
    let best? := if here.accepted then some count else best?
    match threadsBehind code c here.waiting with
    | [] => best?
    | threads => runThreads code cs (some c) threads (count + 1) best? here.reached

namespace Program

/-- The number of characters of the preferred match that begins here, behind the character
`before?`. -/
def matchLength? (p : Program) (before? : Option Char) (text : List Char) : Option Nat :=
  runThreads p.code text before? [p.start] 0 none (.replicate p.code.size 0)

/-- A match in a text. -/
structure Found where
  /-- The characters before the match. -/
  skipped : List Char
  /-- The characters matched. -/
  text : List Char

/-- The first match in a text, the preferred one at its place. `skipped` are the characters before
the text, the last one first. -/
def findFrom (p : Program) (skipped : List Char) (text : List Char) : Option Found :=
  match p.matchLength? skipped.head? text, text with
  | some n, text => some { skipped := skipped.reverse, text := text.take n }
  | none, [] => none
  | none, c :: cs => p.findFrom (c :: skipped) cs

/-- The first match in a text. Nothing is looked for behind the start if the expression can match
nowhere else. -/
def find (p : Program) (text : List Char) : Option Found :=
  if p.startBound then
    (p.matchLength? none text).map fun n ↦ { skipped := [], text := text.take n }
  else p.findFrom [] text

theorem exists_of_findFrom {p : Program} {skipped text : List Char} {found : Found}
    (h : p.findFrom skipped text = some found) :
    ∃ behind, skipped.reverse ++ text = found.skipped ++ found.text ++ behind := by
  induction text generalizing skipped with
  | nil =>
    unfold findFrom at h
    rcases hlen : p.matchLength? skipped.head? [] with - | n
    · simp [hlen] at h
    · simp only [hlen, Option.some.injEq] at h
      subst h
      exact ⟨[], by simp⟩
  | cons c cs ih =>
    unfold findFrom at h
    rcases hlen : p.matchLength? skipped.head? (c :: cs) with - | n
    · simp only [hlen] at h
      obtain ⟨behind, hbehind⟩ := ih h
      exact ⟨behind, by simpa using hbehind⟩
    · simp only [hlen, Option.some.injEq] at h
      subst h
      exact ⟨_, by rw [List.append_assoc, List.take_append_drop]⟩

/-- A match stands in the text that was searched, behind what was skipped. -/
theorem exists_of_find {p : Program} {text : List Char} {found : Found}
    (h : p.find text = some found) : ∃ behind, text = found.skipped ++ found.text ++ behind := by
  unfold find at h
  split at h
  · obtain ⟨n, -, rfl⟩ := Option.map_eq_some_iff.1 h
    exact ⟨text.drop n, by simp⟩
  · simpa using exists_of_findFrom h

end Program

end Descent.Regex
