import Descent.Parser.Basic
import Descent.Proofs.Place

/-!
# What the primitives answer

At a valid place no primitive has a fault, and its answer is a function of the text behind the place
and of the mode. Each gets one equation that says which, and nothing else looks into a primitive.

A word is compared with a text character by character. What matters of the comparison is the longest
front that both share, `Text.sharedFront`: the word matches if this is the whole word, and otherwise
the two differ right behind it.
-/

namespace Descent

namespace Text

/-- The longest list of characters that both lists start with. -/
def sharedFront : List Char → List Char → List Char
  | w :: ws, c :: cs => if w = c then w :: sharedFront ws cs else []
  | _, _ => []

theorem sharedFront_prefix_right (ws cs : List Char) : sharedFront ws cs <+: cs := by
  induction ws generalizing cs with
  | nil => exact List.nil_prefix
  | cons w ws ih =>
    cases cs with
    | nil => exact List.nil_prefix
    | cons c cs =>
      rw [sharedFront]
      split
      · rename_i h
        rw [h]
        exact (List.prefix_cons_inj c).2 (ih cs)
      · exact List.nil_prefix

end Text

/-- The end of the front that a word shares with the text behind a place is a place again. -/
theorem Location.Valid.jump_sharedFront {l : Location} (h : l.Valid) (ws : List Char) :
    (l.jump (Text.byteLength (Text.sharedFront ws l.behind))).Valid := by
  obtain ⟨rest, hrest⟩ := Text.sharedFront_prefix_right ws l.behind
  exact h.jump hrest.symm

/-- The pattern is found only where it is looked for, never further on. -/
def Pattern.Anchored (p : Pattern) : Prop :=
  ∀ cs found, Text.byteLength cs < textLimit → p.find cs = some found → found.skipped = []

namespace Parser

/-- A word mismatches a text unless it is the front that both share, and then behind that front. -/
theorem firstMismatch_eq (ws cs : List Char) :
    firstMismatch ws cs =
      if Text.sharedFront ws cs = ws then none
      else some (Text.byteLength (Text.sharedFront ws cs)) := by
  fun_induction firstMismatch ws cs with
  | case1 cs => simp [Text.sharedFront]
  | case2 w ws => simp [Text.sharedFront]
  | case3 ws c cs ih =>
    rw [ih, Text.sharedFront, if_pos rfl]
    by_cases h : Text.sharedFront ws cs = ws <;> simp [h]
  | case4 w ws c cs h => simp [Text.sharedFront, h]

variable {s : State}

/-- A word that is not found commits unless its first character is not found. -/
theorem literal_eq (hs : s.location.Valid) (word : String) :
    literal word s =
      let front := Text.sharedFront word.toList s.location.behind
      if front = word.toList then
        .ok (.success (if s.sliced then .text id else .value word) word.utf8ByteSize)
      else
        .ok (.failure ((s.location.jump (Text.byteLength front)).error s!"'{word}'")
          (!front.isEmpty)) := by
  have hvalid := hs.jump_sharedFront word.toList
  have hcommit : (Text.byteLength (Text.sharedFront word.toList s.location.behind) != 0) =
      !(Text.sharedFront word.toList s.location.behind).isEmpty := by
    rw [Bool.eq_iff_iff]
    simp [Text.byteLength_eq_zero_iff]
  simp only [literal, State.rest_eq hs, ok_bind, firstMismatch_eq]
  by_cases hword : Text.sharedFront word.toList s.location.behind = word.toList
  · obtain ⟨rest, hrest⟩ := hword ▸ Text.sharedFront_prefix_right word.toList s.location.behind
    have htext := hs.text_eq hrest.symm
    rw [hword, Text.byteLength_toList] at hvalid
    rw [Text.byteLength_toList, String.ofList_toList] at htext
    simp only [hword, if_true, State.span_eq hs hvalid, htext, ok_bind, pure_eq_ok]
    cases s.sliced <;> rfl
  · simp only [hword, if_false, Location.advance_eq hvalid, ok_bind, hcommit, pure_eq_ok]

theorem pattern_eq (hs : s.location.Valid) (p : Pattern) :
    pattern p s =
      match p.find s.location.behind with
      | some found =>
        .ok (.success (if s.sliced then .text id else .value (String.ofList found.text))
          (Text.byteLength (found.skipped ++ found.text)))
      | none => .ok (.failure (s.location.error s!"regex {p.source}") false) := by
  simp only [pattern, State.rest_eq hs, ok_bind, Text.byteLength_append]
  rcases p.find s.location.behind with - | found
  · rfl
  · cases s.sliced <;> rfl

theorem eof_eq (hs : s.location.Valid) :
    eof s =
      match s.location.behind with
      | [] => .ok (.value () 0)
      | _ :: _ => .ok (.failure (s.location.error "end of input") false) := by
  rw [eof, State.rest_eq hs, ok_bind]
  rfl

theorem anyChar_eq (hs : s.location.Valid) :
    anyChar s =
      match s.location.behind with
      | c :: _ => .ok (.value (String.singleton c) c.utf8Size)
      | [] => .ok (.failure (s.location.error "any char") false) := by
  rw [anyChar, State.rest_eq hs, ok_bind]
  rfl

end Parser

end Descent
