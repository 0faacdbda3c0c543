import Descent.Proofs.HandedBack

/-!
# Where a word and a text part

A word is found where the text starts with it. Where it is not, the failure says how far the two go
together: it lies behind the longest front that they share, `Text.IsLongestFront`. That is a list of
characters and not of bytes, so two characters that begin with the same bytes are not shared in
part, and a text that is shorter than the word parts from it at the end of the input.

`Text.sharedFront` computes that front (`Text.isLongestFront_iff`), and `literal_eq` says what a
word does with it. What is left is put together in `literal_finds_word_or_parting`.
-/

namespace Descent

namespace Text

/-- No list of characters with which both lists start is longer than `front`, which is one. -/
structure IsLongestFront (front ws cs : List Char) : Prop where
  /-- The first list starts with it. -/
  left : front <+: ws
  /-- The second list starts with it. -/
  right : front <+: cs
  /-- Whatever both lists start with is not longer. -/
  longest : ∀ other, other <+: ws → other <+: cs → other.length ≤ front.length

variable {front ws cs : List Char}

theorem sharedFront_prefix_left (ws cs : List Char) : sharedFront ws cs <+: ws := by
  induction ws generalizing cs with
  | nil => exact List.nil_prefix
  | cons w ws ih =>
    cases cs with
    | nil => exact List.nil_prefix
    | cons c cs =>
      rw [sharedFront]
      split
      · exact (List.prefix_cons_inj w).2 (ih cs)
      · exact List.nil_prefix

/-- What both lists start with, the shared front starts with. -/
theorem prefix_sharedFront (hws : front <+: ws) (hcs : front <+: cs) :
    front <+: sharedFront ws cs := by
  induction front generalizing ws cs with
  | nil => exact List.nil_prefix
  | cons c front ih =>
    obtain ⟨ws', rfl, hws'⟩ := List.cons_prefix_iff.1 hws
    obtain ⟨cs', rfl, hcs'⟩ := List.cons_prefix_iff.1 hcs
    rw [sharedFront, if_pos rfl]
    exact (List.prefix_cons_inj c).2 (ih hws' hcs')

/-- There is one longest front, and it is the one that is computed. -/
theorem isLongestFront_iff : IsLongestFront front ws cs ↔ front = sharedFront ws cs := by
  constructor
  · intro h
    have hpart : front <+: sharedFront ws cs := prefix_sharedFront h.left h.right
    have hlength : (sharedFront ws cs).length ≤ front.length :=
      h.longest _ (sharedFront_prefix_left ws cs) (sharedFront_prefix_right ws cs)
    exact hpart.eq_of_length_le hlength
  · rintro rfl
    exact ⟨sharedFront_prefix_left ws cs, sharedFront_prefix_right ws cs,
      fun other hws hcs ↦ (prefix_sharedFront hws hcs).length_le⟩

theorem sharedFront_eq_left_iff : sharedFront ws cs = ws ↔ ws <+: cs := by
  constructor
  · intro h
    rw [← h]
    exact sharedFront_prefix_right ws cs
  · intro h
    have hall : ws <+: sharedFront ws cs := prefix_sharedFront List.prefix_rfl h
    exact (sharedFront_prefix_left ws cs).eq_of_length_le hall.length_le

/-- If the first list starts with the second one, then that is all they share. -/
theorem sharedFront_eq_right (h : cs <+: ws) : sharedFront ws cs = cs := by
  have hall : cs <+: sharedFront ws cs := prefix_sharedFront h List.prefix_rfl
  exact (sharedFront_prefix_right ws cs).eq_of_length_le hall.length_le

end Text

namespace Parser

variable {s : State} {text : List Char}

/-- A word succeeds where the text starts with it. -/
theorem literal_eq_success {word : String} (hs : s.location.Valid)
    (h : word.toList <+: s.location.behind) :
    literal word s =
      .ok (.success (if s.sliced then .text id else .value word) word.utf8ByteSize) := by
  rw [literal_eq hs]
  exact if_pos (Text.sharedFront_eq_left_iff.2 h)

/-- A word fails where the text does not start with it, behind what both share. -/
theorem literal_eq_failure {word : String} (hs : s.location.Valid)
    (h : ¬ word.toList <+: s.location.behind) :
    literal word s =
      .ok (.failure
        ((s.location.jump (Text.byteLength
          (Text.sharedFront word.toList s.location.behind))).error s!"'{word}'")
        (!(Text.sharedFront word.toList s.location.behind).isEmpty)) := by
  rw [literal_eq hs]
  exact if_neg fun hword ↦ h (Text.sharedFront_eq_left_iff.1 hword)

/-- A word that starts with the whole input is not found there. The two part at the end. -/
theorem run_literal_append {text more : String} (htext : text.utf8ByteSize < textLimit)
    (hmore : more ≠ "") :
    (literal (text ++ more)).run text =
      .ok (.error (((Location.start text).jump text.utf8ByteSize).error s!"'{text ++ more}'")) := by
  have hword : (text ++ more).toList = text.toList ++ more.toList := String.toList_append
  have hshared : Text.sharedFront (text ++ more).toList text.toList = text.toList :=
    Text.sharedFront_eq_right (hword ▸ List.prefix_append _ _)
  have hmissing : ¬ (text ++ more).toList <+: text.toList := by
    intro hfront
    have hlength := hfront.length_le
    rw [hword, List.length_append] at hlength
    have hempty : more.toList = [] := List.eq_nil_of_length_eq_zero (by omega)
    exact hmore (String.toList_injective hempty)
  rw [run, literal_eq_failure (s := .start text) (Location.valid_start htext) hmissing]
  simp only [State.start, Location.behind, Location.rest?_start, Option.getD_some, hshared,
    Text.byteLength_toList]
  rfl

/-- A word that has been found is the text consumed, so its value is the word in either mode. -/
theorem readAt_literal_eq {word : String} (hs : s.location.Valid)
    (h : word.toList <+: s.location.behind) :
    (literal word).readAt s = .ok (.value word word.utf8ByteSize) := by
  obtain ⟨rest, hrest⟩ := h
  have hvalid : (s.location.jump word.utf8ByteSize).Valid := by
    rw [← Text.byteLength_toList]
    exact hs.jump hrest.symm
  have htext : s.location.text word.utf8ByteSize = word := by
    rw [← Text.byteLength_toList, hs.text_eq hrest.symm, String.ofList_toList]
  refine readAt_eq_value_iff.2 ⟨_, literal_eq_success hs ⟨rest, hrest⟩, ?_⟩
  refine Yield.read_eq hs hvalid ?_
  cases s.sliced with
  | false => rfl
  | true => exact congrArg some htext

/-- **A word is found exactly where the text starts with it, and otherwise the place is found where
the two part.** At a valid place a word has no fault. If the text behind the place starts with the
word, then it succeeds over the word's length, and its value is the word, in either mode. If not, it
fails with a single frame that shows the word in quotes. The frame lies behind the longest front
that the word and the text share, which is a place between two characters, and the end of the input
if the text is no longer than that front. The failure is committed if and only if that front is not
empty. -/
theorem literal_finds_word_or_parting (word : String) (hs : s.location.Valid)
    (htext : s.rest = .ok text) :
    (∀ y n, literal word s = .ok (.success y n) ↔
      word.toList <+: text ∧ y = (if s.sliced then .text id else .value word) ∧
        n = word.utf8ByteSize) ∧
    (word.toList <+: text → (literal word).readAt s = .ok (.value word word.utf8ByteSize)) ∧
    (∀ e committed, literal word s = .ok (.failure e committed) ↔
      ¬ word.toList <+: text ∧ ∃ front, Text.IsLongestFront front word.toList text ∧
        e = .single (s.location.jump (Text.byteLength front)) s!"'{word}'" ∧
        (committed = true ↔ front ≠ [])) ∧
    (∀ front, Text.IsLongestFront front word.toList text →
      (s.location.jump (Text.byteLength front)).Valid ∧
      (text <+: word.toList →
        s.offset + Text.byteLength front = s.location.input.utf8ByteSize)) ∧
    ∃ o, literal word s = .ok o := by
  obtain rfl : s.location.behind = text := Except.ok.inj ((State.rest_eq hs).symm.trans htext)
  refine ⟨fun y n ↦ ?_, readAt_literal_eq hs, fun e committed ↦ ?_, fun front hfront ↦ ?_, ?_⟩
  · constructor
    · intro hrun
      by_cases h : word.toList <+: s.location.behind
      · cases (literal_eq_success hs h).symm.trans hrun
        exact ⟨h, rfl, rfl⟩
      · cases (literal_eq_failure hs h).symm.trans hrun
    · rintro ⟨h, rfl, rfl⟩
      exact literal_eq_success hs h
  · constructor
    · intro hrun
      by_cases h : word.toList <+: s.location.behind
      · cases (literal_eq_success hs h).symm.trans hrun
      · cases (literal_eq_failure hs h).symm.trans hrun
        exact ⟨h, _, Text.isLongestFront_iff.2 rfl, rfl, by simp⟩
    · rintro ⟨h, front, hfront, rfl, hcommitted⟩
      obtain rfl := Text.isLongestFront_iff.1 hfront
      have hflag : (!(Text.sharedFront word.toList s.location.behind).isEmpty) = committed := by
        rw [Bool.eq_iff_iff, hcommitted]
        simp
      rw [literal_eq_failure hs h, hflag]
      rfl
  · obtain rfl := Text.isLongestFront_iff.1 hfront
    refine ⟨hs.jump_sharedFront _, fun hshort ↦ ?_⟩
    rw [Text.sharedFront_eq_right hshort]
    exact hs.offset_add_byteLength
  · by_cases h : word.toList <+: s.location.behind
    · exact ⟨_, literal_eq_success hs h⟩
    · exact ⟨_, literal_eq_failure hs h⟩

/-- The last characters of `aé` and `aè` begin with the same byte. The word and the text part in
front of them. -/
theorem literal_parts_before_accent :
    literal "aé" ((State.start "xaè").jump 1) =
      .ok (.failure (.single ((Location.start "xaè").jump 2) "'aé'") true) := by
  have hs : ((State.start "xaè").jump 1).location.Valid := ⟨by decide, rfl⟩
  have hfront : Text.IsLongestFront ['a'] "aé".toList ['a', 'è'] :=
    Text.isLongestFront_iff.2 rfl
  have htext : ((State.start "xaè").jump 1).rest = .ok ['a', 'è'] := rfl
  have hparts := literal_finds_word_or_parting "aé" hs htext
  exact (hparts.2.2.1 _ true).2 ⟨by decide, ['a'], hfront, rfl, by decide⟩

end Parser

end Descent
