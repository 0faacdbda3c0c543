import Descent.Proofs.Finishes
import Descent.Proofs.Safe

/-!
# The value behind a `flatMap`

The value of a `flatMap` should be the one that its continuation gives. If the continuation has a
value to give, then it is. But a continuation may give text in its place, which somebody reads
later; and `flatMap` hands that on as it is, with a length that counts what the first parser has
consumed. Whoever reads it then begins where `flatMap` did, and reads both texts.

So failures and lengths are always right, and a value is right if and only if what would be made of
both texts is what was to be made of the second one (`flatMap_hands_back_iff`). For a plain slice
this is the case only if the first parser has consumed nothing: otherwise the text of the first
comes with it (`readAt_flatMap_slice`).
-/

namespace Descent

variable {α β : Type}

/-- Between valid places, a text is made of the texts on the way. -/
theorem Location.Valid.text_add {l : Location} (h : l.Valid) {m n : Nat} (hm : (l.jump m).Valid)
    (hn : (l.jump (m + n)).Valid) : l.text (m + n) = l.text m ++ (l.jump m).text n := by
  obtain ⟨first, hfirst, rfl, htext⟩ := h.exists_text hm
  obtain ⟨second, hsecond, rfl, htext'⟩ := hm.exists_text (n := n) (by rwa [jump_jump])
  have hboth : l.behind = (first ++ second) ++
      ((l.jump (Text.byteLength first)).jump (Text.byteLength second)).behind := by
    rw [hfirst, hsecond, List.append_assoc]
  rw [← Text.byteLength_append, h.text_eq hboth, htext, htext', String.ofList_append]

theorem Yield.read_text_eq_ok_iff {make : String → α} {s : State} {n : Nat} {a : α} :
    (Yield.text make).read s n = .ok a ↔ ∃ t, s.span n = .ok t ∧ make t = a := by
  rw [read]
  rcases s.span n with fault | t
  · constructor
    · intro h
      cases h
    · rintro ⟨t, ht, -⟩
      cases ht
  · simp

/-- A function of the value. -/
def Reading.map (f : α → β) : Reading α → Reading β
  | value a n => .value (f a) n
  | failure e committed => .failure e committed

namespace Parser

/-- What the parser comes to for somebody who asks for its value. -/
def readAt (p : Parser α) (s : State) : Except Fault (Reading α) := do
  (← p s).read s

theorem readAt_eq_value_iff {p : Parser α} {s : State} {a : α} {n : Nat} :
    p.readAt s = .ok (.value a n) ↔ ∃ y, p s = .ok (.success y n) ∧ y.read s n = .ok a := by
  rw [readAt]
  rcases p s with fault | o
  · exact ⟨nofun, nofun⟩
  · rw [ok_bind, Outcome.read_eq_value_iff]
    simp only [Except.ok.injEq]

section FlatMap

variable {p : Parser α} {f : α → Parser β} {s next : State} {a : α} {n m : Nat}

/-- What follows the first parser's value is the continuation's answer, over the length of both. -/
theorem flatMap_of_readAt (hoff : s.sliced = false) (hread : p.readAt s = .ok (.value a n))
    (hmove : s.advance n = .ok next) :
    p.flatMap f s = (do ((← f a next).withCommit (n != 0)).advance n) := by
  obtain ⟨y, hok, ha⟩ := readAt_eq_value_iff.1 hread
  have hsame : s.withSlicing false = s := hoff ▸ s.withSlicing_sliced
  exact flatMap_of_read f (hsame ▸ hok) (hsame ▸ ha) hmove

theorem flatMap_of_readAt_success (hoff : s.sliced = false)
    (hread : p.readAt s = .ok (.value a n)) (hmove : s.advance n = .ok next) {z : Yield β}
    (hz : f a next = .ok (.success z m)) (hsum : n + m < wordLimit) :
    p.flatMap f s = .ok (.success z (n + m)) := by
  rw [flatMap_of_readAt hoff hread hmove, hz, ok_bind, Outcome.withCommit, Outcome.advance,
    addCounts_of_lt (Nat.add_comm n m ▸ hsum), Nat.add_comm]
  rfl

end FlatMap

/-- **When a `flatMap` hands back the value of its continuation.** With slicing off, a failure of
the first parser is the failure of the whole. If the first parser has a value, then a failure of the
continuation is that of the whole, committed if something was consumed before; and a success of the
continuation makes a success over the length of both. The value of that, read where the whole
started, is the continuation's own if and only if the latter was not given as text, or the text
that both parsers have matched makes the same value as the text of the continuation alone. -/
theorem flatMap_hands_back_iff (p : Parser α) (f : α → Parser β) {s : State}
    (hoff : s.sliced = false) :
    (∀ e committed, p s = .ok (.failure e committed) →
      p.flatMap f s = .ok (.failure e committed)) ∧
    ∀ a n next, p.readAt s = .ok (.value a n) → s.advance n = .ok next →
      (∀ e committed, f a next = .ok (.failure e committed) →
        p.flatMap f s = .ok (.failure e (committed || n != 0))) ∧
      ∀ z m b, f a next = .ok (.success z m) → z.read next m = .ok b → n + m < wordLimit →
        p.flatMap f s = .ok (.success z (n + m)) ∧
        ((p.flatMap f).readAt s = .ok (.value b (n + m)) ↔
          ∀ make, z = .text make → ∃ whole, s.span (n + m) = .ok whole ∧ make whole = b) := by
  refine ⟨fun e committed hfail ↦ ?_, fun a n next hread hmove ↦
    ⟨fun e committed hfail ↦ ?_, fun z m b hz hb hsum ↦ ?_⟩⟩
  · have hsame : s.withSlicing false = s := hoff ▸ s.withSlicing_sliced
    exact flatMap_of_failure f (hsame.symm ▸ hfail)
  · rw [flatMap_of_readAt hoff hread hmove, hfail]
    rfl
  · have hrun := flatMap_of_readAt_success hoff hread hmove hz hsum
    refine ⟨hrun, ?_⟩
    have hreads : (p.flatMap f).readAt s = .ok (.value b (n + m)) ↔
        z.read s (n + m) = .ok b := by
      simp [readAt_eq_value_iff, hrun]
    rw [hreads]
    cases z with
    | value c => exact ⟨fun _ ↦ nofun, fun _ ↦ hb⟩
    | text make =>
      rw [Yield.read_text_eq_ok_iff]
      exact ⟨fun h _ heq ↦ Yield.text.inj heq ▸ h, fun h ↦ h make rfl⟩
    | bare => cases hb

/-- The text of some letters picks how many of another letter follow. It is given as a slice and the
others as a list, so the value of the whole is that list. -/
theorem listOfN_behind_slice_read :
    ((literal "a").many.slice.flatMap fun t ↦ (literal "b").listOfN t.utf8ByteSize).readAt
      (.start "aabbb") = .ok (.value ["b", "b"] 4) := by
  have hreads := (flatMap_hands_back_iff (literal "a").many.slice
    (fun t ↦ (literal "b").listOfN t.utf8ByteSize) (s := .start "aabbb") rfl).2
      "aa" 2 ((State.start "aabbb").jump 2) rfl rfl
  exact (hreads.2 (.value ["b", "b"]) 2 ["b", "b"] rfl rfl (by decide)).2.2 nofun

/-- A sliced letter is that letter by itself, and two letters behind another one. -/
theorem slice_behind_letter_misread :
    (literal "a").readAt (.start "ab") = .ok (.value "a" 1) ∧
    (State.start "ab").advance 1 = .ok ((State.start "ab").jump 1) ∧
    (literal "b").slice.readAt ((State.start "ab").jump 1) = .ok (.value "b" 1) ∧
    ((literal "a").flatMap fun _ ↦ (literal "b").slice).readAt (.start "ab") ≠
      .ok (.value "b" 2) := by
  have hboth : ((literal "a").flatMap fun _ ↦ (literal "b").slice).readAt (.start "ab") =
      .ok (.value "ab" 2) := rfl
  refine ⟨rfl, rfl, rfl, fun h ↦ ?_⟩
  have hsame : "ab" = "b" := (Reading.value.inj (Except.ok.inj (hboth.symm.trans h))).1
  exact absurd hsame (by decide)

/-- **A slice behind a `flatMap` comes with the text in front of it.** The continuation by itself
gives the text that it matches, and the whole gives the text of both parsers. -/
theorem readAt_flatMap_slice {p : Parser α} (q : α → Parser β) {s : State} {a : α} {n m : Nat}
    {y : Yield β} (hs : s.location.Valid) (hoff : s.sliced = false)
    (hread : p.readAt s = .ok (.value a n)) (hn : (s.location.jump n).Valid)
    (hq : q a ((s.jump n).withSlicing true) = .ok (.success y m))
    (hm : (s.location.jump (n + m)).Valid) :
    (q a).slice.readAt (s.jump n) = .ok (.value ((s.location.jump n).text m) m) ∧
    (p.flatMap fun a ↦ (q a).slice).readAt s =
      .ok (.value (s.location.text n ++ (s.location.jump n).text m) (n + m)) := by
  have hslice : (q a).slice (s.jump n) = .ok (.success (.text id) m) := by
    rw [slice, hq]
    rfl
  have hsum : n + m < wordLimit := (addCounts_eq_ok_iff.1 (Outcome.addCounts_eq hm)).1
  have hown : ((s.jump n).location.jump m).Valid := by simpa using hm
  refine ⟨readAt_eq_value_iff.2 ⟨_, hslice, Yield.read_eq hn hown rfl⟩, ?_⟩
  have hrun : (p.flatMap fun a ↦ (q a).slice) s = .ok (.success (.text id) (n + m)) :=
    flatMap_of_readAt_success hoff hread (State.advance_eq hn) hslice hsum
  refine readAt_eq_value_iff.2 ⟨_, hrun, Yield.read_eq hs hm ?_⟩
  rw [Yield.get?_text, hs.text_add hn hm]
  rfl

end Parser

end Descent
