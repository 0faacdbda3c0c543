import Descent.Proofs.Anchoring
import Descent.Proofs.Pieces
import Descent.Proofs.StartBound

/-!
# Where the match of a pattern begins

A pattern is to be matched where it is looked for, and not to be found further on. What its parser
hands back hangs on this. What is consumed ends where the match ends, so it is the match itself only
if nothing was skipped in front of that; and slicing mode hands back what was consumed, while the
other mode hands back the match. So the modes agree on a match if and only if it begins here
(`pattern_hands_back`).

Of whatever looks for the pattern, this asks no more than what it is to find (`Pattern.Compiles`):
the leftmost match of the expression that the wrapped text is read as, and at its place the
preferred one. How it is found, and what limits there are for expressions, does not matter.

A pattern that can be read by itself is never found further on. Its wrapped text then reads as the
start of the text and the pattern behind it (`Regex.read?_wrapped_iff`), and such an expression has
no match anywhere else (`Regex.Program.findFrom_of_startBound`). But a pattern is wrapped before
anybody has read it. One that closes the bracket itself may have an alternative outside, and that
one is found wherever it stands (`pattern_skips_ahead`).
-/

namespace Descent

namespace Pattern

/-- The pattern is looked for as the expression that its wrapped text is read as. -/
structure Compiles (p : Pattern) (r : Regex.Nested) : Prop where
  /-- The wrapped text is read as the expression. -/
  read : Regex.read? (wrapped p.source) = some r
  /-- What is found is the leftmost match, and there the preferred one. -/
  leftmost : ∀ text, p.find text = r.regex.program.findFrom [] text

/-- Accepted patterns are looked for as what they are read as, whatever the limits are. A search
that stops early does so only where there is nothing to be found any more. -/
theorem exists_compiles {limits : Regex.Nested → Prop} [DecidablePred limits] {source : String}
    {p : Pattern} (hp : ofSourceWithin? limits source = some p) :
    p.source = source ∧ ∃ r, p.Compiles r := by
  obtain ⟨regex, hregex, rfl⟩ := Option.map_eq_some_iff.1 hp
  obtain ⟨r, hr, -, rfl⟩ := Regex.ofPatternWithin?_eq_some_iff.1 hregex
  exact ⟨rfl, r, hr, Regex.Program.find_eq_findFrom r.regex⟩

/-- Patterns that can be read by themselves are found only where they are looked for. -/
theorem Compiles.anchored {p : Pattern} {r : Regex.Nested} (hp : p.Compiles r)
    (h : (Regex.read? p.source).isSome) : p.Anchored := by
  intro cs found _ hfound
  have hbound := Regex.startBound_of_read? hp.read h
  rw [hp.leftmost, ← Regex.Program.find_eq_findFrom, Regex.Program.find,
    if_pos (show r.regex.program.startBound = true from hbound)] at hfound
  obtain ⟨n, -, rfl⟩ := Option.map_eq_some_iff.1 hfound
  rfl

end Pattern

/-- The bytes from where a search began to the end of the match. -/
def Regex.Program.Found.reach (found : Regex.Program.Found) : Nat :=
  Text.byteLength (found.skipped ++ found.text)

namespace Parser

/-- **What a pattern hands back.** Every accepted pattern is looked for as what its wrapped text is
read as, whatever the limits are. Let any pattern be looked for like that. At a valid place the
answer depends on the leftmost match in the text behind the place. If there is none, then the parser
fails in both modes, without committing. If there is one, then what is consumed ends where the match
ends. With slicing on, the text consumed is handed back; with slicing off, the match is. These are
the same text if and only if the match begins at the place, and it does if the pattern can be read
by itself. -/
theorem pattern_hands_back (p : Pattern) {l : Location} (hl : l.Valid) :
    (∀ (limits : Regex.Nested → Prop) [DecidablePred limits] (source : String),
      Pattern.ofSourceWithin? limits source = some p → p.source = source ∧ ∃ r, p.Compiles r) ∧
    ∀ r, p.Compiles r →
      match r.regex.program.findFrom [] l.behind with
      | none =>
        ∀ sliced, pattern p ⟨l, sliced⟩ = .ok (.failure (l.error s!"regex {p.source}") false)
      | some found =>
        (l.jump found.reach).Valid ∧
        pattern p ⟨l, true⟩ = .ok (.slice found.reach) ∧
        (pattern p).readAt ⟨l, true⟩ = .ok (.value (l.text found.reach) found.reach) ∧
        pattern p ⟨l, false⟩ = .ok (.value (String.ofList found.text) found.reach) ∧
        (String.ofList found.text = l.text found.reach ↔ found.skipped = []) ∧
        ((Regex.read? p.source).isSome → found.skipped = []) := by
  refine ⟨fun limits _ source hp ↦ Pattern.exists_compiles hp, fun r hp ↦ ?_⟩
  have hrun := fun sliced ↦ pattern_eq (s := ⟨l, sliced⟩) hl p
  rw [← hp.leftmost]
  rcases hfind : p.find l.behind with - | found
  · intro sliced
    rw [hrun, hfind]
  · obtain ⟨behind, hbehind⟩ := p.exists_of_find hfind
    have hend : (l.jump found.reach).Valid := hl.jump hbehind
    have htext : l.text found.reach = String.ofList (found.skipped ++ found.text) :=
      hl.text_eq hbehind
    have hon : pattern p ⟨l, true⟩ = .ok (.slice found.reach) := by
      rw [hrun, hfind]
      rfl
    have hoff : pattern p ⟨l, false⟩ = .ok (.value (String.ofList found.text) found.reach) := by
      rw [hrun, hfind]
      rfl
    refine ⟨hend, hon, readAt_of_success hon (Yield.read_eq hl hend rfl), hoff, ?_, fun h ↦ ?_⟩
    · rw [htext, String.ofList_inj, List.self_eq_append_left]
    · exact hp.anchored h _ _ hl.byteLength_lt hfind

/-- One of two letters is read by itself, and gives the same letter in both modes. -/
theorem either_letter_hands_back :
    ∃ p r, Pattern.ofSource? "x|b" = some p ∧ p.Compiles r ∧ (Regex.read? "x|b").isSome ∧
      (State.start "ba").location.Valid ∧
      pattern p ⟨.start "ba", false⟩ = .ok (.value "b" 1) ∧
      (pattern p).readAt ⟨.start "ba", true⟩ = .ok (.value "b" 1) := by
  have hs : (State.start "ba").location.Valid := Location.valid_start (by decide)
  have hp : Pattern.ofSource? "x|b" = some _ := rfl
  obtain ⟨haccepted, hruns⟩ := pattern_hands_back _ hs
  obtain ⟨-, r, hr⟩ := haccepted _ _ hp
  have hread : Regex.read? (Pattern.wrapped "x|b") = some _ := rfl
  cases hread.symm.trans hr.read
  have h := hruns _ hr
  exact ⟨_, _, hp, hr, rfl, hs, h.2.2.2.1, h.2.2.1⟩

/-- A pattern that closes the bracket around it matches an `a` at the start of a text, or a `b`
anywhere. It finds the `b` behind an `x`, consumes both letters, and hands back the one or both. -/
theorem pattern_skips_ahead :
    ∃ p, Pattern.ofSource? "a)|(?:b" = some p ∧ (State.start "xb").location.Valid ∧
      pattern p ⟨.start "xb", false⟩ = .ok (.value "b" 2) ∧
      (Location.start "xb").text 2 ≠ "b" ∧
      (pattern p).readAt ⟨.start "xb", true⟩ = .ok (.value "xb" 2) :=
  ⟨_, rfl, Location.valid_start (by decide), rfl, by decide, rfl⟩

end Parser

end Descent
