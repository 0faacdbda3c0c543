import Descent.Proofs.Depth
import Descent.Proofs.Fragment
import Descent.Proofs.Report
import Descent.Proofs.Words

/-!
# Parses have no faults

What safety comes to for whole parses over lawful plans and rules: if the evaluation ends, it ends
with a success inside the input or with an error that can be shown, and never with a fault. An error
can be shown because all its frames lie at valid places, where line, column and the text of the line
can be read.

**Showing the whole of an error has a fault of its own**, and a parse can lead to it: the caret of
the report is put in its column by padding, which does not go beyond 65535 blanks
(`Grammar.missing_word_not_shown`). So an error has a report if its innermost frame is not further
to the right (`ParseError.Shows`).
-/

namespace Descent

variable {ι : Type} {ρ : ι → Type} {α : Type}

/-! ### Showing an error -/

/-- Each frame has a line, a column and a line of text, and the report of the error can be made if
the innermost frame is in one of the first 65536 columns. -/
structure ParseError.Shows (e : ParseError) : Prop where
  /-- The error can be made a text, if the caret is not too far to the right. -/
  report : ∀ column, e.innermost.location.column = .ok column → column ≤ widthLimit →
    ∃ text, e.report = .ok text
  /-- A caret too far to the right is the only fault. -/
  tooWide : ∀ column, e.innermost.location.column = .ok column → widthLimit < column →
    e.report = .error .tooWide
  /-- Frames have line numbers. -/
  line : ∀ frame ∈ e.frames, ∃ n, frame.location.line = .ok n
  /-- Frames have column numbers. -/
  column : ∀ frame ∈ e.frames, ∃ n, frame.location.column = .ok n
  /-- Frames stand on lines of text. -/
  currentLine : ∀ frame ∈ e.frames, ∃ text, frame.location.currentLine = .ok text

namespace ParseError

theorem LiesIn.placedIn {e : ParseError} {input : String} (h : e.LiesIn input) :
    e.PlacedIn input := by
  intro frame hframe
  obtain ⟨hvalid, rfl⟩ := h frame hframe
  exact hvalid.placeIn

/-- The column that the caret is put in. -/
theorem PlacedIn.column_eq {e : ParseError} {input : String} {column : Nat} (h : e.PlacedIn input)
    (hcolumn : e.innermost.location.column = .ok column) :
    column = Text.columnNumber e.innermost.location.front := by
  have hinner : e.innermost.location.PlaceIn input := h _ List.mem_cons_self
  exact Except.ok.inj (hcolumn.symm.trans hinner.column_eq)

/-- An error that lies in an input can be shown. -/
theorem LiesIn.shows {e : ParseError} {input : String} (h : e.LiesIn input) : e.Shows where
  report := fun column hcolumn hcaret ↦ by
    rw [h.placedIn.column_eq hcolumn] at hcaret
    exact ⟨_, (report_eq h.placedIn).trans (if_pos hcaret)⟩
  tooWide := fun column hcolumn hcaret ↦ by
    rw [h.placedIn.column_eq hcolumn] at hcaret
    exact (report_eq h.placedIn).trans (if_neg (Nat.not_le.2 hcaret))
  line := fun frame hframe ↦ ⟨_, (h.placedIn frame hframe).line_eq⟩
  column := fun frame hframe ↦ ⟨_, (h.placedIn frame hframe).column_eq⟩
  currentLine := fun frame hframe ↦ ⟨_, (h.placedIn frame hframe).currentLine_eq⟩

end ParseError

/-! ### Whole parses -/

/-- Running a safe parser gives a value, or an error in the input. -/
theorem Parser.Safe.run {p : Parser α} (hp : p.Safe) {input : String}
    (h : input.utf8ByteSize < textLimit) :
    Settles (fun result ↦ ∀ e, result = .error e → e.LiesIn input) (p.run input) := by
  refine (hp (.start input) (Location.valid_start h)).bind ?_
  rintro _ (⟨hvalid, hbare⟩ | ⟨he⟩)
  · rename_i y n
    obtain ⟨a, ha⟩ := Yield.exists_get? (hbare rfl) ((State.start input).location.text n)
    rw [Outcome.extract, Outcome.read, Yield.read_eq (Location.valid_start h) hvalid ha]
    refine Settles.ok fun e heq ↦ ?_
    cases heq
  · refine Settles.ok fun e heq ↦ ?_
    cases heq
    exact he

namespace Grammar

variable {g : Grammar ρ} {p : Plan ρ α}

/-- A parse over lawful plans ends within the input. -/
theorem Ends.within {s : State} {answer : Except Fault (Outcome α)} (h : g.Ends p s answer)
    (hg : g.Lawful) (hp : p.Lawful) (hs : s.location.Valid) :
    ∃ o, answer = .ok o ∧ o.Within s := by
  obtain ⟨hne, depth, rfl⟩ := h
  exact (hg.safe depth hp s hs).resolve_left hne

/-- A run over lawful plans ends with a value, or with an error in the input. -/
theorem RunEnds.within {input : String} {answer : Except Fault (Except ParseError α)}
    (h : g.RunEnds p input answer) (hg : g.Lawful) (hp : p.Lawful)
    (hinput : input.utf8ByteSize < textLimit) :
    ∃ result, answer = .ok result ∧ ∀ e, result = .error e → e.LiesIn input := by
  obtain ⟨hne, depth, rfl⟩ := h
  exact ((hg.safe depth hp).run hinput).resolve_left hne

/-- **No parse has a fault, and nothing leaves the input.** If a parse of a lawful plan from a valid
place ends, in either mode, then it ends with a success that leads to a place between two characters
of the input and that is not bare with slicing off, or with an error that can be shown. A run of the
plan on an input likewise ends with a value or with an error that can be shown. To be shown, an
error has to have a line, a column and a line of text for each of its frames, and a report unless
its innermost frame lies behind more than 65535 characters of one line. -/
theorem ends_without_fault (hg : g.Lawful) (hp : p.Lawful) :
    (∀ s answer, s.location.Valid → g.Ends p s answer →
      (∃ y n, answer = .ok (.success y n) ∧ s.offset + n ≤ s.location.input.utf8ByteSize ∧
        (∃ before behind, s.location.input.toList = before ++ behind ∧
          Text.byteLength before = s.offset + n) ∧
        (s.sliced = false → y ≠ .bare)) ∨
      (∃ e committed, answer = .ok (.failure e committed) ∧ e.Shows)) ∧
    (∀ input answer, input.utf8ByteSize < textLimit → g.RunEnds p input answer →
      (∃ a, answer = .ok (.ok a)) ∨ (∃ e, answer = .ok (.error e) ∧ e.Shows)) := by
  refine ⟨fun s answer hs h ↦ ?_, fun input answer hinput h ↦ ?_⟩
  · obtain ⟨o, rfl, ⟨hvalid, hbare⟩ | ⟨he⟩⟩ := h.within hg hp hs
    · obtain ⟨before, hsplit, hlength⟩ := hvalid.exists_before_append
      exact Or.inl ⟨_, _, rfl, hvalid.offset_le, ⟨before, _, hsplit, hlength⟩, hbare⟩
    · exact Or.inr ⟨_, _, rfl, he.shows⟩
  · obtain ⟨result, rfl, he⟩ := h.within hg hp hinput
    rcases result with e | a
    · exact Or.inr ⟨e, rfl, (he e rfl).shows⟩
    · exact Or.inl ⟨a, rfl⟩

/-- Brackets that are not closed: the run ends, and its error can be shown and has a report. -/
theorem nested_unclosed_shows :
    ∃ e text, nested.RunEnds (.rule ()) "((x)" (.ok (.error e)) ∧ e.Shows ∧
      e.report = .ok text := by
  have hrun : nested.RunEnds (.rule ()) "((x)"
      (.ok (.error ((Location.start "((x)").error "'x'"))) := ⟨nofun, 4, rfl⟩
  rcases (ends_without_fault nested_lawful (p := .rule ()) trivial).2 _ _ (by decide) hrun with
    ⟨a, ha⟩ | ⟨e, he, hshows⟩
  · cases ha
  · cases he
    obtain ⟨text, htext⟩ := hshows.report 1 rfl (by decide)
    exact ⟨_, text, hrun, hshows, htext⟩

/-- On a line of 65536 letters, one letter more is looked for. The run ends with an error, and the
error has no report. -/
theorem missing_word_not_shown :
    (Plan.literal (ParseError.wideLine ++ "b") : Plan (fun _ : Unit ↦ Nat) String).Lawful ∧
      ∃ e, nested.RunEnds (.literal (ParseError.wideLine ++ "b")) ParseError.wideLine
        (.ok (.error e)) ∧ e.report = .error .tooWide := by
  have hfits : ParseError.wideLine.utf8ByteSize < textLimit := by
    rw [ParseError.utf8ByteSize_wideLine]
    decide
  have hrun := Parser.run_literal_append hfits (show "b" ≠ "" by decide)
  rw [ParseError.utf8ByteSize_wideLine] at hrun
  refine ⟨trivial, _, ⟨nofun, 0, hrun⟩, ?_⟩
  exact ParseError.report_of_wideLine
    (List.forall_mem_singleton.2 ParseError.placeIn_end_wideLine) rfl

end Grammar

end Descent
