import Descent.ParseError
import Descent.Proofs.LineColumn

/-!
# What a report shows

The report of an error is a text for people, and yet all of the error can be told from it, if no
message has a newline. The report is a number of closed lines and a last line with the caret
(`ParseError.report_eq`), so cutting it at its newlines gives these lines back. All but the last
three are the frames, from the outside in. The line of a frame begins with two numbers, which a
point and a blank end, whatever the message is (`Frame.heading_injective`); and a line and a column
have one place. So two errors over one input that are shown alike are the same
(`ParseError.report_loses_nothing`).

**Not every error has a report.** The caret is put in its column by padding, and text is not padded
to widths of more than 16 bits. What an error shows is lost altogether if its innermost frame lies
behind more than 65535 characters of one line (`ParseError.far_error_not_shown`).
-/

namespace Descent

namespace Text

/-- Two texts that are the same up to a character which neither of their fronts has. -/
theorem eq_and_eq_of_append_cons_eq {c : Char} {as bs us vs : List Char} (has : c ∉ as)
    (hbs : c ∉ bs) (h : as ++ c :: us = bs ++ c :: vs) : as = bs ∧ us = vs := by
  have hcut : ∀ {cs rest : List Char}, c ∉ cs → (cs ++ c :: rest).takeWhile (· ≠ c) = cs := by
    intro cs rest hcs
    rw [takeWhile_append_of_notMem hcs]
    simp
  obtain rfl : as = bs := by rw [← hcut has, h, hcut hbs]
  exact ⟨rfl, List.tail_eq_of_cons_eq (List.append_cancel_left h)⟩

/-- Only digits spell a number. -/
theorem notMem_toDigits {c : Char} (hc : c.isDigit = false) (n : Nat) :
    c ∉ Nat.toDigits 10 n := by
  intro hmem
  have hdigit : c.isDigit = true := Nat.isDigit_of_mem_toDigits (by decide) (by decide) hmem
  exact Bool.false_ne_true (hc.symm.trans hdigit)

theorem toDigits_injective {m n : Nat} (h : Nat.toDigits 10 m = Nat.toDigits 10 n) : m = n := by
  have hread := congrArg (Nat.ofDigitChars 10 · 0) h
  simpa only [Nat.ofDigitChars_toDigits (b := 10) (by decide) (by decide)] using hread

theorem toList_pushn (s : String) (c : Char) (n : Nat) :
    (s.pushn c n).toList = s.toList ++ List.replicate n c := by
  induction n with
  | zero => simp [String.pushn, Nat.repeat]
  | succ n ih =>
    rw [String.pushn] at ih ⊢
    rw [Nat.repeat, String.toList_push, ih, List.append_assoc, List.replicate_succ']

theorem toList_join_closed (lines : List String) :
    (String.join (lines.map (· ++ "\n"))).toList = closed (lines.map String.toList) := by
  simp [closed, List.flatMap_map]

end Text

/-! ### The line of a frame -/

namespace Frame

/-- The line of a report that shows the frame. -/
def heading (frame : Frame) : String :=
  let front := frame.location.front
  s!"{Text.lineNumber front}.{Text.columnNumber front} {frame.message}"

theorem toList_heading (frame : Frame) :
    frame.heading.toList =
      Nat.toDigits 10 (Text.lineNumber frame.location.front) ++
        '.' :: (Nat.toDigits 10 (Text.columnNumber frame.location.front) ++
          ' ' :: frame.message.toList) := by
  simp only [heading, String.toList_append, List.append_assoc, Nat.toString_eq_repr,
    Nat.toList_repr]
  rfl

theorem newline_notMem_heading {frame : Frame} (h : '\n' ∉ frame.message.toList) :
    '\n' ∉ frame.heading.toList := by
  have hline := Text.notMem_toDigits (c := '\n') rfl (Text.lineNumber frame.location.front)
  have hcolumn := Text.notMem_toDigits (c := '\n') rfl (Text.columnNumber frame.location.front)
  simp [toList_heading, hline, hcolumn, h]

/-- The line of a frame shows where the frame lies, and its message. -/
theorem heading_injective {frame frame' : Frame} {input : String}
    (hplace : frame.location.PlaceIn input) (hplace' : frame'.location.PlaceIn input)
    (h : frame.heading = frame'.heading) : frame = frame' := by
  have htext := congrArg String.toList h
  rw [toList_heading, toList_heading] at htext
  obtain ⟨hline, hrest⟩ := Text.eq_and_eq_of_append_cons_eq (Text.notMem_toDigits rfl _)
    (Text.notMem_toDigits rfl _) htext
  obtain ⟨hcolumn, hmessage⟩ := Text.eq_and_eq_of_append_cons_eq (Text.notMem_toDigits rfl _)
    (Text.notMem_toDigits rfl _) hrest
  have hlocation : frame.location = frame'.location :=
    hplace.eq_of_line_column hplace' (Text.toDigits_injective hline)
      (Text.toDigits_injective hcolumn)
  obtain ⟨location, message⟩ := frame
  obtain ⟨location', message'⟩ := frame'
  obtain rfl : location = location' := hlocation
  obtain rfl : message = message' := String.toList_injective hmessage
  rfl

end Frame

/-! ### The lines of a report -/

namespace ParseError

/-- All frames lie between characters of `input`. -/
def PlacedIn (e : ParseError) (input : String) : Prop :=
  ∀ frame ∈ e.frames, frame.location.PlaceIn input

/-- No message has a newline. -/
def OneLined (e : ParseError) : Prop :=
  ∀ frame ∈ e.frames, '\n' ∉ frame.message.toList

/-- The lines of a report that a newline ends. -/
def closedLines (e : ParseError) : List (List Char) :=
  (e.frames.reverse.map Frame.heading).map String.toList ++
    [[], Text.lineAround e.innermost.location.front e.innermost.location.behind]

/-- The last line of a report. -/
def caretLine (e : ParseError) : List Char :=
  List.replicate (Text.columnNumber e.innermost.location.front - 1) ' ' ++ ['^']

theorem frameLine_eq {frame : Frame} {input : String} (h : frame.location.PlaceIn input) :
    frameLine frame = .ok (frame.heading ++ "\n") := by
  rw [frameLine, h.line_eq, h.column_eq]
  rfl

variable {e e' : ParseError} {input : String}

/-- A report is closed lines and the line with the caret, if that is not too far to the right. -/
theorem report_eq (h : e.PlacedIn input) :
    e.report =
      if Text.columnNumber e.innermost.location.front ≤ widthLimit then
        .ok (String.ofList (Text.closed e.closedLines ++ e.caretLine))
      else .error .tooWide := by
  have hinner : e.innermost.location.PlaceIn input := h _ List.mem_cons_self
  have hframes : e.frames.reverse.mapM frameLine =
      .ok ((e.frames.reverse.map Frame.heading).map (· ++ "\n")) := by
    rw [List.map_map]
    exact mapM_eq_ok fun frame hframe ↦ frameLine_eq (h frame (List.mem_reverse.1 hframe))
  have hfirst : 1 ≤ Text.columnNumber e.innermost.location.front := Nat.le_add_left 1 _
  rw [report, hframes, ok_bind, hinner.currentLine_eq, ok_bind, hinner.column_eq, ok_bind]
  split
  · rename_i hcaret
    have hindent : Text.columnNumber e.innermost.location.front - 1 < widthLimit := by omega
    rw [blanks_of_lt hindent, ok_bind, pure_eq_ok]
    refine congrArg Except.ok (String.toList_injective ?_)
    simp only [String.toList_append, Text.toList_join_closed, Text.toList_pushn, closedLines,
      caretLine, Text.closed_append, Text.closed_cons, Text.closed_nil, String.toList_ofList,
      List.append_assoc, List.cons_append, List.nil_append]
    rfl
  · rename_i hcaret
    have hindent : widthLimit ≤ Text.columnNumber e.innermost.location.front - 1 := by omega
    rw [blanks_of_le hindent]
    rfl

/-- The text of a report, if there is one. -/
theorem eq_of_report_eq_ok {text : String} (h : e.PlacedIn input) (htext : e.report = .ok text) :
    text = String.ofList (Text.closed e.closedLines ++ e.caretLine) := by
  rw [report_eq h] at htext
  split at htext
  · exact (Except.ok.inj htext).symm
  · cases htext

/-- Cut at its newlines, a report gives its lines back. -/
theorem splitOn_report (hlines : e.OneLined) :
    (Text.closed e.closedLines ++ e.caretLine).splitOn '\n' = e.closedLines ++ [e.caretLine] := by
  have hclosed : ∀ line ∈ e.closedLines, '\n' ∉ line := by
    intro line hline
    simp only [closedLines, List.map_map, List.mem_append, List.mem_map, List.mem_reverse,
      List.mem_cons, List.not_mem_nil, or_false] at hline
    rcases hline with ⟨frame, hframe, rfl⟩ | rfl | rfl
    · exact Frame.newline_notMem_heading (hlines frame hframe)
    · exact List.not_mem_nil
    · exact Text.newline_notMem_lineAround _ _
  have hcaret : '\n' ∉ e.caretLine := by simp [caretLine]
  rw [Text.splitOn_closed_append hclosed, List.splitOn_eq_singleton hcaret]

/-- Frames of one input that are shown alike are the same. -/
theorem eq_of_map_heading_eq {frames frames' : List Frame}
    (h : ∀ frame ∈ frames, frame.location.PlaceIn input)
    (h' : ∀ frame ∈ frames', frame.location.PlaceIn input)
    (heq : frames.map Frame.heading = frames'.map Frame.heading) : frames = frames' := by
  induction frames generalizing frames' with
  | nil => exact (List.map_eq_nil_iff.1 heq.symm).symm
  | cons frame frames ih =>
    obtain ⟨frame', rest, rfl, hheading, hrest⟩ := List.map_eq_cons_iff.1 heq.symm
    obtain rfl : frame' = frame :=
      Frame.heading_injective (h' _ List.mem_cons_self) (h _ List.mem_cons_self) hheading
    rw [ih (fun other hother ↦ h other (List.mem_cons_of_mem _ hother))
      (fun other hother ↦ h' other (List.mem_cons_of_mem _ hother)) hrest.symm]

/-- Errors over one input that are shown alike have the same frames. -/
theorem frames_eq_of_report_eq {text : String} (h : e.PlacedIn input) (h' : e'.PlacedIn input)
    (hlines : e.OneLined) (hlines' : e'.OneLined) (htext : e.report = .ok text)
    (htext' : e'.report = .ok text) : e.frames = e'.frames := by
  have hsame := String.ofList_injective
    ((eq_of_report_eq_ok h htext).symm.trans (eq_of_report_eq_ok h' htext'))
  have hcut := congrArg (List.splitOn '\n') hsame
  rw [splitOn_report hlines, splitOn_report hlines'] at hcut
  have hclosed : e.closedLines = e'.closedLines := (List.append_inj' hcut rfl).1
  have hheads : e.frames.reverse.map Frame.heading = e'.frames.reverse.map Frame.heading :=
    (List.map_inj_right fun _ _ ↦ String.toList_injective).1 (List.append_inj' hclosed rfl).1
  exact List.reverse_inj.1 (eq_of_map_heading_eq
    (fun frame hframe ↦ h frame (List.mem_reverse.1 hframe))
    (fun frame hframe ↦ h' frame (List.mem_reverse.1 hframe)) hheads)

/-- **A report loses nothing.** Let the frames of errors lie between characters of one input, and no
message have a newline. If the innermost frame of such an error is in one of the first 65536
columns, then the error has a report. Cut at its newlines, the report of `k` frames has `k + 3`
pieces: for each frame, from the outside in, its line, column and message; an empty piece; the
current line of the innermost frame; and a caret behind one blank less than that frame's column. If
the innermost frame is further to the right, then there is no report. And errors with the same
report have the same frames. -/
theorem report_loses_nothing (input : String) :
    (∀ e : ParseError, e.PlacedIn input → e.OneLined →
      ∃ heads shown column,
        e.frames.reverse.mapM (fun frame ↦ do
          return s!"{← frame.location.line}.{← frame.location.column} {frame.message}") =
            .ok heads ∧
        e.innermost.location.currentLine = .ok shown ∧
        e.innermost.location.column = .ok column ∧
        (column ≤ widthLimit → ∃ text, e.report = .ok text ∧
          text.toList.splitOn '\n' = heads.map String.toList ++
            [[], shown.toList, List.replicate (column - 1) ' ' ++ ['^']] ∧
          (text.toList.splitOn '\n').length = e.size + 3) ∧
        (widthLimit < column → e.report = .error .tooWide)) ∧
    (∀ (e e' : ParseError) (text : String), e.PlacedIn input → e'.PlacedIn input → e.OneLined →
      e'.OneLined → e.report = .ok text → e'.report = .ok text → e.frames = e'.frames) := by
  refine ⟨fun e he hlines ↦ ?_, fun e e' text he he' hlines hlines' ↦
    frames_eq_of_report_eq he he' hlines hlines'⟩
  have hinner : e.innermost.location.PlaceIn input := he _ List.mem_cons_self
  have hheads : e.frames.reverse.mapM (fun frame ↦ do
      return s!"{← frame.location.line}.{← frame.location.column} {frame.message}") =
        .ok (e.frames.reverse.map Frame.heading) := by
    refine mapM_eq_ok fun frame hframe ↦ ?_
    have hplace := he frame (List.mem_reverse.1 hframe)
    rw [hplace.line_eq, ok_bind, hplace.column_eq]
    rfl
  refine ⟨_, _, _, hheads, hinner.currentLine_eq, hinner.column_eq, fun hcaret ↦ ?_,
    fun hcaret ↦ (report_eq he).trans (if_neg (Nat.not_le.2 hcaret))⟩
  refine ⟨_, (report_eq he).trans (if_pos hcaret), ?_, ?_⟩
  · rw [String.toList_ofList, splitOn_report hlines, String.toList_ofList, closedLines,
      List.append_assoc]
    rfl
  · rw [String.toList_ofList, splitOn_report hlines]
    simp [closedLines, size]

/-- In a list on three lines, a value that is none. -/
def unexpectedValue : ParseError :=
  (((Location.start "[\n  é: tru\n]").jump 8).error "expected value").push
    (Location.start "[\n  é: tru\n]") "list"

/-- The error is shown on five lines, and only an error with these two frames is shown so. -/
theorem unexpectedValue_told_from_report :
    unexpectedValue.report = .ok "1.1 list\n2.6 expected value\n\n  é: tru\n     ^" ∧
    ∀ e : ParseError, e.PlacedIn "[\n  é: tru\n]" → e.OneLined →
      e.report = .ok "1.1 list\n2.6 expected value\n\n  é: tru\n     ^" →
      e.size = 2 ∧ e.frames = unexpectedValue.frames := by
  have hreport : unexpectedValue.report =
      .ok "1.1 list\n2.6 expected value\n\n  é: tru\n     ^" := rfl
  have hplaced : unexpectedValue.PlacedIn "[\n  é: tru\n]" := by
    simp only [PlacedIn, unexpectedValue, frames_push, Location.error, frames_single,
      List.forall_mem_append, List.forall_mem_singleton]
    exact ⟨⟨rfl, rfl⟩, ⟨rfl, rfl⟩⟩
  have hlines : unexpectedValue.OneLined := by
    simp only [OneLined, unexpectedValue, frames_push, Location.error, frames_single,
      List.forall_mem_append, List.forall_mem_singleton]
    decide
  obtain ⟨hpieces, hsame⟩ := report_loses_nothing "[\n  é: tru\n]"
  refine ⟨hreport, fun e he hlines' heq ↦ ⟨?_, ?_⟩⟩
  · obtain ⟨heads, shown, column, -, -, -, hnear, hfar⟩ := hpieces e he hlines'
    rcases Nat.lt_or_ge widthLimit column with hcaret | hcaret
    · cases (hfar hcaret).symm.trans heq
    · obtain ⟨text, htext, -, hlength⟩ := hnear hcaret
      obtain rfl := Except.ok.inj (htext.symm.trans heq)
      have hfive : e.size + 3 = 5 := hlength.symm.trans (by decide)
      omega
  · exact hsame e unexpectedValue _ he hplaced hlines' hlines heq hreport

/-! ### Too far to the right -/

/-- A line of so many letters that no caret is put behind them. -/
def wideLine : String :=
  String.ofList (List.replicate widthLimit 'a')

theorem toList_wideLine : wideLine.toList = List.replicate widthLimit 'a' :=
  String.toList_ofList

theorem utf8ByteSize_wideLine : wideLine.utf8ByteSize = widthLimit := by
  have hletter : 'a'.utf8Size = 1 := by decide
  rw [wideLine, Text.utf8ByteSize_ofList, Text.byteLength_replicate, hletter, Nat.mul_one]

theorem placeIn_end_wideLine : ((Location.start wideLine).jump widthLimit).PlaceIn wideLine := by
  have hplace := Location.placeIn_jump (List.append_nil wideLine.toList).symm
  rwa [Text.byteLength_toList, utf8ByteSize_wideLine] at hplace

/-- No error whose innermost frame lies at the end of the line has a report. -/
theorem report_of_wideLine (h : e.PlacedIn wideLine)
    (hinner : e.innermost.location = (Location.start wideLine).jump widthLimit) :
    e.report = .error .tooWide := by
  have hfront : e.innermost.location.front = List.replicate widthLimit 'a' := by
    have hfront := Location.front_jump (List.append_nil wideLine.toList).symm
    rwa [Text.byteLength_toList, utf8ByteSize_wideLine, toList_wideLine, ← hinner] at hfront
  have hcolumn : Text.columnNumber e.innermost.location.front = widthLimit + 1 := by
    have hline : '\n' ∉ List.replicate widthLimit 'a' := by simp
    rw [hfront, Text.columnNumber_of_newline_notMem hline, List.length_replicate]
  rw [report_eq h, hcolumn, if_neg (by omega)]

/-- An error behind the line, made as any error is. Its one frame lies between characters and has a
message without a newline, and yet the error has no report. -/
theorem far_error_not_shown :
    let e := ((Location.start wideLine).jump widthLimit).error "m"
    e.PlacedIn wideLine ∧ e.OneLined ∧ e.size = 1 ∧ ¬ ∃ text, e.report = .ok text := by
  intro e
  have hplaced : e.PlacedIn wideLine := List.forall_mem_singleton.2 placeIn_end_wideLine
  have hlines : e.OneLined := List.forall_mem_singleton.2 (by decide)
  refine ⟨hplaced, hlines, rfl, ?_⟩
  rintro ⟨text, htext⟩
  cases (report_of_wideLine hplaced rfl).symm.trans htext

end ParseError

end Descent
