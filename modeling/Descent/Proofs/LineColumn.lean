import Mathlib.Algebra.GroupWithZero.Nat
import Descent.Proofs.Place

/-!
# Lines and columns decode offsets

A reader is told the line and the column of a place, and not its offset. Nothing is lost by that.
Cut the input at its newlines: the line number says which piece the place lies on, the column how
many characters of the piece stand in front of it, and the offset is what these take, together with
the pieces further up and their newlines. The other way round, each character of each piece has a
place in front of it, and so has the end of the piece; and places come in the order of their lines,
and on one line in the order of their columns (`line_and_column_decode_offset`).

Two facts about lists of characters carry this. A text is a number of closed lines, those that a
newline ends, and the rest of a line (`Text.exists_lines_around`), so its line number is a length
and its column too. And text added behind moves to a later line if it has a newline, and otherwise
to a later column (`Text.lineNumber_columnNumber_append`).
-/

namespace Descent

namespace Text

/-! ### Closed lines -/

/-- The lines one after the other, a newline behind each. -/
def closed (lines : List (List Char)) : List Char :=
  lines.flatMap (· ++ ['\n'])

@[simp]
theorem closed_nil : closed [] = [] :=
  rfl

@[simp]
theorem closed_cons (line : List Char) (lines : List (List Char)) :
    closed (line :: lines) = line ++ '\n' :: closed lines := by
  simp [closed]

theorem closed_append (lines lines' : List (List Char)) :
    closed (lines ++ lines') = closed lines ++ closed lines' :=
  List.flatMap_append

theorem byteLength_closed (lines : List (List Char)) :
    byteLength (closed lines) = (lines.map (byteLength · + 1)).sum := by
  induction lines with
  | nil => rfl
  | cons line lines ih =>
    have hnewline : Char.utf8Size '\n' = 1 := rfl
    simp only [closed_cons, byteLength_append, byteLength_cons, hnewline, ih, List.map_cons,
      List.sum_cons]
    omega

/-- The pieces between the newlines of a text, closed, are the text, closed. -/
theorem closed_splitOn (text : List Char) : closed (text.splitOn '\n') = text ++ ['\n'] := by
  induction text with
  | nil => rfl
  | cons c cs ih =>
    rw [List.splitOn_cons_eq_if_modifyHead]
    obtain ⟨line, lines, hlines⟩ := List.exists_cons_of_ne_nil (List.splitOn_ne_nil '\n' cs)
    rw [hlines, closed_cons] at ih
    split <;> rename_i hc
    · obtain rfl : c = '\n' := eq_of_beq hc
      rw [hlines, closed_cons, closed_cons, ih]
      rfl
    · rw [hlines, List.modifyHead_cons, closed_cons, List.cons_append, ih]
      rfl

/-- A piece between newlines has none. -/
theorem newline_notMem_of_mem_splitOn {text line : List Char} (h : line ∈ text.splitOn '\n') :
    '\n' ∉ line := by
  induction text generalizing line with
  | nil =>
    rw [List.splitOn_nil, List.mem_singleton] at h
    simp [h]
  | cons c cs ih =>
    rw [List.splitOn_cons_eq_if_modifyHead] at h
    obtain ⟨first, lines, hlines⟩ := List.exists_cons_of_ne_nil (List.splitOn_ne_nil '\n' cs)
    rw [hlines] at h ih
    split at h <;> rename_i hc
    · rcases List.mem_cons.1 h with rfl | hin
      · exact List.not_mem_nil
      · exact ih hin
    · rw [List.modifyHead_cons] at h
      rcases List.mem_cons.1 h with rfl | hin
      · have hfirst : '\n' ∉ first := ih List.mem_cons_self
        have hne : '\n' ≠ c := fun heq ↦ hc (beq_iff_eq.2 heq.symm)
        exact List.not_mem_cons_of_ne_of_not_mem hne hfirst
      · exact ih (List.mem_cons_of_mem _ hin)

/-- Cutting at newlines undoes closing. -/
theorem splitOn_closed_append {lines : List (List Char)} (h : ∀ line ∈ lines, '\n' ∉ line)
    (rest : List Char) : (closed lines ++ rest).splitOn '\n' = lines ++ rest.splitOn '\n' := by
  induction lines with
  | nil => rfl
  | cons line lines ih =>
    have hline : '\n' ∉ line := h line List.mem_cons_self
    rw [closed_cons, List.append_assoc, List.cons_append,
      List.splitOn_append_cons_self_of_not_mem hline,
      ih fun other hother ↦ h other (List.mem_cons_of_mem _ hother)]
    rfl

/-- The first piece of a text reaches up to its first newline. -/
theorem exists_splitOn_eq_cons (text : List Char) :
    ∃ lines, text.splitOn '\n' = text.takeWhile (· ≠ '\n') :: lines := by
  induction text with
  | nil => exact ⟨[], rfl⟩
  | cons c cs ih =>
    obtain ⟨lines, hlines⟩ := ih
    rw [List.splitOn_cons_eq_if_modifyHead]
    by_cases hc : c = '\n'
    · exact ⟨cs.splitOn '\n', by simp [hc]⟩
    · exact ⟨lines, by simp [hc, hlines]⟩

/-! ### The line that is not closed -/

/-- What has no `c` is not cut at `c`. -/
theorem takeWhile_append_of_notMem {c : Char} {cs : List Char} (h : c ∉ cs) (rest : List Char) :
    (cs ++ rest).takeWhile (· ≠ c) = cs ++ rest.takeWhile (· ≠ c) := by
  refine List.takeWhile_append_of_pos fun d hd ↦ decide_eq_true ?_
  rintro rfl
  exact h hd

section LineStart

variable {start mid : List Char}

/-- Text without a newline stays on the line. -/
theorem lineStart_append_of_newline_notMem (before : List Char) (h : '\n' ∉ mid) :
    lineStart (before ++ mid) = lineStart before ++ mid := by
  have hmid : '\n' ∉ mid.reverse := fun hmem ↦ h (List.mem_reverse.1 hmem)
  rw [lineStart, List.reverse_append, takeWhile_append_of_notMem hmid,
    List.reverse_append, List.reverse_reverse, lineStart]

/-- On the first line, the column counts all characters in front. -/
theorem columnNumber_of_newline_notMem {before : List Char} (h : '\n' ∉ before) :
    columnNumber before = before.length + 1 := by
  have hstart : lineStart ([] ++ before) = [] ++ before := lineStart_append_of_newline_notMem [] h
  rw [columnNumber, ← List.nil_append before, hstart]

/-- Closed lines are not part of the line behind them. -/
theorem lineStart_closed_append (lines : List (List Char)) (h : '\n' ∉ start) :
    lineStart (closed lines ++ start) = start := by
  rw [lineStart_append_of_newline_notMem _ h]
  rcases List.eq_nil_or_concat lines with rfl | ⟨lines, line, rfl⟩
  · rfl
  · simp [lineStart, closed_append]

theorem lineNumber_closed_append {lines : List (List Char)} (hlines : ∀ line ∈ lines, '\n' ∉ line)
    (h : '\n' ∉ start) : lineNumber (closed lines ++ start) = lines.length + 1 := by
  have hcount : (closed lines).count '\n' = lines.length := by
    induction lines with
    | nil => rfl
    | cons line lines ih =>
      have hline : line.count '\n' = 0 := List.count_eq_zero.2 (hlines line List.mem_cons_self)
      rw [closed_cons, List.count_append, hline, List.count_cons_self,
        ih fun other hother ↦ hlines other (List.mem_cons_of_mem _ hother), List.length_cons,
        Nat.zero_add]
  rw [lineNumber, List.count_append, hcount, List.count_eq_zero.2 h, Nat.add_zero]

/-- A text is closed lines, and the part of a line behind its last newline. -/
theorem exists_closed_append_lineStart (before : List Char) :
    ∃ lines, (∀ line ∈ lines, '\n' ∉ line) ∧ before = closed lines ++ lineStart before := by
  have hparts : before = (before.reverse.dropWhile (· ≠ '\n')).reverse ++ lineStart before := by
    rw [lineStart, ← List.reverse_append, List.takeWhile_append_dropWhile, List.reverse_reverse]
  rcases hfront : before.reverse.dropWhile (· ≠ '\n') with - | ⟨c, cs⟩
  · rw [hfront] at hparts
    exact ⟨[], nofun, hparts⟩
  · have hhead := List.head?_dropWhile_not (· ≠ '\n') before.reverse
    rw [hfront] at hparts hhead
    obtain rfl : c = '\n' := by simpa using hhead
    refine ⟨cs.reverse.splitOn '\n', fun line ↦ newline_notMem_of_mem_splitOn, ?_⟩
    rw [closed_splitOn, ← List.reverse_cons]
    exact hparts

end LineStart

/-! ### Positions in a text -/

/-- What stands in front of a position is closed lines and the start of a line, which ends further
on. These are the pieces of the text, up to that line. -/
theorem exists_lines_around (before behind : List Char) :
    ∃ lines rest, before = closed lines ++ lineStart before ∧
      lineNumber before = lines.length + 1 ∧
      (before ++ behind).splitOn '\n' =
        lines ++ (lineStart before ++ behind.takeWhile (· ≠ '\n')) :: rest := by
  have hstart : '\n' ∉ lineStart before := newline_notMem_lineStart before
  obtain ⟨lines, hlines, hbefore⟩ := exists_closed_append_lineStart before
  obtain ⟨rest, hrest⟩ := exists_splitOn_eq_cons (lineStart before ++ behind)
  refine ⟨lines, rest, hbefore, ?_, ?_⟩
  · conv => lhs; rw [hbefore]
    exact lineNumber_closed_append hlines hstart
  · conv => lhs; rw [hbefore]
    rw [List.append_assoc, splitOn_closed_append hlines, hrest,
      takeWhile_append_of_notMem hstart]

/-- Each character of each piece of a text has a position in front of it, and so has the end of the
piece. -/
theorem exists_of_getElem?_splitOn {text piece : List Char} {i j : Nat}
    (hpiece : (text.splitOn '\n')[i]? = some piece) (hj : j ≤ piece.length) :
    ∃ before behind, text = before ++ behind ∧ lineNumber before = i + 1 ∧
      columnNumber before = j + 1 := by
  obtain ⟨hi, hget⟩ := List.getElem?_eq_some_iff.1 hpiece
  have hlines : ∀ line ∈ (text.splitOn '\n').take i, '\n' ∉ line := fun line hline ↦
    newline_notMem_of_mem_splitOn (List.mem_of_mem_take hline)
  have hstart : '\n' ∉ piece.take j := fun hmem ↦
    newline_notMem_of_mem_splitOn (List.mem_of_getElem? hpiece) (List.mem_of_mem_take hmem)
  -- The position is looked for in the closed text, where no line is special; it lies in front of
  -- the newline that closes it.
  have hclosed : text ++ ['\n'] = (closed ((text.splitOn '\n').take i) ++ piece.take j) ++
      (piece.drop j ++ '\n' :: closed ((text.splitOn '\n').drop (i + 1))) := by
    rw [← closed_splitOn text]
    conv => lhs; rw [← List.take_append_drop i (text.splitOn '\n'), List.drop_eq_getElem_cons hi]
    rw [hget, closed_append, closed_cons, List.append_assoc, ← List.append_assoc (piece.take j),
      List.take_append_drop]
  have hprefix : closed ((text.splitOn '\n').take i) ++ piece.take j <+: text := by
    refine List.prefix_of_prefix_length_le ⟨_, hclosed.symm⟩ (List.prefix_append text ['\n']) ?_
    have hlength := congrArg List.length hclosed
    simp only [List.length_append, List.length_cons, List.length_nil] at hlength ⊢
    omega
  obtain ⟨behind, hbehind⟩ := hprefix
  refine ⟨_, behind, hbehind.symm, ?_, ?_⟩
  · rw [lineNumber_closed_append hlines hstart, List.length_take, Nat.min_eq_left (by omega)]
  · rw [columnNumber, lineStart_closed_append _ hstart, List.length_take, Nat.min_eq_left hj]

/-- Further on in a text means on a later line, or on the same line in a later column. -/
theorem lineNumber_columnNumber_append (before : List Char) {mid : List Char} (h : mid ≠ []) :
    lineNumber before < lineNumber (before ++ mid) ∨
      lineNumber before = lineNumber (before ++ mid) ∧
        columnNumber before < columnNumber (before ++ mid) := by
  have hmore : 0 < mid.length := List.length_pos_iff.2 h
  by_cases hmid : '\n' ∈ mid
  · have hcount : 0 < mid.count '\n' := List.count_pos_iff.2 hmid
    left
    simp only [lineNumber, List.count_append]
    omega
  · right
    refine ⟨?_, ?_⟩
    · simp only [lineNumber, List.count_append, List.count_eq_zero.2 hmid, Nat.add_zero]
    · simp only [columnNumber, lineStart_append_of_newline_notMem _ hmid, List.length_append]
      omega

/-- Dropping the carriage return of a line drops one at its end, and nothing else. -/
theorem eq_dropReturn_or (line : List Char) :
    line = dropReturn line ++ ['\r'] ∨ line = dropReturn line ∧ line.getLast? ≠ some '\r' := by
  rw [dropReturn]
  split <;> rename_i h
  · obtain ⟨front, rfl⟩ := List.getLast?_eq_some_iff.1 h
    left
    rw [List.dropLast_concat]
  · exact Or.inr ⟨rfl, h⟩

end Text

/-! ### Places of an input -/

namespace Location

namespace PlaceIn

variable {l m : Location} {input : String}

/-- What lies further on has more text in front of it. -/
theorem exists_front_eq_append (hl : l.PlaceIn input) (hm : m.PlaceIn input)
    (h : l.offset < m.offset) : ∃ mid, mid ≠ [] ∧ m.front = l.front ++ mid := by
  obtain ⟨hinput, hoffset⟩ := hl.input_eq_append
  obtain ⟨hinput', hoffset'⟩ := hm.input_eq_append
  have hprefix : l.front <+: input.toList := ⟨_, hinput.symm⟩
  have hprefix' : m.front <+: input.toList := ⟨_, hinput'.symm⟩
  rcases List.prefix_or_prefix_of_prefix hprefix hprefix' with ⟨mid, hmid⟩ | ⟨mid, hmid⟩
  · refine ⟨mid, ?_, hmid.symm⟩
    rintro rfl
    rw [List.append_nil] at hmid
    rw [hmid] at hoffset
    omega
  · have hlength := congrArg Text.byteLength hmid
    rw [Text.byteLength_append] at hlength
    omega

/-- Places lie in the order of their lines and columns. -/
theorem line_column_lt (hl : l.PlaceIn input) (hm : m.PlaceIn input) (h : l.offset < m.offset) :
    Text.lineNumber l.front < Text.lineNumber m.front ∨
      Text.lineNumber l.front = Text.lineNumber m.front ∧
        Text.columnNumber l.front < Text.columnNumber m.front := by
  obtain ⟨mid, hmid, hfront⟩ := hl.exists_front_eq_append hm h
  rw [hfront]
  exact Text.lineNumber_columnNumber_append l.front hmid

/-- A line and a column have one place. -/
theorem eq_of_line_column (hl : l.PlaceIn input) (hm : m.PlaceIn input)
    (hline : Text.lineNumber l.front = Text.lineNumber m.front)
    (hcolumn : Text.columnNumber l.front = Text.columnNumber m.front) : l = m := by
  refine ext (hl.input_eq.trans hm.input_eq.symm) ?_
  rcases Nat.lt_trichotomy l.offset m.offset with hlt | heq | hgt
  · have := hl.line_column_lt hm hlt
    omega
  · exact heq
  · have := hm.line_column_lt hl hgt
    omega

end PlaceIn

/-- Where a text is cut in two, it has a place. -/
theorem placeIn_jump {input : String} {before behind : List Char}
    (h : input.toList = before ++ behind) :
    ((start input).jump (Text.byteLength before)).PlaceIn input := by
  refine ⟨rfl, ?_⟩
  rw [rest?_eq, input_jump, offset_jump, offset_start, input_start, Nat.zero_add, h,
    Text.dropBytes?_append]
  rfl

theorem front_jump {input : String} {before behind : List Char}
    (h : input.toList = before ++ behind) :
    ((start input).jump (Text.byteLength before)).front = before := by
  rw [front, input_jump, offset_jump, offset_start, input_start, Nat.zero_add, h,
    Text.takeBytes?_append, Option.getD_some]

/-- **Line and column decode the offset.** Let an input be cut into pieces at its newlines. A place
has a line, a column and a current line. The line is the number of a piece, from one, and that piece
without a carriage return at its end is the current line. The column, from one, is behind as many of
the piece's characters as the piece has at most. And the offset is the bytes of the pieces further
up, one more for each, and those of the characters of the piece in front of the column. Each line
and column in these ranges belongs to exactly one place. Of two places, the one with the smaller
offset has the smaller line, or the same line and the smaller column. -/
theorem line_and_column_decode_offset (input : String) :
    (∀ l : Location, l.PlaceIn input →
      ∃ line column shown piece, l.line = .ok line ∧ l.column = .ok column ∧
        l.currentLine = .ok shown ∧
        1 ≤ line ∧ line ≤ (input.toList.splitOn '\n').length ∧
        (input.toList.splitOn '\n')[line - 1]? = some piece ∧
        1 ≤ column ∧ column - 1 ≤ piece.length ∧
        (piece = shown.toList ++ ['\r'] ∨
          piece = shown.toList ∧ piece.getLast? ≠ some '\r') ∧
        l.offset = (((input.toList.splitOn '\n').take (line - 1)).map
            (Text.byteLength · + 1)).sum + Text.byteLength (piece.take (column - 1))) ∧
    (∀ line column piece, 1 ≤ line → (input.toList.splitOn '\n')[line - 1]? = some piece →
      1 ≤ column → column - 1 ≤ piece.length →
      ∃ l : Location, (l.PlaceIn input ∧ l.line = .ok line ∧ l.column = .ok column) ∧
        ∀ m : Location, m.PlaceIn input → m.line = .ok line → m.column = .ok column → m = l) ∧
    (∀ l m : Location, l.PlaceIn input → m.PlaceIn input → l.offset < m.offset →
      ∃ line column line' column', l.line = .ok line ∧ l.column = .ok column ∧
        m.line = .ok line' ∧ m.column = .ok column' ∧
        (line < line' ∨ line = line' ∧ column < column')) := by
  refine ⟨fun l hl ↦ ?_, fun line column piece hline hpiece hcolumn hlength ↦ ?_,
    fun l m hl hm h ↦ ?_⟩
  · obtain ⟨hinput, hoffset⟩ := hl.input_eq_append
    obtain ⟨lines, rest, hfront, hline, hlines⟩ := Text.exists_lines_around l.front l.behind
    rw [← hinput] at hlines
    refine ⟨_, _, _, Text.lineStart l.front ++ l.behind.takeWhile (· ≠ '\n'), hl.line_eq,
      hl.column_eq, hl.currentLine_eq, ?_⟩
    rw [hline, hlines, String.toList_ofList, Text.lineAround, Text.columnNumber]
    refine ⟨Nat.le_add_left 1 _, by simp, by simp, Nat.le_add_left 1 _, by simp,
      Text.eq_dropReturn_or _, ?_⟩
    rw [Nat.add_sub_cancel, Nat.add_sub_cancel, List.take_left, List.take_left,
      ← Text.byteLength_closed, ← Text.byteLength_append, ← hfront, hoffset]
  · obtain ⟨before, behind, hinput, hline', hcolumn'⟩ :=
      Text.exists_of_getElem?_splitOn hpiece hlength
    have hl := placeIn_jump hinput
    rw [Nat.sub_add_cancel hline, ← front_jump hinput] at hline'
    rw [Nat.sub_add_cancel hcolumn, ← front_jump hinput] at hcolumn'
    refine ⟨_, ⟨hl, hline' ▸ hl.line_eq, hcolumn' ▸ hl.column_eq⟩, fun m hm hmline hmcolumn ↦ ?_⟩
    refine hm.eq_of_line_column hl ?_ ?_
    · rw [hline']
      exact Except.ok.inj (hm.line_eq.symm.trans hmline)
    · rw [hcolumn']
      exact Except.ok.inj (hm.column_eq.symm.trans hmcolumn)
  · exact ⟨_, _, _, _, hl.line_eq, hl.column_eq, hm.line_eq, hm.column_eq,
      hl.line_column_lt hm h⟩

/-- Behind a line that ends with a carriage return and a newline, one place only is in the third
column of the second line: ten bytes stand in front of it, on that line two characters. -/
theorem accented_place_decoded :
    ∃ l : Location, (l.PlaceIn "one\r\né∈x" ∧ l.line = .ok 2 ∧ l.column = .ok 3) ∧
      (∀ m : Location, m.PlaceIn "one\r\né∈x" → m.line = .ok 2 → m.column = .ok 3 → m = l) ∧
      l.offset = 10 ∧ l.currentLine = .ok "é∈x" := by
  obtain ⟨-, hunique, -⟩ := line_and_column_decode_offset "one\r\né∈x"
  obtain ⟨l, hl, hall⟩ := hunique 2 3 ['é', '∈', 'x'] (by decide) rfl (by decide) (by decide)
  have hplace : ((start "one\r\né∈x").jump 10).PlaceIn "one\r\né∈x" := ⟨rfl, rfl⟩
  obtain rfl := hall _ hplace rfl rfl
  exact ⟨_, hl, hall, rfl, rfl⟩

end Location

end Descent
