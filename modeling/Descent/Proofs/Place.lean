import Descent.Proofs.Computation
import Descent.State

/-!
# Places in an input

The locations that a parse moves between: those that fall between two characters of an input that
fits in memory. Everything that reads or moves can fail at other locations only, so each operation
gets one lemma here that says what it gives at a valid one.

Places are reached by `Location.jump`, which never fails, and a count of consumed bytes is right if
the jump over it leads to a valid location. So "in bounds", "on a character boundary" and "no sum
overflows" are one statement, `(l.jump n).Valid`, and a parse of several steps only has to add up
its jumps (`jump_jump`). What such a jump passes over is `Location.text`, and what stands behind a
location is `Location.behind`, two functions that are total like the jump itself.

Moving by itself looks at offsets only. Where nothing is read, a location may fall inside a
character, and `Location.Inside` is all that a move asks for. Reading by itself does not ask whether
the input fits in memory, and `Location.PlaceIn` is all that it asks for.
-/

namespace Descent

/-- Texts have fewer bytes than this, half the number of 64-bit words: no memory holds more. -/
def textLimit : Nat := 0x8000000000000000

namespace Location

/-- A location between two characters of an input that fits in memory. -/
structure Valid (l : Location) : Prop where
  /-- The input fits in memory. -/
  fits : l.input.utf8ByteSize < textLimit
  /-- The location falls between two characters. -/
  between : l.rest?.isSome

/-- A location in an input that fits in memory. It may fall inside a character. -/
structure Inside (l : Location) : Prop where
  /-- The input fits in memory. -/
  fits : l.input.utf8ByteSize < textLimit
  /-- The location is not behind the end of the input. -/
  offset_le : l.offset ≤ l.input.utf8ByteSize

/-- The location falls between two characters of `input`. -/
structure PlaceIn (l : Location) (input : String) : Prop where
  /-- It is a location of this input. -/
  input_eq : l.input = input
  /-- It falls neither inside a character nor behind the end. -/
  between : l.rest?.isSome

/-- The characters in front of the location. -/
def front (l : Location) : List Char :=
  (Text.takeBytes? l.input.toList l.offset).getD []

/-- The characters behind the location. -/
def behind (l : Location) : List Char :=
  l.rest?.getD []

/-- The next `n` bytes as text, if they end between two characters. -/
def text (l : Location) (n : Nat) : String :=
  String.ofList ((l.rest?.bind (Text.takeBytes? · n)).getD [])

@[simp]
theorem jump_zero (l : Location) : l.jump 0 = l :=
  ext rfl (Nat.add_zero _)

@[simp]
theorem jump_jump (l : Location) (m n : Nat) : (l.jump m).jump n = l.jump (m + n) :=
  ext rfl (Nat.add_assoc _ _ _)

theorem valid_start {input : String} (h : input.utf8ByteSize < textLimit) :
    (start input).Valid :=
  ⟨h, rfl⟩

/-! ### Reading at a place of an input -/

namespace PlaceIn

variable {l : Location} {input : String}

theorem rest?_eq (h : l.PlaceIn input) : l.rest? = some l.behind := by
  obtain ⟨cs, hcs⟩ := Option.isSome_iff_exists.1 h.between
  rw [behind, hcs, Option.getD_some]

/-- A place cuts its input in two, behind as many bytes as its offset says. -/
theorem input_eq_append (h : l.PlaceIn input) :
    input.toList = l.front ++ l.behind ∧ Text.byteLength l.front = l.offset := by
  have hdrop : Text.dropBytes? l.input.toList l.offset = some l.behind :=
    l.rest?_eq.symm.trans h.rest?_eq
  obtain ⟨before, hinput, hoffset⟩ := Text.exists_of_dropBytes? hdrop
  have hfront : l.front = before := by
    rw [front, hinput, ← hoffset, Text.takeBytes?_append, Option.getD_some]
  rw [hfront, ← h.input_eq]
  exact ⟨hinput, hoffset⟩

theorem rest_eq (h : l.PlaceIn input) : l.rest = .ok l.behind := by
  rw [rest, h.rest?_eq]

theorem before_eq (h : l.PlaceIn input) : l.before = .ok l.front := by
  obtain ⟨hinput, hoffset⟩ := h.input_eq_append
  have hbefore : Text.takeBytes? l.input.toList l.offset = some l.front := by
    rw [h.input_eq, hinput, ← hoffset, Text.takeBytes?_append]
  rw [before, hbefore]

theorem line_eq (h : l.PlaceIn input) : l.line = .ok (Text.lineNumber l.front) := by
  rw [line, h.before_eq]
  rfl

theorem column_eq (h : l.PlaceIn input) : l.column = .ok (Text.columnNumber l.front) := by
  rw [column, h.before_eq]
  rfl

theorem currentLine_eq (h : l.PlaceIn input) :
    l.currentLine = .ok (String.ofList (Text.lineAround l.front l.behind)) := by
  rw [currentLine, h.before_eq, ok_bind, h.rest_eq]
  rfl

end PlaceIn

/-! ### Between valid locations -/

theorem Valid.placeIn {l : Location} (h : l.Valid) : l.PlaceIn l.input :=
  ⟨rfl, h.between⟩

theorem Valid.rest?_eq {l : Location} (h : l.Valid) : l.rest? = some l.behind :=
  h.placeIn.rest?_eq

/-- A valid location splits its input into the text before it and the text behind it. -/
theorem Valid.exists_before_append {l : Location} (h : l.Valid) :
    ∃ before, l.input.toList = before ++ l.behind ∧ Text.byteLength before = l.offset :=
  ⟨l.front, h.placeIn.input_eq_append⟩

theorem Valid.offset_add_byteLength {l : Location} (h : l.Valid) :
    l.offset + Text.byteLength l.behind = l.input.utf8ByteSize := by
  obtain ⟨before, hinput, hoffset⟩ := h.exists_before_append
  rw [← Text.byteLength_toList, hinput, Text.byteLength_append, hoffset]

theorem Valid.offset_le {l : Location} (h : l.Valid) : l.offset ≤ l.input.utf8ByteSize := by
  have := h.offset_add_byteLength
  omega

/-- What stands behind a valid location fits in memory. -/
theorem Valid.byteLength_lt {l : Location} (h : l.Valid) :
    Text.byteLength l.behind < textLimit := by
  have := h.offset_add_byteLength
  have := h.fits
  omega

theorem Valid.inside {l : Location} (h : l.Valid) : l.Inside :=
  ⟨h.fits, h.offset_le⟩

/-- Offsets in an input are machine words. -/
theorem Inside.offset_lt {l : Location} (h : l.Inside) : l.offset < wordLimit := by
  have hle : l.offset ≤ l.input.utf8ByteSize := h.offset_le
  have hfits : l.input.utf8ByteSize < textLimit := h.fits
  unfold wordLimit
  unfold textLimit at hfits
  omega

/-- A move inside the input succeeds. -/
theorem Inside.advance_eq {l : Location} {n : Nat} (h : (l.jump n).Inside) :
    l.advance n = .ok (l.jump n) :=
  advance_eq_ok_iff.2 ⟨h.offset_lt, h.offset_le, rfl⟩

/-- A move to a valid location succeeds. -/
theorem advance_eq {l : Location} {n : Nat} (h : (l.jump n).Valid) :
    l.advance n = .ok (l.jump n) :=
  h.inside.advance_eq

/-- Between two valid locations lies a text, which `text` gives. -/
theorem Valid.exists_text {l : Location} (h : l.Valid) {n : Nat} (hn : (l.jump n).Valid) :
    ∃ passed, l.behind = passed ++ (l.jump n).behind ∧ Text.byteLength passed = n ∧
      l.text n = String.ofList passed := by
  have hdrop : Text.dropBytes? l.behind n = some (l.jump n).behind := by
    rw [← Text.dropBytes?_add (l.rest?_eq ▸ h.rest?_eq) n]
    exact (l.jump n).rest?_eq.symm.trans hn.rest?_eq
  obtain ⟨passed, hpassed, rfl⟩ := Text.exists_of_dropBytes? hdrop
  refine ⟨passed, hpassed, rfl, ?_⟩
  rw [text, h.rest?_eq, Option.bind_some, hpassed, Text.takeBytes?_append, Option.getD_some]

section Behind

variable {l : Location} {passed rest : List Char}

/-- The location behind a text that stands at a valid location is valid. -/
theorem Valid.jump (h : l.Valid) (hbehind : l.behind = passed ++ rest) :
    (l.jump (Text.byteLength passed)).Valid := by
  refine ⟨h.fits, ?_⟩
  rw [(l.jump _).rest?_eq, input_jump, offset_jump,
    Text.dropBytes?_add (l.rest?_eq ▸ h.rest?_eq), hbehind, Text.dropBytes?_append]
  rfl

theorem Valid.text_eq (h : l.Valid) (hbehind : l.behind = passed ++ rest) :
    l.text (Text.byteLength passed) = String.ofList passed := by
  simp [text, h.rest?_eq, hbehind]

end Behind

theorem Valid.rest_eq {l : Location} (h : l.Valid) : l.rest = .ok l.behind :=
  h.placeIn.rest_eq

end Location

namespace State

/-- The state `n` bytes further on, in the same mode. -/
def jump (s : State) (n : Nat) : State :=
  { s with location := s.location.jump n }

@[simp]
theorem location_jump (s : State) (n : Nat) : (s.jump n).location = s.location.jump n :=
  rfl

@[simp]
theorem sliced_jump (s : State) (n : Nat) : (s.jump n).sliced = s.sliced :=
  rfl

@[simp]
theorem jump_withSlicing (s : State) (b : Bool) (n : Nat) :
    (s.withSlicing b).jump n = (s.jump n).withSlicing b :=
  rfl

@[simp]
theorem jump_zero (s : State) : s.jump 0 = s := by
  simp [jump]

@[simp]
theorem jump_jump (s : State) (m n : Nat) : (s.jump m).jump n = s.jump (m + n) := by
  simp [jump]

theorem jump_inj {s : State} {m n : Nat} : s.jump m = s.jump n ↔ m = n := by
  constructor
  · intro h
    have hoffset : s.location.offset + m = s.location.offset + n :=
      congrArg (·.location.offset) h
    omega
  · rintro rfl
    rfl

theorem rest_eq {s : State} (h : s.location.Valid) : s.rest = .ok s.location.behind :=
  h.rest_eq

/-- A move inside the input succeeds. -/
theorem advance_eq_of_inside {s : State} {n : Nat} (h : (s.location.jump n).Inside) :
    s.advance n = .ok (s.jump n) := by
  rw [advance, h.advance_eq]
  rfl

theorem advance_eq {s : State} {n : Nat} (h : (s.location.jump n).Valid) :
    s.advance n = .ok (s.jump n) :=
  advance_eq_of_inside h.inside

/-- A state moves exactly as its location does. -/
theorem advance_eq_ok_iff {s t : State} {n : Nat} :
    s.advance n = .ok t ↔
      s.offset + n < wordLimit ∧ s.offset + n ≤ s.location.input.utf8ByteSize ∧ t = s.jump n := by
  rcases hmove : s.location.advance n with fault | l
  · have hstuck : ¬ (s.offset + n < wordLimit ∧ s.offset + n ≤ s.location.input.utf8ByteSize) := by
      rintro ⟨hword, hend⟩
      have hok := Location.advance_eq_ok_iff.2 ⟨hword, hend, rfl⟩
      exact nomatch hmove.symm.trans hok
    simp only [advance, hmove]
    exact ⟨nofun, fun h ↦ absurd ⟨h.1, h.2.1⟩ hstuck⟩
  · obtain ⟨hword, hend, rfl⟩ := Location.advance_eq_ok_iff.1 hmove
    simp only [advance, hmove, ok_bind, pure_eq_ok, Except.ok.injEq]
    exact ⟨fun h ↦ ⟨hword, hend, h.symm⟩, fun h ↦ h.2.2.symm⟩

/-- A move is to whatever state the jump leads to. -/
theorem advance_of_jump_eq {s t : State} {n : Nat} (h : s.jump n = t) (ht : t.location.Inside) :
    s.advance n = .ok t := by
  subst h
  exact advance_eq_of_inside ht

theorem sliced_of_jump_eq {s t : State} {m n : Nat} (h : s.jump m = t.jump n) :
    s.sliced = t.sliced := by
  simpa using congrArg State.sliced h

theorem span_eq {s : State} {n : Nat} (hs : s.location.Valid) (hn : (s.location.jump n).Valid) :
    s.span n = .ok (s.location.text n) := by
  obtain ⟨passed, hbehind, rfl, htext⟩ := hs.exists_text hn
  rw [span, rest_eq hs, ok_bind, hbehind, Text.takeBytes?_append, htext]
  rfl

end State

end Descent
