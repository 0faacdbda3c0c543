import Descent.Parser.Probe
import Descent.Parser.Repetition
import Descent.Proofs.Place

/-!
# Text in front of the input

What happens to a parse when some text is put in front of its input: every location moves behind
that text (`Location.shift`), and so do the frames of errors, while lengths, values and messages
stay as they are (`Outcome.shift`).

A parser is placeless if this is all that happens (`Parser.Placeless`). Everything that a state is
asked for passes through a shift: the text behind a location is the same, moves end at shifted
locations, and the bytes that remain are as many as before. So the primitives are placeless, and the
combinators are if their parts are. No location has to be valid for that. Only the fault of a move
past the end may become another one, since the sum of the offsets may not fit any more.
-/

namespace Descent

variable {α β γ : Type}

/-! ### Locations and states -/

namespace Location

/-- The same place after a text has been put in front of the input. -/
def shift (before : String) (l : Location) : Location where
  input := before ++ l.input
  offset := before.utf8ByteSize + l.offset
  rest? := l.rest?
  rest?_eq := by
    have hdrop : Text.dropBytes? (before ++ l.input).toList before.utf8ByteSize =
        some l.input.toList := by
      rw [String.toList_append, ← Text.byteLength_toList, Text.dropBytes?_append]
    rw [Text.dropBytes?_add hdrop, l.rest?_eq]

variable {before : String} {l : Location}

@[simp]
theorem input_shift : (l.shift before).input = before ++ l.input :=
  rfl

@[simp]
theorem offset_shift : (l.shift before).offset = before.utf8ByteSize + l.offset :=
  rfl

/-- The start of an input becomes the place behind the text in front of it. -/
theorem shift_start (before text : String) :
    (start text).shift before = (start (before ++ text)).jump before.utf8ByteSize :=
  ext rfl (Nat.add_comm _ _)

theorem jump_shift (n : Nat) : (l.jump n).shift before = (l.shift before).jump n :=
  ext rfl (Nat.add_assoc _ _ _).symm

/-- A valid location is the start of the text behind it, shifted. -/
theorem Valid.exists_shift (h : l.Valid) :
    ∃ before, l = (start (String.ofList l.behind)).shift before := by
  obtain ⟨before, hinput, hoffset⟩ := h.exists_before_append
  refine ⟨String.ofList before, ext ?_ ?_⟩
  · rw [input_shift, input_start, ← String.ofList_append, ← hinput, String.ofList_toList]
  · rw [offset_shift, offset_start, Text.utf8ByteSize_ofList, hoffset, Nat.add_zero]

/-- A move past the end has a fault: its sum does not fit, or it is more than the input has. -/
theorem exists_fault_of_lt {n : Nat} (h : l.input.utf8ByteSize < l.offset + n) :
    ∃ fault, l.advance n = .error fault ∧ fault ≠ .unfinished := by
  by_cases hword : l.offset + n < wordLimit
  · exact ⟨.pastEnd, by simp [advance, addCounts_of_lt hword, Nat.not_le.2 h], nofun⟩
  · exact ⟨.overflow, by simp [advance, addCounts, hword, bind, Except.bind], nofun⟩

/-- Moves end at shifted locations. If one goes past the end, then so does the other one. -/
theorem mirrors_advance (hfits : (before ++ l.input).utf8ByteSize < textLimit) (n : Nat) :
    Mirrors (shift before) (l.advance n) ((l.shift before).advance n) := by
  have hsize : (before ++ l.input).utf8ByteSize =
      before.utf8ByteSize + l.input.utf8ByteSize := String.utf8ByteSize_append
  have hlimit : textLimit < wordLimit := by decide
  by_cases hle : l.offset + n ≤ l.input.utf8ByteSize
  · have hadvance : l.advance n = .ok (l.jump n) :=
      advance_eq_ok_iff.2 ⟨by omega, hle, rfl⟩
    have hadvance' : (l.shift before).advance n = .ok ((l.jump n).shift before) :=
      advance_eq_ok_iff.2 ⟨by simp only [offset_shift]; omega,
        by simp only [offset_shift, input_shift]; omega, jump_shift n⟩
    rw [hadvance, hadvance']
    exact .ok _
  · obtain ⟨x, hx, hxcut⟩ := exists_fault_of_lt (Nat.not_le.1 hle)
    have hlt : (l.shift before).input.utf8ByteSize < (l.shift before).offset + n := by
      simp only [offset_shift, input_shift]
      omega
    obtain ⟨y, hy, hycut⟩ := exists_fault_of_lt hlt
    rw [hx, hy]
    exact .fault hxcut hycut

end Location

namespace State

/-- The same state after a text has been put in front of the input. -/
def shift (before : String) (s : State) : State :=
  { s with location := s.location.shift before }

variable {before : String} {s : State}

@[simp]
theorem location_shift : (s.shift before).location = s.location.shift before :=
  rfl

@[simp]
theorem sliced_shift : (s.shift before).sliced = s.sliced :=
  rfl

@[simp]
theorem rest_shift : (s.shift before).rest = s.rest :=
  rfl

@[simp]
theorem span_shift (n : Nat) : (s.shift before).span n = s.span n :=
  rfl

theorem mirrors_advance (hfits : (before ++ s.location.input).utf8ByteSize < textLimit) (n : Nat) :
    Mirrors (shift before) (s.advance n) ((s.shift before).advance n) :=
  (Location.mirrors_advance hfits n).bind fun l _ ↦ .ok { s with location := l }

/-- A move does not change the input. -/
theorem input_of_advance {t : State} {n : Nat} (h : s.advance n = .ok t) :
    t.location.input = s.location.input := by
  obtain ⟨-, -, rfl⟩ := advance_eq_ok_iff.1 h
  rfl

end State

/-! ### Errors and outcomes -/

/-- The same frame after a text has been put in front of the input. -/
def Frame.shift (before : String) (frame : Frame) : Frame :=
  { frame with location := frame.location.shift before }

namespace ParseError

/-- The same error after a text has been put in front of the input. -/
def shift (before : String) (e : ParseError) : ParseError where
  innermost := e.innermost.shift before
  outer := e.outer.map (·.shift before)

variable {before : String} {e : ParseError}

@[simp]
theorem frames_shift : (e.shift before).frames = e.frames.map (·.shift before) :=
  rfl

theorem shift_push (before : String) (e : ParseError) (l : Location) (message : String) :
    (e.push l message).shift before = (e.shift before).push (l.shift before) message := by
  simp [shift, push, Frame.shift]

end ParseError

theorem Yield.read_shift {before : String} (y : Yield α) (s : State) (n : Nat) :
    y.read (s.shift before) n = y.read s n := by
  cases y <;> rfl

/-- The same reading after a text has been put in front of the input. -/
def Reading.shift (before : String) : Reading α → Reading α
  | value a n => value a n
  | failure e committed => failure (e.shift before) committed

namespace Outcome

/-- The same outcome after a text has been put in front of the input: of a success nothing changes,
and the frames of an error are shifted. -/
def shift (before : String) : Outcome α → Outcome α
  | success y n => success y n
  | failure e committed => failure (e.shift before) committed

variable {before : String} {s : State}

theorem mirrors_read (o : Outcome α) :
    Mirrors (Reading.shift before) (o.read s) ((o.shift before).read (s.shift before)) := by
  cases o with
  | success y n =>
    simp only [shift, read, Yield.read_shift]
    exact Mirrors.bind_same fun a ↦ .ok (Reading.value a n)
  | failure e committed => exact .ok (Reading.failure e committed)

theorem mirrors_mapValue (o : Outcome α) (f : α → β) :
    Mirrors (shift before) (o.mapValue s f) ((o.shift before).mapValue (s.shift before) f) := by
  cases o with
  | success y n =>
    cases y with
    | value a => exact .ok (value (f a) n)
    | text g =>
      exact Mirrors.bind_same fun a ↦ .ok (value (f a) n)
    | bare => exact .ok (success .bare n)
  | failure e committed => exact .ok (failure e committed)

theorem mirrors_advance (o : Outcome α) (n : Nat) :
    Mirrors (shift before) (o.advance n) ((o.shift before).advance n) := by
  cases o with
  | success y m => exact Mirrors.bind_same fun k ↦ .ok (success y k)
  | failure e committed => exact .ok (failure e committed)

theorem mirrors_pair (f : α → β → γ) {next : State} (y : Yield α) (m : Nat) (z : Yield β)
    (n : Nat) :
    Mirrors (shift before) (pair f s next y m z n)
      (pair f (s.shift before) (next.shift before) y m z n) := by
  simp only [pair, State.sliced_shift, Yield.read_shift]
  split
  · exact Mirrors.bind_same fun k ↦ .ok (success .bare k)
  · refine Mirrors.bind_same fun a ↦ Mirrors.bind_same fun b ↦ ?_
    exact Mirrors.bind_same fun k ↦ .ok (value (f a b) k)

end Outcome

/-! ### Parsers -/

/-- Text in front of the input shifts what the parser answers, and changes nothing else. -/
def Parser.Placeless (p : Parser α) : Prop :=
  ∀ before s, (before ++ s.location.input).utf8ByteSize < textLimit →
    Mirrors (Outcome.shift before) (p s) (p (s.shift before))

namespace Parser.Placeless

theorem succeed (a : α) : (succeed a).Placeless := fun _ _ _ ↦
  .ok _

theorem fail (message : String) : (fail message : Parser α).Placeless := fun _ _ _ ↦
  .ok _

theorem literal (word : String) : (literal word).Placeless := by
  intro before s hfits
  refine Mirrors.bind_same fun text ↦ ?_
  rcases firstMismatch word.toList text with - | n
  · dsimp only
    rw [State.sliced_shift]
    split
    · exact .ok _
    · exact Mirrors.bind_same fun _ ↦ .ok _
  · exact (Location.mirrors_advance hfits n).bind fun place _ ↦
      .ok (Outcome.failure (place.error s!"'{word}'") (n != 0))

theorem pattern (p : Pattern) : (pattern p).Placeless := by
  intro before s _
  refine Mirrors.bind_same fun text ↦ ?_
  rcases p.find text with - | found
  · exact .ok _
  · dsimp only
    rw [State.sliced_shift]
    split
    · exact .ok _
    · exact .ok _

theorem eof : eof.Placeless := by
  intro before s _
  refine Mirrors.bind_same fun text ↦ ?_
  cases text with
  | nil => exact .ok _
  | cons c cs => exact .ok _

theorem anyChar : anyChar.Placeless := by
  intro before s _
  refine Mirrors.bind_same fun text ↦ ?_
  cases text with
  | nil => exact .ok _
  | cons c cs => exact .ok _

/-! #### One parser or two in the same place -/

section

variable {p q : Parser α}

theorem orElse (hp : p.Placeless) (hq : q.Placeless) : (p.orElse q).Placeless := by
  intro before s hfits
  refine (hp before s hfits).bind fun o _ ↦ ?_
  cases o with
  | success y n => exact .ok _
  | failure e committed =>
    cases committed
    · exact hq before s hfits
    · exact .ok _

/-- What is done to an answer may look at the place, and must not do more than to shift with it. -/
theorem after {k : State → Outcome α → Except Fault (Outcome β)} (hp : p.Placeless)
    (hk : ∀ before s o,
      Mirrors (Outcome.shift before) (k s o) (k (s.shift before) (o.shift before))) :
    Parser.Placeless fun s ↦ p s >>= k s := fun before s hfits ↦
  (hp before s hfits).bind fun o _ ↦ hk before s o

theorem attempt (hp : p.Placeless) : p.attempt.Placeless :=
  hp.after fun _ _ o ↦ by cases o <;> exact .ok _

theorem scope (hp : p.Placeless) (message : String) : (p.scope message).Placeless :=
  hp.after fun before s o ↦ by
    cases o with
    | success y n => exact .ok _
    | failure e committed =>
      have hpush := ParseError.shift_push before e s.location message
      dsimp only [Outcome.shift, Outcome.mapError, State.location_shift]
      rw [← hpush]
      exact .ok _

theorem label (hp : p.Placeless) (message : String) : (p.label message).Placeless :=
  hp.after fun _ _ o ↦ by cases o <;> exact .ok _

theorem retype (hp : p.Placeless) (f : α → β) : (p.retype f).Placeless :=
  hp.after fun _ _ o ↦ by cases o <;> exact .ok _

theorem map (hp : p.Placeless) (f : α → β) : (p.map f).Placeless :=
  hp.after fun _ _ o ↦ o.mirrors_mapValue f

theorem optional (hp : p.Placeless) : p.optional.Placeless :=
  hp.after fun _ _ o ↦ by
    cases o with
    | success y n => exact Outcome.mirrors_mapValue (.success y n) some
    | failure e committed =>
      cases committed
      · exact .ok _
      · exact .ok _

theorem slice (hp : p.Placeless) : p.slice.Placeless := by
  intro before s hfits
  refine (hp before (s.withSlicing true) hfits).bind fun o _ ↦ ?_
  cases o <;> exact .ok _

theorem inMode (hp : p.Placeless) (sliced : Bool) : (p.inMode sliced).Placeless :=
  fun before s hfits ↦ hp before (s.withSlicing sliced) hfits

end

/-! #### Sequences -/

theorem map2 {p : Parser α} {q : Parser β} (hp : p.Placeless) (hq : q.Placeless)
    (f : α → β → γ) : (p.map2 q f).Placeless := by
  intro before s hfits
  refine (hp before s hfits).bind fun o _ ↦ ?_
  cases o with
  | success y m =>
    refine (State.mirrors_advance hfits m).bind fun next hnext ↦ ?_
    refine (hq before next (State.input_of_advance hnext ▸ hfits)).bind fun o' _ ↦ ?_
    cases o' with
    | success z n => exact Outcome.mirrors_pair f y m z n
    | failure e committed => exact .ok _
  | failure e committed => exact .ok _

theorem flatMap {p : Parser α} {f : α → Parser β} (hp : p.Placeless)
    (hf : ∀ a, (f a).Placeless) : (p.flatMap f).Placeless := by
  intro before s hfits
  refine (hp before (s.withSlicing false) hfits).bind fun o _ ↦ ?_
  refine (o.mirrors_read (s := s.withSlicing false)).bind fun r _ ↦ ?_
  cases r with
  | value a n =>
    refine (State.mirrors_advance hfits n).bind fun next hnext ↦ ?_
    refine (hf a before next (State.input_of_advance hnext ▸ hfits)).bind fun o' _ ↦ ?_
    have hcommit : (o'.shift before).withCommit (n != 0) =
        (o'.withCommit (n != 0)).shift before := by cases o' <;> rfl
    rw [hcommit]
    exact Outcome.mirrors_advance _ n
  | failure e committed => exact .ok _

/-! #### Repetition -/

/-- Both loops have collected the same, since values and lengths do not depend on the place. -/
theorem repeatLoop {p : Parser α} (hp : p.Placeless) (b : Bounds) {before : String} (budget : Nat)
    {s : State} (hfits : (before ++ s.location.input).utf8ByteSize < textLimit) (jump : Nat)
    (done : Progress α) :
    Mirrors (Outcome.shift before) (p.repeatLoop b budget s jump done)
      (p.repeatLoop b budget (s.shift before) jump done) := by
  have hend : ∀ (d : Progress α) mode,
      Mirrors (Outcome.shift before) (.ok (d.outcome mode)) (.ok (d.outcome mode)) := by
    intro d mode
    cases mode <;> exact .ok _
  induction budget generalizing s jump done with
  | zero =>
    rw [Parser.repeatLoop, Parser.repeatLoop]
    split
    · exact hend done s.sliced
    · exact .cut
  | succ budget ih =>
    rw [Parser.repeatLoop, Parser.repeatLoop]
    refine (State.mirrors_advance hfits jump).bind fun here hhere ↦ ?_
    have hfits' := State.input_of_advance hhere ▸ hfits
    refine (hp before here hfits').bind fun o _ ↦ ?_
    cases o with
    | success y n =>
      have hadd : done.add (here.shift before) y n = done.add here y n := by
        simp only [Progress.add, State.sliced_shift, Yield.read_shift]
      dsimp only [Outcome.shift]
      rw [hadd]
      refine Mirrors.bind_same fun done' ↦ ?_
      split
      · exact hend done' s.sliced
      · exact ih hfits' n done'
    | failure e committed =>
      dsimp only [Outcome.shift]
      split
      · exact .ok _
      · exact hend done s.sliced

theorem repeated {p : Parser α} (hp : p.Placeless) (b : Bounds) : (p.repeated b).Placeless := by
  intro before s hfits
  have hleft : (s.shift before).location.input.utf8ByteSize - (s.shift before).offset =
      s.location.input.utf8ByteSize - s.offset := by
    rw [State.location_shift, Location.input_shift, String.utf8ByteSize_append]
    exact Nat.add_sub_add_left _ _ _
  rw [Parser.repeated, Parser.repeated, hleft]
  exact hp.repeatLoop b _ hfits 0 .start

/-! #### Probes -/

/-- A parser may fail with a message that tells the mode. -/
theorem reject (committed : Bool) : (reject committed : Parser α).Placeless := fun _ _ _ ↦
  .ok _

theorem span (n : Nat) : (span n).Placeless := fun _ _ _ ↦
  .ok _

end Parser.Placeless

end Descent
