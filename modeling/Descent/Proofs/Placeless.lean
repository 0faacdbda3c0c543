import Descent.Proofs.Finishes
import Descent.Proofs.NoFault
import Descent.Proofs.Shift

/-!
# A parse depends on the text behind it alone

Plans over rules do not know where in an input they are run: put a text in front of the input, and
everything they answer is the same but for the places in errors, which lie behind that text. Parsers
from outside may be parts if they are placeless themselves; they may look at the mode, and may even
have faults (`Plan.Placeless`).

The main statement, `depends_on_rest_alone`, compares the two runs in either mode. As every valid
place is the start of the text behind it, shifted, a parse from any place is as good as one of that
text by itself.
-/

namespace Descent

variable {ι : Type} {ρ : ι → Type} {α : Type}

/-- A part that does not look at what stands before it. -/
def Plan.Placeless : {α : Type} → Plan ρ α → Prop
  | _, ofParser p => p.Placeless
  | _, _ => True

/-- All parts of all rules are placeless. -/
def Grammar.Placeless (g : Grammar ρ) : Prop :=
  ∀ r, (g.body r).Every Plan.Placeless

open Descent.Parser in
/-- Placeless parts make a placeless parser if what the rules do is placeless. -/
theorem Plan.placeless_parser {call : ∀ r, Parser (ρ r)} (hcall : ∀ r, (call r).Placeless)
    {p : Plan ρ α} (hp : p.Every Placeless) : (p.parser call).Placeless := by
  induction p with
  | succeed a => exact Placeless.succeed a
  | fail message => exact Placeless.fail message
  | literal word => exact Placeless.literal word
  | pattern p => exact Placeless.pattern p
  | eof => exact Placeless.eof
  | anyChar => exact Placeless.anyChar
  | ofParser p => exact hp
  | rule r => exact hcall r
  | orElse p q ihp ihq => exact (ihp hp.2.1).orElse (ihq hp.2.2)
  | flatMap p f ihp ihf => exact (ihp hp.2.1).flatMap fun a ↦ ihf a (hp.2.2 a)
  | map p f ih => exact (ih hp.2).map f
  | map2 p q f ihp ihq => exact (ihp hp.2.1).map2 (ihq hp.2.2) f
  | repeated p b ih => exact (ih hp.2).repeated b
  | slice p ih => exact (ih hp.2).slice
  | attempt p ih => exact (ih hp.2).attempt
  | scope p message ih => exact (ih hp.2).scope message
  | label p message ih => exact (ih hp.2).label message
  | optional p ih => exact (ih hp.2).optional
  | retype p f ih => exact (ih hp.2).retype f
  | inMode p sliced ih => exact (ih hp.2).inMode sliced

namespace Grammar

variable {g : Grammar ρ} {p : Plan ρ α}

theorem Placeless.call (hg : g.Placeless) (depth : Nat) (r : ι) :
    (g.call depth r).Placeless := by
  induction depth generalizing r with
  | zero => exact fun _ _ _ ↦ .cut
  | succ depth ih => exact Plan.placeless_parser ih (hg r)

theorem Placeless.parserAt (hg : g.Placeless) (hp : p.Every Plan.Placeless) (depth : Nat) :
    (g.parserAt depth p).Placeless :=
  Plan.placeless_parser (hg.call depth) hp

section Shift

variable {before : String} {s : State}

/-- A run that has ended also ends behind a text in front of its input, and in the same way. -/
theorem Ends.exists_shift {answer : Except Fault (Outcome α)} (h : g.Ends p s answer)
    (hg : g.Placeless) (hp : p.Every Plan.Placeless)
    (hfits : (before ++ s.location.input).utf8ByteSize < textLimit) :
    ∃ answer', g.Ends p (s.shift before) answer' ∧
      Mirrors (Outcome.shift before) answer answer' := by
  obtain ⟨hne, depth, rfl⟩ := h
  have hmirrors := hg.parserAt hp depth before s hfits
  exact ⟨_, ⟨hmirrors.finishes_iff.1 hne, depth, rfl⟩, hmirrors⟩

/-- A run that has ended behind a text in front of its input also ends without it. -/
theorem Ends.exists_of_shift {answer : Except Fault (Outcome α)}
    (h : g.Ends p (s.shift before) answer) (hg : g.Placeless) (hp : p.Every Plan.Placeless)
    (hfits : (before ++ s.location.input).utf8ByteSize < textLimit) :
    ∃ answer', g.Ends p s answer' ∧ Mirrors (Outcome.shift before) answer' answer := by
  obtain ⟨hne, depth, rfl⟩ := h
  have hmirrors := hg.parserAt hp depth before s hfits
  exact ⟨_, ⟨hmirrors.finishes_iff.2 hne, depth, rfl⟩, hmirrors⟩

/-- Successes say nothing of the place, so they are the same in both runs. -/
theorem ends_shift_success_iff (hg : g.Placeless) (hp : p.Every Plan.Placeless)
    (hfits : (before ++ s.location.input).utf8ByteSize < textLimit) {y : Yield α} {n : Nat} :
    g.Ends p (s.shift before) (.ok (.success y n)) ↔ g.Ends p s (.ok (.success y n)) := by
  constructor
  · intro h
    obtain ⟨answer, hends, hmirrors⟩ := h.exists_of_shift hg hp hfits
    obtain ⟨o, rfl, ho⟩ := hmirrors.exists_of_ok
    cases o with
    | success z m => exact ho ▸ hends
    | failure e committed => cases ho
  · intro h
    obtain ⟨answer, hends, hmirrors⟩ := h.exists_shift hg hp hfits
    exact hmirrors.eq_ok ▸ hends

end Shift

/-! ### Whole texts -/

/-- A success at the start of a text is the result of a run on the text. -/
theorem Ends.runEnds {text : String} {o : Outcome α} (h : g.Ends p (.start text) (.ok o)) :
    g.RunEnds p text (o.extract text) := by
  obtain ⟨-, depth, hok⟩ := h
  refine ⟨(o.stepFaults_extract text).finishes, depth, ?_⟩
  rw [Parser.run, hok, ok_bind]

/-- The value of a run is what has been read of a success. -/
theorem RunEnds.exists_ends {text : String} {a : α} (h : g.RunEnds p text (.ok (.ok a))) :
    ∃ y n, g.Ends p (.start text) (.ok (.success y n)) ∧
      (Outcome.success y n).extract text = .ok (.ok a) := by
  obtain ⟨-, depth, hrun⟩ := h
  rw [Parser.run] at hrun
  rcases hok : g.parserAt depth p (.start text) with fault | ⟨y, n⟩ | ⟨e, committed⟩
  · rw [hok] at hrun
    cases hrun
  · rw [hok, ok_bind] at hrun
    exact ⟨y, n, ends_of_ok hok, hrun⟩
  · rw [hok, ok_bind] at hrun
    cases hrun

/-- **A parse depends on the text behind it alone.** Put a text in front of an input, and run a
placeless plan behind it, in either mode: the run ends if and only if it does without that text, and
it ends in the same way. That is, with the same kind of success and the same length, of which the
same value can be read or none; or with the same commitment and the same error, but for the places
of its frames, which are shifted; or both times with a fault. So a success with slicing off, read in
the text behind the place where it began, is what a run on that text gives. -/
theorem depends_on_rest_alone (hg : g.Placeless) (hp : p.Every Plan.Placeless) :
    (∀ (before text : String) (mode : Bool), (before ++ text).utf8ByteSize < textLimit →
      ∀ first later : State, first = (State.start text).withSlicing mode →
        later = ((State.start (before ++ text)).jump before.utf8ByteSize).withSlicing mode →
          ((∃ answer, g.Ends p first answer) ↔ ∃ answer, g.Ends p later answer) ∧
          (∀ answer answer', g.Ends p first answer → g.Ends p later answer' →
            Mirrors (Outcome.shift before) answer answer') ∧
          (∀ (y : Yield α) n, y.read later n = y.read first n)) ∧
    (∀ (s : State) (text : String), s.location.Valid → s.sliced = false →
      s.location.remaining = .ok text →
        (∀ y n, g.Ends p s (.ok (.success y n)) →
          g.RunEnds p text ((Outcome.success y n).extract text)) ∧
        (∀ a, g.RunEnds p text (.ok (.ok a)) →
          ∃ y n, g.Ends p s (.ok (.success y n)) ∧
            (Outcome.success y n).extract text = .ok (.ok a))) := by
  refine ⟨?_, ?_⟩
  · rintro before text mode hfits first later rfl rfl
    have hlater : ((State.start (before ++ text)).jump before.utf8ByteSize).withSlicing mode =
        ((State.start text).withSlicing mode).shift before := by
      rw [State.shift, State.jump, State.withSlicing, State.withSlicing]
      exact congrArg (State.mk · mode) (Location.shift_start before text).symm
    rw [hlater]
    refine ⟨⟨?_, ?_⟩, ?_, fun y n ↦ y.read_shift _ n⟩
    · rintro ⟨answer, h⟩
      obtain ⟨answer', hends, -⟩ := h.exists_shift hg hp hfits
      exact ⟨answer', hends⟩
    · rintro ⟨answer, h⟩
      obtain ⟨answer', hends, -⟩ := h.exists_of_shift hg hp hfits
      exact ⟨answer', hends⟩
    · intro answer answer' h h'
      obtain ⟨answer'', hends, hmirrors⟩ := h.exists_shift hg hp hfits
      exact h'.unique hends ▸ hmirrors
  · intro s text hs hoff htext
    -- The place is the start of the text behind it, shifted by what stands before.
    obtain ⟨before, hbefore⟩ := hs.exists_shift
    obtain rfl : String.ofList s.location.behind = text := by
      rw [Location.remaining, hs.rest_eq] at htext
      cases htext
      rfl
    generalize String.ofList s.location.behind = text at *
    obtain rfl : s = (State.start text).shift before := by
      rw [State.shift, State.start, ← hbefore, ← hoff]
    have hfits : (before ++ text).utf8ByteSize < textLimit := hs.fits
    refine ⟨fun y n h ↦ ?_, fun a h ↦ ?_⟩
    · exact ((ends_shift_success_iff hg hp hfits).1 h).runEnds
    · obtain ⟨y, n, hends, hread⟩ := h.exists_ends
      exact ⟨y, n, (ends_shift_success_iff hg hp hfits).2 hends, hread⟩

theorem nested_placeless : nested.Placeless := fun _ ↦
  ⟨trivial, ⟨trivial, trivial, ⟨trivial, trivial, trivial⟩, trivial⟩, trivial, trivial, trivial⟩

/-- Behind `é(`, which is three bytes long, brackets around an `x` are what they are by themselves.
What must be the end of the input and is not is complained about three bytes further on. -/
theorem nested_behind_text :
    (∃ e, nested.Ends (Plan.rule ()).root
        (((State.start ("é(" ++ "(x)!")).jump "é(".utf8ByteSize).withSlicing true)
        (.ok (.failure e false)) ∧
      e.frames.map (fun frame ↦ (frame.location.offset, frame.message)) =
        [(3 + 3, "end of input")]) ∧
    nested.RunEnds (.rule ()) "(x)!" (.ok (.ok 1)) := by
  have hroot : (Plan.root (ρ := fun _ : Unit ↦ Nat) (.rule ())).Every Plan.Placeless :=
    ⟨trivial, trivial, trivial⟩
  refine ⟨?_, ?_⟩
  · have halone : nested.Ends (Plan.rule ()).root ((State.start "(x)!").withSlicing true)
        (.ok (.failure (((Location.start "(x)!").jump 3).error "end of input") false)) :=
      ⟨nofun, 4, rfl⟩
    obtain ⟨hends, hmirrors, -⟩ := (depends_on_rest_alone nested_placeless hroot).1
      "é(" "(x)!" true (by decide) _ _ rfl rfl
    obtain ⟨answer, hlater⟩ := hends.1 ⟨_, halone⟩
    have hfailure := (hmirrors _ _ halone hlater).eq_ok
    exact ⟨_, hfailure ▸ hlater, rfl⟩
  · have hrun : nested.Ends (.rule ()) ((State.start "é((x)!").jump 3)
        (.ok (.success (.value 1) 3)) := ⟨nofun, 4, rfl⟩
    have hplace : ((State.start "é((x)!").jump 3).location.Valid := ⟨by decide, rfl⟩
    exact ((depends_on_rest_alone nested_placeless (p := .rule ()) trivial).2 _ "(x)!" hplace rfl
      rfl).1 _ _ hrun

end Grammar

end Descent
