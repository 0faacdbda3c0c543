import Descent.Proofs.Placeless
import Descent.Proofs.Sequence
import Descent.Proofs.Slicing

/-!
# Whole inputs

`root` asks that its parser consumes all of the input. It is a sequence whose second part is the
end of the input, so its success is that of the parser, and its failure is the parser's or lies
where the parser has stopped (`Parser.root_of_whole` and its companions). Values are read at the
start: the end of the input has a value of its own, but `root` drops it.

In slicing mode the sequence takes other ways, depending on what the parser gives, since the end of
the input gives a value in either mode. Nothing of this is looked at here: that both modes recognize
the same is known of all lawful plans. So a sliced `root` accepts the same inputs, gives the input
itself, and fails in the same way (`Grammar.root_accepts_whole_inputs`).
-/

namespace Descent

variable {ι : Type} {ρ : ι → Type} {α : Type}

namespace Location

/-- Nothing stands behind a place exactly if it is the end of its input. -/
theorem Valid.behind_eq_nil_iff {l : Location} (h : l.Valid) :
    l.behind = [] ↔ l.offset = l.input.utf8ByteSize := by
  rw [← Text.byteLength_eq_zero_iff]
  have := h.offset_add_byteLength
  omega

/-- The text from the start to the end is the input. -/
theorem text_start (input : String) : (start input).text input.utf8ByteSize = input := by
  have hwhole : Text.takeBytes? (input.toList ++ []) (Text.byteLength input.toList) =
      some input.toList := Text.takeBytes?_append _ _
  rw [List.append_nil, Text.byteLength_toList] at hwhole
  rw [text, rest?_start, Option.bind_some, hwhole, Option.getD_some, String.ofList_toList]

end Location

namespace Parser

variable {p : Parser α} {s : State} {y : Yield α} {n : Nat}

theorem eof_of_end (hs : s.location.Valid) (h : s.offset = s.location.input.utf8ByteSize) :
    eof s = .ok (.value () 0) := by
  rw [eof_eq hs, hs.behind_eq_nil_iff.2 h]

theorem eof_of_lt (hs : s.location.Valid) (h : s.offset < s.location.input.utf8ByteSize) :
    eof s = .ok (.failure (s.location.error "end of input") false) := by
  rw [eof_eq hs]
  rcases hbehind : s.location.behind with - | ⟨c, cs⟩
  · have hend : s.offset = _ := hs.behind_eq_nil_iff.1 hbehind
    omega
  · rfl

/-- With slicing off, a parser that reaches the end of the input has its value read. -/
theorem root_of_whole (hoff : s.sliced = false) (hn : (s.jump n).location.Valid)
    (hend : s.offset + n = s.location.input.utf8ByteSize) (run : p s = .ok (.success y n)) {a : α}
    (ha : y.read s n = .ok a) : p.root s = .ok (.success (.value a) n) := by
  have heof : eof (s.jump n) = .ok (.success (.value ()) 0) := eof_of_end hn hend
  rw [root, skip, map2_of_successes hn run heof]
  exact pair_of_reads hoff hn ha rfl

/-- In either mode, one that stops in front of it fails there. -/
theorem root_of_lt (hn : (s.jump n).location.Valid)
    (hlt : s.offset + n < s.location.input.utf8ByteSize) (run : p s = .ok (.success y n)) :
    p.root s = .ok (.failure (.single (s.jump n).location "end of input") false) :=
  map2_of_second_failure hn run (eof_of_lt hn hlt)

theorem root_of_failure {e : ParseError} {committed : Bool}
    (run : p s = .ok (.failure e committed)) : p.root s = .ok (.failure e committed) :=
  map2_of_failure run

end Parser

namespace Grammar

variable {g : Grammar ρ} {p : Plan ρ α} {input : String}

theorem Ends.root {s : State} {o o' : Outcome α} (h : g.Ends p s (.ok o))
    (hroot : ∀ q : Parser α, q s = .ok o → q.root s = .ok o') : g.Ends p.root s (.ok o') := by
  obtain ⟨-, depth, run⟩ := h
  exact ends_of_ok (hroot (g.parserAt depth p) run)

/-- A plan whose parse of an input ends has one run on it, which hands back the result. -/
theorem Ends.runEnds_iff {o : Outcome α} (h : g.Ends p (.start input) (.ok o))
    {answer : Except Fault (Except ParseError α)} :
    g.RunEnds p input answer ↔ answer = o.extract input := by
  constructor
  · rintro ⟨hne, depth, rfl⟩
    rw [Parser.run] at hne ⊢
    have hends : g.Ends p (.start input) (g.parserAt depth p (.start input)) :=
      ⟨fun hcut ↦ hne (by rw [hcut]; rfl), depth, rfl⟩
    rw [hends.unique h, ok_bind]
  · rintro rfl
    exact h.runEnds

section Root

variable (hg : g.Lawful) (hp : p.Lawful) (hinput : input.utf8ByteSize < textLimit)

include hg hp hinput

/-- A plan that matches the whole input has a value there. Its root is run to that value, and the
slice of its root to the input. -/
theorem Ends.exists_root_whole {y : Yield α}
    (h : g.Ends p (.start input) (.ok (.success y input.utf8ByteSize))) :
    ∃ a, y.read (.start input) input.utf8ByteSize = .ok a ∧
      (∀ answer, g.RunEnds p.root input answer ↔ answer = .ok (.ok a)) ∧
      ∀ answer, g.RunEnds p.root.slice input answer ↔ answer = .ok (.ok input) := by
  have hstart : (State.start input).location.Valid := Location.valid_start hinput
  have hlawful : p.root.Lawful := ⟨trivial, hp, trivial⟩
  obtain ⟨_, heq, hwithin⟩ := h.within hg hp hstart
  cases heq
  rcases hwithin with ⟨hend, hbare⟩ | -
  obtain ⟨a, ha⟩ := Yield.exists_get? (hbare rfl)
    ((State.start input).location.text input.utf8ByteSize)
  have hread : y.read (.start input) input.utf8ByteSize = .ok a := Yield.read_eq hstart hend ha
  have htext : (Yield.text id).read (.start input) input.utf8ByteSize = .ok input :=
    Yield.read_eq hstart hend (congrArg some (Location.text_start input))
  have hroot : g.Ends p.root (.start input)
      (.ok (.success (.value a) input.utf8ByteSize)) :=
    h.root fun q run ↦ Parser.root_of_whole rfl hend (Nat.zero_add _) run hread
  have hslice := (ends_slice_success_iff hg hlawful hstart).2 ⟨rfl, _, hroot⟩
  refine ⟨a, hread, fun answer ↦ hroot.runEnds_iff, fun answer ↦ ?_⟩
  rw [hslice.runEnds_iff, Outcome.extract, Outcome.read, htext]
  rfl

/-- If the root fails, then it and its slice are run to the same error. -/
theorem Ends.runEnds_root_failure {e : ParseError} {committed : Bool}
    (h : g.Ends p.root (.start input) (.ok (.failure e committed))) :
    (∀ answer, g.RunEnds p.root input answer ↔ answer = .ok (.error e)) ∧
      ∀ answer, g.RunEnds p.root.slice input answer ↔ answer = .ok (.error e) := by
  have hstart : (State.start input).location.Valid := Location.valid_start hinput
  have hlawful : p.root.Lawful := ⟨trivial, hp, trivial⟩
  have hslice := (ends_slice_failure_iff hg hlawful hstart).2 h
  exact ⟨fun answer ↦ h.runEnds_iff, fun answer ↦ hslice.runEnds_iff⟩

/-- **A root accepts exactly the inputs that its plan matches as a whole.** If the parse of an input
by a lawful plan ends, then the runs of its root and of its sliced root have one answer each, which
is no fault. The root hands back a value if and only if the plan, with slicing off, consumes the
whole input and has this value. If the plan consumes less, the answer is an error with the one frame
"end of input" where it stopped, and if the plan fails, its own error. The sliced root accepts the
same inputs and hands back the input, and its errors are the same. -/
theorem root_accepts_whole_inputs (hends : ∃ answer, g.Ends p (.start input) answer) :
    ∃ result sliced,
      (∀ answer, g.RunEnds p.root input answer ↔ answer = .ok result) ∧
      (∀ answer, g.RunEnds p.root.slice input answer ↔ answer = .ok sliced) ∧
      (∀ a, result = .ok a ↔ ∃ y,
        g.Ends p (.start input) (.ok (.success y input.utf8ByteSize)) ∧
          y.read (.start input) input.utf8ByteSize = .ok a) ∧
      (∀ y n, g.Ends p (.start input) (.ok (.success y n)) → n < input.utf8ByteSize →
        result = .error (.single ((Location.start input).jump n) "end of input")) ∧
      (∀ e committed, g.Ends p (.start input) (.ok (.failure e committed)) →
        result = .error e) ∧
      (∀ t, sliced = .ok t ↔ t = input ∧ ∃ a, result = .ok a) ∧
      (∀ e, sliced = .error e ↔ result = .error e) := by
  have hstart : (State.start input).location.Valid := Location.valid_start hinput
  obtain ⟨answer, h⟩ := hends
  obtain ⟨o, rfl, hwithin⟩ := h.within hg hp hstart
  -- Each part of the statement is about the one outcome that there is.
  have honly : ∀ o', g.Ends p (.start input) (.ok o') ↔ o' = o := fun o' ↦
    ⟨fun h' ↦ Except.ok.inj (h'.unique h), fun heq ↦ heq ▸ h⟩
  simp only [honly]
  rcases hwithin with @⟨y, n, hn, -⟩ | @⟨e, committed⟩
  · have hle : 0 + n ≤ input.utf8ByteSize := hn.offset_le
    rcases Nat.lt_or_eq_of_le hle with hlt | hend
    · have hroot := h.root fun q run ↦ Parser.root_of_lt hn hlt run
      obtain ⟨hrun, hslice⟩ := hroot.runEnds_root_failure hg hp hinput
      have hne : input.utf8ByteSize ≠ n := by omega
      refine ⟨_, _, hrun, hslice, ?_⟩
      simp [hne, State.start]
    · obtain rfl : n = input.utf8ByteSize := by omega
      obtain ⟨a, ha, hrun, hslice⟩ := h.exists_root_whole hg hp hinput
      refine ⟨_, _, hrun, hslice, ?_⟩
      simpa [ha] using fun t ↦ eq_comm
  · have hroot := h.root fun q run ↦ Parser.root_of_failure run
    obtain ⟨hrun, hslice⟩ := hroot.runEnds_root_failure hg hp hinput
    refine ⟨_, _, hrun, hslice, ?_⟩
    simp

end Root

/-- Brackets that end with their input have a value, and the text of them is all of it. With one
letter more the answer is an error behind them, sliced or not. -/
theorem nested_whole :
    nested.RunEnds (Plan.rule ()).root "(x)" (.ok (.ok 1)) ∧
      nested.RunEnds (Plan.rule ()).root.slice "(x)" (.ok (.ok "(x)")) ∧
      nested.RunEnds (Plan.rule ()).root.slice "(x)é"
        (.ok (.error (.single ((Location.start "(x)é").jump 3) "end of input"))) := by
  have hwhole : nested.Ends (.rule ()) (.start "(x)") (.ok (.success (.value 1) 3)) :=
    ⟨nofun, 4, rfl⟩
  have hfront : nested.Ends (.rule ()) (.start "(x)é") (.ok (.success (.value 1) 3)) :=
    ⟨nofun, 4, rfl⟩
  obtain ⟨result, sliced, hrun, hslice, hok, -, -, htext, -⟩ :=
    root_accepts_whole_inputs nested_lawful (p := .rule ()) trivial (by decide) ⟨_, hwhole⟩
  obtain ⟨result', sliced', -, hslice', -, hstops, -, -, herror⟩ :=
    root_accepts_whole_inputs nested_lawful (p := .rule ()) trivial (by decide) ⟨_, hfront⟩
  have hresult : result = .ok 1 := (hok 1).2 ⟨_, hwhole, rfl⟩
  have hsliced : sliced = .ok "(x)" := (htext _).2 ⟨rfl, 1, hresult⟩
  have hsliced' : sliced' = .error _ := (herror _).2 (hstops _ _ hfront (by decide))
  exact ⟨(hrun _).2 (congrArg _ hresult.symm), (hslice _).2 (congrArg _ hsliced.symm),
    (hslice' _).2 (congrArg _ hsliced'.symm)⟩

end Grammar

end Descent
