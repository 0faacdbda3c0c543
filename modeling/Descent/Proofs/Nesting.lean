import Descent.Proofs.Commitment

/-!
# How the frames of an error nest

An error is a stack of frames. The innermost one is made where a primitive fails, which may be
further on than where that primitive started; each `scope` that the failure passes through on its
way out adds a frame where the scope itself started. Since a part starts where the whole does or
further on, the frames nest: read from the inside out their offsets never increase, and none lies
before the place where the parse started (`FramesNest`).

This is a law of failures like the others, and the combinators that hand on failures from further on
(`map2`, `flatMap`, `repeated`) keep to it because a law of nested frames at one place holds at each
place before it (`FramesNest.of_jump`). Together with safety, by which frames lie between characters
of the input, it says where the frames of an error can be: `frames_nest`.
-/

namespace Descent

variable {ι : Type} {ρ : ι → Type} {α : Type}

/-! ### Offsets of frames -/

namespace ParseError

/-- The offsets of the frames, from the inside out. -/
def offsets (e : ParseError) : List Nat :=
  e.frames.map (·.location.offset)

@[simp]
theorem offsets_error (l : Location) (message : String) : (l.error message).offsets = [l.offset] :=
  rfl

@[simp]
theorem offsets_push (e : ParseError) (l : Location) (message : String) :
    (e.push l message).offsets = e.offsets ++ [l.offset] := by
  simp [offsets]

@[simp]
theorem offsets_label (e : ParseError) (message : String) :
    (e.label message).offsets = e.offsets :=
  rfl

end ParseError

/-- No frame lies before the place where the parser started, and none lies behind one inside of
it. -/
def FramesNest : FailureLaw := fun l e _ ↦
  (∀ n ∈ e.offsets, l.offset ≤ n) ∧ e.offsets.Pairwise (· ≥ ·)

namespace FramesNest

variable {l : Location} {e : ParseError} {committed : Bool}

theorem error (l : Location) (message : String) (committed : Bool) :
    FramesNest l (l.error message) committed := by
  simp [FramesNest]

/-- What nests at a place further on also does here. -/
theorem of_jump {n : Nat} {committed' : Bool} (h : FramesNest (l.jump n) e committed) :
    FramesNest l e committed' := by
  refine ⟨fun m hm ↦ ?_, h.2⟩
  have hle : l.offset + n ≤ m := h.1 m hm
  omega

/-- A frame where the parser started lies behind none of the others, so it may stand around
them. -/
theorem push (h : FramesNest l e committed) (message : String) :
    FramesNest l (e.push l message) committed := by
  obtain ⟨hbehind, hsorted⟩ := h
  refine ⟨fun n hn ↦ ?_, ?_⟩
  · rw [ParseError.offsets_push] at hn
    rcases List.mem_append.1 hn with hin | hout
    · exact hbehind n hin
    · exact Nat.le_of_eq (List.mem_singleton.1 hout).symm
  · rw [ParseError.offsets_push]
    refine List.pairwise_append.2 ⟨hsorted, List.pairwise_singleton _ _, fun n hn m hm ↦ ?_⟩
    rw [List.mem_singleton.1 hm]
    exact hbehind n hn

end FramesNest

/-! ### Plans -/

/-- A part that has errors of its own in the right places: an upper bound is a machine word, and a
parser from outside is safe and its frames nest. -/
def Plan.Nesting : {α : Type} → Plan ρ α → Prop
  | _, ofParser p => p.Safe ∧ p.Obeys FramesNest
  | _, repeated _ b => b.Fits
  | _, inMode _ _ => False
  | _, _ => True

/-- All parts of all rules have errors of their own in the right places. -/
def Grammar.Nesting (g : Grammar ρ) : Prop :=
  ∀ r, (g.body r).Every Plan.Nesting

theorem Plan.Nesting.harmless {q : Plan ρ α} (h : q.Nesting) : q.Harmless := by
  cases q with
  | ofParser p => exact h.1
  | repeated p b => exact h
  | inMode p sliced => exact h.elim
  | _ => trivial

open Descent.Parser in
/-- The frames of a plan nest if those of its rules do. -/
theorem Plan.obeys_framesNest {call : ∀ r, Parser (ρ r)} (hcall : ∀ r, (call r).Obeys FramesNest)
    {p : Plan ρ α} (hp : p.Every Nesting) : (p.parser call).Obeys FramesNest := by
  induction p with
  | succeed a => exact Obeys.succeed a
  | fail message => exact Obeys.fail fun l ↦ .error l message true
  | literal word =>
    exact Obeys.literal fun l text n _ ↦ (FramesNest.error (l.jump n) _ (n != 0)).of_jump
  | pattern p => exact Obeys.pattern fun l message ↦ .error l message false
  | eof => exact Obeys.eof fun l message ↦ .error l message false
  | anyChar => exact Obeys.anyChar fun l message ↦ .error l message false
  | ofParser p => exact hp.2
  | rule r => exact hcall r
  | orElse p q ihp ihq => exact (ihp hp.2.1).orElse (ihq hp.2.2) fun _ _ h ↦ h
  | flatMap p f ihp ihf =>
    exact (ihp hp.2.1).flatMap (fun a ↦ ihf a (hp.2.2 a)) fun l n e committed h ↦ h.of_jump
  | map p f ih => exact (ih hp.2).map f
  | map2 p q f ihp ihq =>
    exact (ihp hp.2.1).map2 (ihq hp.2.2) (fun l n e committed h ↦ h.of_jump) f
  | repeated p b ih => exact (ih hp.2).repeated fun l n count e committed _ _ h ↦ h.of_jump
  | slice p ih => exact (ih hp.2).slice
  | attempt p ih => exact (ih hp.2).attempt fun l e committed h ↦ h
  | scope p message ih => exact (ih hp.2).scope fun l e committed h ↦ h.push message
  | label p message ih => exact (ih hp.2).label fun l e committed h ↦ h
  | optional p ih => exact (ih hp.2).optional fun _ _ h ↦ h
  | retype p f ih => exact (ih hp.2).retype f
  | inMode p sliced ih => exact hp.1.elim

namespace Grammar

variable {g : Grammar ρ} {p : Plan ρ α}

theorem Nesting.obeys_call (hg : g.Nesting) (depth : Nat) (r : ι) :
    (g.call depth r).Obeys FramesNest := by
  induction depth generalizing r with
  | zero => exact fun _ ↦ nofun
  | succ depth ih => exact Plan.obeys_framesNest ih (hg r)

theorem Nesting.obeys (hg : g.Nesting) (hp : p.Every Plan.Nesting) (depth : Nat) :
    (g.parserAt depth p).Obeys FramesNest :=
  Plan.obeys_framesNest (hg.obeys_call depth) hp

/-- What a run over nesting plans fails with lies in the input. -/
theorem Ends.liesIn (hg : g.Nesting) (hp : p.Every Plan.Nesting) {s : State}
    (hs : s.location.Valid) {e : ParseError} {committed : Bool}
    (h : g.Ends p s (.ok (.failure e committed))) : e.LiesIn s.location.input := by
  obtain ⟨-, depth, hok⟩ := h
  have hsafe : (g.parserAt depth p).Safe :=
    safe_of_harmless (fun r ↦ (hg r).imp fun _ ↦ Plan.Nesting.harmless) depth
      (hp.imp fun _ ↦ Plan.Nesting.harmless)
  obtain - | he := (hsafe s hs).of_ok hok
  exact he

/-- **The frames of an error nest.** An error of a run from a valid place has at least one frame.
Each frame lies in the same input, between two characters, and not before the place where the run
started; and read from the inside out, the offsets of the frames never increase. -/
theorem frames_nest (hg : g.Nesting) (hp : p.Every Plan.Nesting) {s : State}
    (hs : s.location.Valid) {e : ParseError} {committed : Bool}
    (h : g.Ends p s (.ok (.failure e committed))) :
    0 < e.size ∧
    (∀ frame ∈ e.frames, frame.location.input = s.location.input ∧
      s.offset ≤ frame.location.offset ∧
      frame.location.offset ≤ s.location.input.utf8ByteSize ∧
      ∃ before behind, s.location.input.toList = before ++ behind ∧
        Text.byteLength before = frame.location.offset) ∧
    e.frames.Pairwise fun inner outer ↦ outer.location.offset ≤ inner.location.offset := by
  obtain ⟨hbehind, hsorted⟩ := h.obeys (hg.obeys hp)
  refine ⟨e.size_pos, fun frame hframe ↦ ?_, List.pairwise_map.1 hsorted⟩
  obtain ⟨hvalid, hinput⟩ := h.liesIn hg hp hs frame hframe
  obtain ⟨before, hsplit, hlength⟩ := hvalid.exists_before_append
  refine ⟨hinput, hbehind _ (List.mem_map_of_mem hframe), ?_, before, frame.location.behind, ?_,
    hlength⟩
  · exact hinput ▸ hvalid.offset_le
  · rw [← hinput, hsplit]

/-- An item of a list: brackets in brackets around an `x`, and what they are called. -/
def item : Plan (fun _ : Unit ↦ String) String :=
  (Plan.rule ()).scope "item"

/-- The second item of a list lacks a bracket. The error has a frame where that is missing, one
where the item starts, and one where the list does, behind the text in front of it. -/
theorem list_unclosed_frames_nest :
    ∃ e, stepwise.Ends ((item.sepBy (.literal ",")).scope "list") ((State.start "=x,((x)").jump 1)
        (.ok (.failure e true)) ∧
      e.offsets = [7, 3, 1] ∧
      e.frames.Pairwise fun inner outer ↦ outer.location.offset ≤ inner.location.offset := by
  have hrun : stepwise.Ends ((item.sepBy (.literal ",")).scope "list")
      ((State.start "=x,((x)").jump 1) (.ok (.failure
        (((((Location.start "=x,((x)").jump 7).error "')'").push
          ((Location.start "=x,((x)").jump 3) "item").push
            ((Location.start "=x,((x)").jump 1) "list") true)) := ⟨nofun, 4, rfl⟩
  have hrules : stepwise.Nesting := fun _ ↦
    ⟨trivial, ⟨trivial, trivial, fun _ ↦ ⟨trivial, trivial, fun _ ↦ ⟨trivial, trivial⟩⟩⟩, trivial⟩
  have hlist : ((item.sepBy (.literal ",")).scope "list").Every Plan.Nesting :=
    ⟨trivial, trivial, trivial, trivial, ⟨trivial, trivial⟩,
      nofun, trivial, trivial, trivial, trivial⟩
  have hplace : ((State.start "=x,((x)").jump 1).location.Valid := ⟨by decide, rfl⟩
  exact ⟨_, hrun, rfl, (frames_nest hrules hlist hplace hrun).2.2⟩

end Grammar

end Descent
