import Descent.Grammar
import Descent.Proofs.Computation

/-!
# Depth does not matter

Rules are evaluated to a given depth of calls, and a run that needs more is cut off. A deeper run
does the same as a shallower one as far as that gets (`Grammar.cutFrom_parserAt`), for any plans and
rules at all. So a run that is not cut off at some depth has one answer, which all deeper runs give
as well: this is what it comes to, `Grammar.Ends`, and what "the evaluation ends" means.
-/

namespace Descent

variable {ι : Type} {ρ : ι → Type} {α β γ : Type}

/-- The parser `p` does what `q` does, as far as it gets. -/
def Parser.CutFrom (q p : Parser α) : Prop :=
  ∀ s, Descent.CutFrom (q s) (p s)

namespace Parser.CutFrom

theorem refl (p : Parser α) : CutFrom p p := fun s ↦
  Descent.CutFrom.refl (p s)

section

variable {p q p' q' : Parser α}

theorem orElse (hp : CutFrom p' p) (hq : CutFrom q' q) :
    CutFrom (p'.orElse q') (p.orElse q) := by
  intro s
  refine (hp s).bind fun o ↦ ?_
  split
  · exact hq s
  · exact .refl _

/-- Nothing depends on how the answer of a single parser is used. -/
theorem after (hp : CutFrom p' p) (k : State → Outcome α → Except Fault (Outcome β)) :
    CutFrom (fun s ↦ p' s >>= k s) fun s ↦ p s >>= k s := fun s ↦
  (hp s).bind fun _ ↦ .refl _

theorem slice (hp : CutFrom p' p) : CutFrom p'.slice p.slice := fun s ↦
  (hp (s.withSlicing true)).bind fun _ ↦ .refl _

theorem inMode (hp : CutFrom p' p) (sliced : Bool) :
    CutFrom (p'.inMode sliced) (p.inMode sliced) := fun s ↦
  hp (s.withSlicing sliced)

theorem map2 {r r' : Parser β} (hp : CutFrom p' p) (hr : CutFrom r' r) (f : α → β → γ) :
    CutFrom (p'.map2 r' f) (p.map2 r f) := by
  intro s
  refine (hp s).bind fun o ↦ ?_
  cases o with
  | success y m => exact (Descent.CutFrom.refl _).bind fun next ↦ (hr next).bind fun _ ↦ .refl _
  | failure e committed => exact .refl _

theorem flatMap {f f' : α → Parser β} (hp : CutFrom p' p) (hf : ∀ a, CutFrom (f' a) (f a)) :
    CutFrom (p'.flatMap f') (p.flatMap f) := by
  intro s
  refine (hp (s.withSlicing false)).bind fun o ↦ ?_
  refine (Descent.CutFrom.refl _).bind fun r ↦ ?_
  cases r with
  | value a n =>
    exact (Descent.CutFrom.refl _).bind fun next ↦ (hf a next).bind fun _ ↦ .refl _
  | failure e committed => exact .refl _

theorem repeated (hp : CutFrom p' p) (b : Bounds) : CutFrom (p'.repeated b) (p.repeated b) := by
  intro s
  unfold Parser.repeated
  -- Turns differ in budget, start, jump and progress, so the loop is taken at any of these.
  generalize b.allowance _ = budget
  generalize 0 = jump
  generalize Progress.start = done
  induction budget generalizing s jump done with
  | zero => exact .refl _
  | succ budget ih =>
    rw [Parser.repeatLoop, Parser.repeatLoop]
    refine (Descent.CutFrom.refl _).bind fun here ↦ (hp here).bind fun o ↦ ?_
    cases o with
    | success y n =>
      refine (Descent.CutFrom.refl _).bind fun done ↦ ?_
      split
      · exact .refl _
      · exact ih here n done
    | failure e committed => exact .refl _

end

end Parser.CutFrom

/-- A plan over rules that are cut off earlier is itself cut off earlier. -/
theorem Plan.parser_cutFrom {call call' : ∀ r, Parser (ρ r)}
    (hcall : ∀ r, Parser.CutFrom (call' r) (call r)) (p : Plan ρ α) :
    Parser.CutFrom (p.parser call') (p.parser call) := by
  induction p with
  | rule r => exact hcall r
  | orElse p q ihp ihq => exact ihp.orElse ihq
  | flatMap p f ihp ihf => exact ihp.flatMap ihf
  | map p f ih => exact ih.after _
  | map2 p q f ihp ihq => exact ihp.map2 ihq f
  | repeated p b ih => exact ih.repeated b
  | slice p ih => exact ih.slice
  | attempt p ih | scope p _ ih | label p _ ih | optional p ih | retype p _ ih => exact ih.after _
  | inMode p sliced ih => exact ih.inMode sliced
  | _ => exact .refl _

namespace Grammar

variable (g : Grammar ρ)

theorem cutFrom_call (depth more : Nat) (r : ι) :
    Parser.CutFrom (g.call (depth + more) r) (g.call depth r) := by
  induction depth generalizing r with
  | zero => exact fun _ ↦ Or.inl rfl
  | succ depth ih =>
    rw [Nat.add_right_comm]
    exact (g.body r).parser_cutFrom ih

theorem cutFrom_parserAt (depth more : Nat) (p : Plan ρ α) :
    Parser.CutFrom (g.parserAt (depth + more) p) (g.parserAt depth p) :=
  p.parser_cutFrom (g.cutFrom_call depth more)

/-! ### What a run comes to -/

/-- The run of a plan ends with this answer, an outcome or a fault: it is not cut off, if calls may
go deep enough. -/
def Ends (p : Plan ρ α) (s : State) (answer : Except Fault (Outcome α)) : Prop :=
  answer ≠ .error .unfinished ∧ ∃ depth, g.parserAt depth p s = answer

/-- Running a plan on a whole input ends with this answer, a value or an error, or a fault. -/
def RunEnds (p : Plan ρ α) (input : String) (answer : Except Fault (Except ParseError α)) : Prop :=
  answer ≠ .error .unfinished ∧ ∃ depth, (g.parserAt depth p).run input = answer

variable {g}

theorem ends_of_ok {p : Plan ρ α} {s : State} {depth : Nat} {o : Outcome α}
    (h : g.parserAt depth p s = .ok o) : g.Ends p s (.ok o) :=
  ⟨nofun, depth, h⟩

/-- All deep enough runs give the answer. -/
theorem Ends.parserAt {p : Plan ρ α} {s : State} {answer : Except Fault (Outcome α)}
    (h : g.Ends p s answer) : ∃ depth, ∀ more, g.parserAt (depth + more) p s = answer := by
  obtain ⟨hne, depth, rfl⟩ := h
  exact ⟨depth, fun more ↦ ((g.cutFrom_parserAt depth more p s).eq_of_ne hne).symm⟩

/-- A run has one answer. -/
theorem Ends.unique {p : Plan ρ α} {s : State} {answer answer' : Except Fault (Outcome α)}
    (h : g.Ends p s answer) (h' : g.Ends p s answer') : answer = answer' := by
  obtain ⟨depth, hdeep⟩ := h.parserAt
  obtain ⟨depth', hdeep'⟩ := h'.parserAt
  rw [← hdeep depth', Nat.add_comm, hdeep' depth]

end Grammar

end Descent
