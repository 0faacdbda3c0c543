import Descent.Proofs.Calls

/-!
# Guarded rules end

Rules that refer to themselves may go on for ever, but not if they have consumed something before
they do. A plan is **guarded** (`Plan.Guarded`) if each rule in it stands behind a part that
consumes: in the second part of a `map2`, or in what a `flatMap` continues with, where the first
part is guarded itself and never succeeds without consuming something (`Grammar.Consumes`). That a
part consumes is a matter of what its runs end with, and not of what it is made of.

If the rules are guarded, then every run ends, of any plan over them (`guarded_rules_end`). What a
run needs is measured by depth alone: a call whose state has fewer bytes left than the depth is not
cut off. Either there is room for calls to begin with, or the plan is guarded, and there is room as
soon as something has been consumed (`Plan.HasRoom`). Both possibilities carry over to parts, which
is the one induction on plans (`Plan.finishes_parserAt`). Rules then follow by induction on the
depth, since the body of a rule is guarded.

Loops that use up their budget are cut off as well, and none does: without an upper bound, turns
move on through the input, and there are fewer of them than the budget allows
(`Parser.finishes_repeated`).
-/

namespace Descent

variable {ι : Type} {ρ : ι → Type} {α : Type}

/-- The plan never succeeds without consuming something. -/
def Grammar.Consumes (g : Grammar ρ) (p : Plan ρ α) : Prop :=
  ∀ s y n, s.location.Valid → g.Ends p s (.ok (.success y n)) → n ≠ 0

/-- Each rule in the plan stands behind a guarded part that consumes something. -/
def Plan.Guarded (g : Grammar ρ) : {α : Type} → Plan ρ α → Prop
  | _, rule _ => False
  | _, orElse p q => p.Guarded g ∧ q.Guarded g
  | _, flatMap p f => p.Guarded g ∧ (g.Consumes p ∨ ∀ a, (f a).Guarded g)
  | _, map p _ => p.Guarded g
  | _, map2 p q _ => p.Guarded g ∧ (g.Consumes p ∨ q.Guarded g)
  | _, repeated p _ => p.Guarded g
  | _, slice p => p.Guarded g
  | _, attempt p => p.Guarded g
  | _, scope p _ => p.Guarded g
  | _, label p _ => p.Guarded g
  | _, optional p => p.Guarded g
  | _, retype p _ => p.Guarded g
  | _, inMode p _ => p.Guarded g
  | _, _ => True

/-- All rules stand for guarded plans. -/
def Grammar.Guarded (g : Grammar ρ) : Prop :=
  ∀ r, (g.body r).Guarded g

/-- A part that has an answer where its own parts do: a parser from outside is not cut off, has no
fault and stays within the input, and an upper bound is a machine word. -/
def Plan.Answering : {α : Type} → Plan ρ α → Prop
  | _, ofParser p => ∀ s, s.location.Valid → ∃ o, p s = .ok o ∧ o.Within s
  | _, repeated _ b => b.Fits
  | _, inMode _ _ => False
  | _, _ => True

/-- All parts of all rules have answers where their own parts do. -/
def Grammar.Answering (g : Grammar ρ) : Prop :=
  ∀ r, (g.body r).Every Plan.Answering

theorem Plan.Answering.harmless {p : Plan ρ α} (h : p.Answering) : p.Harmless := by
  cases p with
  | ofParser p => exact fun s hs ↦ Or.inr (h s hs)
  | repeated p b => exact h
  | inMode p sliced => exact h.elim
  | _ => trivial

theorem Grammar.Answering.safe {g : Grammar ρ} (hg : g.Answering) (depth : Nat) {p : Plan ρ α}
    (hp : p.Every Plan.Answering) : (g.parserAt depth p).Safe :=
  safe_of_harmless (fun r ↦ (hg r).imp fun _ ↦ Plan.Answering.harmless) depth
    (hp.imp fun _ ↦ Plan.Answering.harmless)

/-- A word that is not empty consumes something. -/
theorem Grammar.consumes_literal (g : Grammar ρ) {word : String} (hword : word ≠ "") :
    g.Consumes (.literal word) := by
  rintro s y n hs ⟨-, depth, hok⟩
  rw [parserAt, Plan.parser, Parser.literal_eq hs] at hok
  dsimp only at hok
  split at hok
  · cases hok
    simpa using hword
  · cases hok

/-- Behind what a safe parser has consumed there is a valid place. -/
theorem Parser.Safe.valid_of_advance {p : Parser α} (hp : p.Safe) {s t : State} {mode : Bool}
    (hs : s.location.Valid) {y : Yield α} {n : Nat}
    (hok : p (s.withSlicing mode) = .ok (.success y n)) (hmove : s.advance n = .ok t) :
    t.location.Valid := by
  obtain ⟨hvalid, -⟩ | - := (hp (s.withSlicing mode) hs).of_ok hok
  obtain ⟨-, -, rfl⟩ := State.advance_eq_ok_iff.1 hmove
  exact hvalid

/-! ### Room for calls -/

/-- There is room for calls from `s`, now or as soon as something has been consumed. -/
def Plan.HasRoom (g : Grammar ρ) (depth : Nat) (p : Plan ρ α) (s : State) : Prop :=
  s.left < depth ∨ s.left ≤ depth ∧ p.Guarded g

namespace Plan.HasRoom

variable {g : Grammar ρ} {depth : Nat} {p : Plan ρ α} {s t : State}

/-- A part that is guarded if the whole is has room where the whole does. -/
theorem part {β : Type} {q : Plan ρ β} (h : p.HasRoom g depth s)
    (hpart : p.Guarded g → q.Guarded g) : q.HasRoom g depth s :=
  h.imp_right fun ⟨hleft, hp⟩ ↦ ⟨hleft, hpart hp⟩

/-- There is room further on. -/
theorem of_left_le (h : p.HasRoom g depth s) (hleft : t.left ≤ s.left) : p.HasRoom g depth t :=
  h.imp (Nat.lt_of_le_of_lt hleft) fun ⟨hs, hp⟩ ↦ ⟨Nat.le_trans hleft hs, hp⟩

/-- What follows a part has room, if that part consumes something or what follows is guarded. -/
theorem behind {β : Type} {q : Plan ρ β} {n : Nat} (h : p.HasRoom g depth s)
    (hmove : s.advance n = .ok t) (hnext : p.Guarded g → n ≠ 0 ∨ q.Guarded g) :
    q.HasRoom g depth t := by
  have hleft : t.left + n = s.left := State.left_of_advance hmove
  rcases h with hroom | ⟨hroom, hp⟩
  · exact Or.inl (by omega)
  · rcases hnext hp with hn | hq
    · exact Or.inl (by omega)
    · exact Or.inr ⟨by omega, hq⟩

end Plan.HasRoom

open Descent.Parser in
/-- A run with room for calls is not cut off, if calls with room are not. -/
theorem Plan.finishes_parserAt {g : Grammar ρ} (hg : g.Answering) {depth : Nat}
    (hcall : ∀ r s, s.location.Valid → s.left < depth → Finishes (g.call depth r s))
    {p : Plan ρ α} (hp : p.Every Answering) {s : State} (hs : s.location.Valid)
    (hroom : p.HasRoom g depth s) : Finishes (g.parserAt depth p s) := by
  induction p generalizing s with
  | succeed a => exact nofun
  | fail message => exact nofun
  | literal word => exact finishes_literal word s
  | pattern p => exact finishes_pattern p s
  | eof => exact finishes_eof s
  | anyChar => exact finishes_anyChar s
  | ofParser p =>
    obtain ⟨o, hok, -⟩ := hp s hs
    exact fun hcut ↦ nomatch hok.symm.trans hcut
  | rule r =>
    -- A rule by itself is not guarded, so there has to be room now.
    rcases hroom with hleft | ⟨-, hguarded⟩
    · exact hcall r s hs hleft
    · exact hguarded.elim
  | orElse p q ihp ihq =>
    exact finishes_orElse (ihp hp.2.1 hs (hroom.part And.left))
      (ihq hp.2.2 hs (hroom.part And.right))
  | flatMap p f ihp ihf =>
    have hfirst : p.HasRoom g depth (s.withSlicing false) := hroom.part And.left
    refine finishes_flatMap (ihp hp.2.1 hs hfirst) fun y n next hok hmove a ↦ ?_
    have hnext : next.location.Valid := (hg.safe depth hp.2.1).valid_of_advance hs hok hmove
    have hends : g.Ends p (s.withSlicing false) (.ok (.success y n)) := Grammar.ends_of_ok hok
    refine ihf a (hp.2.2 a) hnext (hroom.behind hmove fun hguarded ↦ ?_)
    exact hguarded.2.imp (fun hconsumes ↦ hconsumes (s.withSlicing false) y n hs hends) fun h ↦ h a
  | map p f ih =>
    exact (ih hp.2 hs (hroom.part id)).bind fun o _ ↦ (o.stepFaults_mapValue s f).finishes
  | map2 p q f ihp ihq =>
    refine finishes_map2 (ihp hp.2.1 hs (hroom.part And.left)) ?_ f
    intro y m next hok hmove
    have hnext : next.location.Valid := (hg.safe depth hp.2.1).valid_of_advance hs hok hmove
    have hends : g.Ends p s (.ok (.success y m)) := Grammar.ends_of_ok hok
    refine ihq hp.2.2 hnext (hroom.behind hmove fun hguarded ↦ ?_)
    exact hguarded.2.imp_left fun hconsumes ↦ hconsumes s y m hs hends
  | repeated p b ih =>
    -- Turns begin at valid places, and there is room at all of them as there is at the first.
    refine finishes_repeated (φ := fun t ↦ t.location.Valid ∧ p.HasRoom g depth t)
      ⟨hs, hroom.part id⟩ ?_ (fun here h ↦ ih hp.2 h.1 h.2) b
    rintro here y n next ⟨hvalid, hturn⟩ hok hmove
    have hless : next.left + n = here.left := State.left_of_advance hmove
    exact ⟨(hg.safe depth hp.2).valid_of_advance hvalid hok hmove, hturn.of_left_le (by omega)⟩
  | slice p ih =>
    have hrun : Finishes (g.parserAt depth p (s.withSlicing true)) :=
      ih hp.2 hs (s := s.withSlicing true) (hroom.part id)
    exact hrun.bind fun o _ ↦ finishes_ok _
  | attempt p ih | scope p _ ih | label p _ ih | retype p _ ih =>
    exact (ih hp.2 hs (hroom.part id)).bind fun o _ ↦ finishes_ok _
  | optional p ih => exact finishes_optional (ih hp.2 hs (hroom.part id))
  | inMode p sliced ih => exact hp.1.elim

namespace Grammar

variable {g : Grammar ρ} {p : Plan ρ α} {s : State}

/-- A call is not cut off if fewer bytes are left than calls may go deep. -/
theorem Guarded.finishes_call (hguarded : g.Guarded) (hg : g.Answering) {depth : Nat} (r : ι)
    (hs : s.location.Valid) (hleft : s.left < depth) : Finishes (g.call depth r s) := by
  induction depth generalizing r s with
  | zero => exact absurd hleft (Nat.not_lt_zero _)
  | succ depth ih =>
    have hroom : (g.body r).HasRoom g depth s := Or.inr ⟨Nat.le_of_lt_succ hleft, hguarded r⟩
    exact Plan.finishes_parserAt hg (fun r _ ↦ ih r) (hg r) hs hroom

/-- A run over guarded rules has an answer if fewer bytes are left than calls may go deep. -/
theorem Guarded.exists_answer (hguarded : g.Guarded) (hg : g.Answering)
    (hp : p.Every Plan.Answering) (hs : s.location.Valid) {depth : Nat} (hleft : s.left < depth) :
    ∃ o, g.parserAt depth p s = .ok o := by
  have hfinishes : Finishes (g.parserAt depth p s) :=
    Plan.finishes_parserAt hg (fun r _ ↦ hguarded.finishes_call hg r) hp hs (Or.inl hleft)
  obtain ⟨o, hok, -⟩ := (hg.safe depth hp s hs).resolve_left hfinishes
  exact ⟨o, hok⟩

/-- For finitely many rules no depth has to be chosen: the one that `Grammar.parser` allows for is
enough. -/
theorem Guarded.exists_parser_eq {n : Nat} {ρ : Fin n → Type} {g : Grammar ρ} {p : Plan ρ α}
    (hguarded : g.Guarded) (hg : g.Answering) (hp : p.Every Plan.Answering)
    (hs : s.location.Valid) : ∃ o, g.parser p s = .ok o := by
  cases n with
  | zero =>
    -- There is no rule to call, so any depth is as good as none.
    obtain ⟨o, hok⟩ := hguarded.exists_answer hg hp hs (Nat.lt_succ_self s.left)
    have hcall : g.call 0 = g.call (s.left + 1) := funext fun r ↦ r.elim0
    refine ⟨o, ?_⟩
    rwa [parser, callBound, Nat.zero_mul, Nat.zero_mul, parserAt, hcall]
  | succ n =>
    refine hguarded.exists_answer hg hp hs ?_
    have hbytes : s.left < s.location.input.utf8ByteSize + 1 :=
      Nat.lt_succ_of_le (Nat.sub_le _ _)
    have hrules : s.location.input.utf8ByteSize + 1 ≤
        (n + 1) * (s.location.input.utf8ByteSize + 1) := Nat.le_mul_of_pos_left _ n.succ_pos
    rw [callBound]
    omega

/-- **Guarded rules end.** Over rules that are guarded, all runs from valid places have an answer,
in either mode, and of any plan, guarded or not. Calls have to go no deeper than bytes are left, and
if they may go deeper, then the answer is the same. -/
theorem guarded_rules_end (hguarded : g.Guarded) (hg : g.Answering) (hp : p.Every Plan.Answering)
    (hs : s.location.Valid) : ∃ o, ∀ depth, s.left < depth → g.parserAt depth p s = .ok o := by
  obtain ⟨o, hok⟩ := hguarded.exists_answer hg hp hs (Nat.lt_succ_self s.left)
  refine ⟨o, fun depth hleft ↦ ?_⟩
  obtain ⟨more, rfl⟩ := Nat.exists_eq_add_of_le (Nat.succ_le_of_lt hleft)
  have hne : g.parserAt (s.left + 1) p s ≠ .error .unfinished := by
    rw [hok]
    exact nofun
  rw [← (g.cutFrom_parserAt (s.left + 1) more p s).eq_of_ne hne, hok]

theorem nested_guarded : nested.Guarded := fun _ ↦
  ⟨⟨⟨trivial, Or.inl (nested.consumes_literal (by decide))⟩, Or.inr trivial⟩, trivial⟩

theorem nested_answering : nested.Answering := fun _ ↦
  ⟨trivial, ⟨trivial, trivial, ⟨trivial, trivial, trivial⟩, trivial⟩, trivial, trivial, trivial⟩

/-- Brackets any number of times. The repetition is not guarded, but the rule that it repeats is. -/
theorem nested_many_ends :
    ∃ o, (∀ depth, 6 < depth →
        nested.parserAt depth (Plan.rule ()).many (.start "((x))x") = .ok o) ∧
      o = .value [2, 0] 6 := by
  have hstart : (State.start "((x))x").location.Valid := Location.valid_start (by decide)
  obtain ⟨o, ho⟩ := guarded_rules_end nested_guarded nested_answering (p := (Plan.rule ()).many)
    ⟨nofun, trivial⟩ hstart
  have hrun : nested.parserAt 7 (Plan.rule ()).many (.start "((x))x") = .ok (.value [2, 0] 6) :=
    rfl
  refine ⟨o, ho, ?_⟩
  exact Except.ok.inj ((ho 7 (by decide)).symm.trans hrun)

end Grammar

end Descent
