import Descent.Proofs.Failures
import Descent.Proofs.NoFault

/-!
# Plans that never commit

An alternative is given up for good once a failure has committed. Where nothing commits, the
alternatives are all tried: `p.orElse q` succeeds if one of the two does, and options and
repetitions do not fail at all.

Commitment arises in `fail`, behind the first character of a word, and between the two parts of a
`flatMap`. A plan is **tentative** if it has none of these but under an `attempt`, where anything
may stand, rules that commit included. So this is not a property of all parts, as other fragments
are; and it is asked for only of those rules that a tentative plan refers to outside an attempt
(`Grammar.Tentative`). The main statement is `tentative_never_commits`.
-/

namespace Descent

variable {ι : Type} {ρ : ι → Type} {α β : Type}

/-- No failure commits. -/
def Uncommitted : FailureLaw := fun _ _ committed ↦
  committed = false

/-- There are no failures. -/
def Unfailing : FailureLaw := fun _ _ _ ↦
  False

/-- A word of one character differs from a text at its start or not at all. -/
theorem Parser.firstMismatch_of_length_le_one {ws cs : List Char} {n : Nat}
    (hws : ws.length ≤ 1) (h : firstMismatch ws cs = some n) : n = 0 := by
  match ws, cs with
  | [], _ => exact nomatch h
  | [_], [] => exact (Option.some.inj h).symm
  | [w], c :: cs =>
    rw [firstMismatch] at h
    split at h
    · exact nomatch h
    · exact (Option.some.inj h).symm
  | _ :: _ :: _, _ => exact absurd hws (by simp)

/-! ### Parsers -/

namespace Parser.Obeys

variable {p : Parser α}

/-- An option of what does not commit takes the place of all its failures. -/
theorem unfailing_optional (hp : p.Obeys Uncommitted) : p.optional.Obeys Unfailing :=
  hp.optional fun _ _ ↦ nofun

/-- A repetition of what does not commit has no failure to hand on, if it may have no turns. -/
theorem unfailing_many (hp : p.Obeys Uncommitted) : p.many.Obeys Unfailing :=
  hp.repeated fun _ _ count _ _ _ hturn hoff ↦ by
    rcases hturn with hon | hfew
    · exact nomatch hoff.symm.trans hon
    · exact absurd hfew (Nat.not_lt_zero count)

end Parser.Obeys

/-! ### Plans -/

/-- A plan that commits under an attempt only, if the rules in `T` do. -/
def Plan.Tentative (T : ι → Prop) : {α : Type} → Plan ρ α → Prop
  | _, fail _ => False
  | _, literal word => word.length ≤ 1
  | _, ofParser _ => False
  | _, rule r => T r
  | _, orElse p q => p.Tentative T ∧ q.Tentative T
  | _, flatMap _ _ => False
  | _, map p _ => p.Tentative T
  | _, map2 p q _ => p.Tentative T ∧ q.Tentative T
  | _, repeated p _ => p.Tentative T
  | _, slice p => p.Tentative T
  | _, attempt _ => True
  | _, scope p _ => p.Tentative T
  | _, label p _ => p.Tentative T
  | _, optional p => p.Tentative T
  | _, retype p _ => p.Tentative T
  | _, inMode _ _ => False
  | _, _ => True

/-- The rules in `T` commit under an attempt only. Of others, nothing is said. -/
def Grammar.Tentative (g : Grammar ρ) (T : ι → Prop) : Prop :=
  ∀ r, T r → (g.body r).Tentative T

section

variable {T : ι → Prop}

open Descent.Parser in
/-- A tentative plan makes a parser that does not commit, if the rules in `T` do not. -/
theorem Plan.Tentative.obeys {call : ∀ r, Parser (ρ r)}
    (hcall : ∀ r, T r → (call r).Obeys Uncommitted) {p : Plan ρ α} (hp : p.Tentative T) :
    (p.parser call).Obeys Uncommitted := by
  induction p with
  | succeed a => exact Obeys.succeed a
  | fail message => exact hp.elim
  | literal word =>
    refine Obeys.literal fun _ text n hmismatch ↦ ?_
    have hfirst : n = 0 := firstMismatch_of_length_le_one (word.length_toList ▸ hp) hmismatch
    rw [hfirst]
    rfl
  | pattern p => exact Obeys.pattern fun _ _ ↦ rfl
  | eof => exact Obeys.eof fun _ _ ↦ rfl
  | anyChar => exact Obeys.anyChar fun _ _ ↦ rfl
  | ofParser p => exact hp.elim
  | rule r => exact hcall r hp
  | orElse p q ihp ihq => exact (ihp hp.1).orElse (ihq hp.2) fun _ _ h ↦ h
  | flatMap p f ihp ihf => exact hp.elim
  | map p f ih => exact (ih hp).map f
  | map2 p q f ihp ihq => exact (ihp hp.1).map2 (ihq hp.2) (fun _ _ _ _ h ↦ h) f
  | repeated p b ih => exact (ih hp).repeated fun _ _ _ _ _ _ _ h ↦ h
  | slice p ih => exact (ih hp).slice
  -- The part may commit, since this is what is taken away.
  | attempt p ih => exact (Obeys.any _).attempt fun _ _ _ _ ↦ rfl
  | scope p message ih => exact (ih hp).scope fun _ _ _ h ↦ h
  | label p message ih => exact (ih hp).label fun _ _ _ h ↦ h
  | optional p ih => exact (ih hp).optional fun _ _ h ↦ h
  | retype p f ih => exact (ih hp).retype f
  | inMode p sliced ih => exact hp.elim

end

namespace Grammar

variable {g : Grammar ρ} {T : ι → Prop} {p : Plan ρ α}

theorem Tentative.obeys_call (hg : g.Tentative T) (depth : Nat) {r : ι} (hr : T r) :
    (g.call depth r).Obeys Uncommitted := by
  induction depth generalizing r with
  | zero => exact fun _ ↦ nofun
  | succ depth ih => exact (hg r hr).obeys fun _ ↦ ih

theorem Tentative.obeys (hg : g.Tentative T) (hp : p.Tentative T) (depth : Nat) :
    (g.parserAt depth p).Obeys Uncommitted :=
  hp.obeys fun _ ↦ hg.obeys_call depth

/-! ### Whether a run succeeds -/

/-- The run of the plan ends with a success. -/
def Succeeds (g : Grammar ρ) (p : Plan ρ α) (s : State) : Prop :=
  ∃ y n, g.Ends p s (.ok (.success y n))

/-- No run of the plan ends with a failure. -/
def NeverFails (g : Grammar ρ) (p : Plan ρ α) : Prop :=
  ∀ s e committed, ¬ g.Ends p s (.ok (.failure e committed))

/-- All runs from valid places succeed, if they end. -/
def EndsWell (g : Grammar ρ) (p : Plan ρ α) : Prop :=
  ∀ s answer, s.location.Valid → g.Ends p s answer → ∃ y n, answer = .ok (.success y n)

theorem neverFails_of_obeys (hp : ∀ depth, (g.parserAt depth p).Obeys Unfailing) :
    g.NeverFails p := fun _ _ _ h ↦
  h.obeys hp

/-- What never fails succeeds, since there are no faults either. -/
theorem NeverFails.endsWell (h : g.NeverFails p) (hg : g.Lawful) (hp : p.Lawful) :
    g.EndsWell p := by
  intro s answer hs hends
  obtain ⟨o, rfl, -⟩ := hends.within hg hp hs
  cases o with
  | success y n => exact ⟨y, n, rfl⟩
  | failure e committed => exact (h s e committed hends).elim

/-- Where the first plan ends with an outcome, and not with a failure that commits, an alternative
succeeds exactly if one of its plans does. -/
theorem succeeds_orElse_iff {q : Plan ρ α} {s : State} {o : Outcome α}
    (hends : g.Ends p s (.ok o)) (ho : o.Obeys Uncommitted s.location) :
    g.Succeeds (p.orElse q) s ↔ g.Succeeds p s ∨ g.Succeeds q s := by
  constructor
  · rintro ⟨y, n, -, depth, hok⟩
    rcases Parser.orElse_eq_success_iff.1 hok with hp | ⟨-, hq⟩
    · exact Or.inl ⟨y, n, ends_of_ok hp⟩
    · exact Or.inr ⟨y, n, ends_of_ok hq⟩
  · rintro (⟨y, n, hp⟩ | ⟨y, n, hq⟩)
    · exact ⟨y, n, hp.orElse_of_success q⟩
    -- The second plan is tried only if the first one fails.
    · cases o with
      | success z m => exact ⟨z, m, hends.orElse_of_success q⟩
      | failure e committed =>
        obtain rfl : committed = false := ho
        exact ⟨y, n, hends.orElse_of_uncommitted hq⟩

/-! ### The main statement -/

/-- **Where nothing commits, backtracking is complete.** No run of a tentative plan fails and
commits. So wherever it ends with an outcome, alternatives to it succeed exactly if it does or the
other plan does; and the plan any number of times, with or without separators, or as an option,
never fails. If the plans are lawful as well, then these three succeed wherever they end. -/
theorem tentative_never_commits {separator : Plan ρ β} (hg : g.Tentative T)
    (hp : p.Tentative T) (hseparator : separator.Tentative T) :
    (∀ s e committed, g.Ends p s (.ok (.failure e committed)) → committed = false) ∧
    (∀ q s o, g.Ends p s (.ok o) →
      (g.Succeeds (p.orElse q) s ↔ g.Succeeds p s ∨ g.Succeeds q s)) ∧
    (g.NeverFails p.many ∧ g.NeverFails p.optional ∧ g.NeverFails (p.sepBy separator)) ∧
    (g.Lawful → p.Lawful → separator.Lawful →
      g.EndsWell p.many ∧ g.EndsWell p.optional ∧ g.EndsWell (p.sepBy separator)) := by
  have hobeys : ∀ depth, (g.parserAt depth p).Obeys Uncommitted := hg.obeys hp
  have hsome : (p.sepBy1 separator).Tentative T := ⟨hp, hseparator, hp⟩
  have hmany : g.NeverFails p.many :=
    neverFails_of_obeys fun depth ↦ (hobeys depth).unfailing_many
  have hoptional : g.NeverFails p.optional :=
    neverFails_of_obeys fun depth ↦ (hobeys depth).unfailing_optional
  have hsepBy : g.NeverFails (p.sepBy separator) :=
    neverFails_of_obeys fun depth ↦ (hg.obeys hsome depth).unfailing_optional.map _
  refine ⟨fun s e committed h ↦ h.obeys hobeys, fun q s o h ↦ ?_, ⟨hmany, hoptional, hsepBy⟩,
    fun hlawful hlp hls ↦ ?_⟩
  · refine succeeds_orElse_iff h ?_
    obtain ⟨-, depth, hok⟩ := h
    exact hobeys depth s o hok
  · have hturn : (separator.skipLeft p).many.Lawful := ⟨nofun, trivial, hls, hlp⟩
    exact ⟨hmany.endsWell hlawful ⟨nofun, hlp⟩, hoptional.endsWell hlawful ⟨trivial, hlp⟩,
      hsepBy.endsWell hlawful ⟨trivial, trivial, trivial, hlp, hturn⟩⟩

theorem nested_tentative : nested.Tentative fun _ ↦ True := fun _ _ ↦
  ⟨⟨⟨Nat.le_refl 1, trivial⟩, Nat.le_refl 1⟩, Nat.le_refl 1⟩

/-- Brackets that are not closed, or else two of them under an attempt: that the first alternative
went to the end of the input does not keep the second one from being tried. Nor does it make a list
of brackets fail. -/
theorem nested_unclosed_backtracks :
    nested.Succeeds ((Plan.rule ()).orElse (((Plan.literal "((").attempt).giving 0))
      (.start "((x)") ∧
    ∀ answer, nested.Ends ((Plan.rule ()).sepBy (Plan.literal ",")) (.start "((x)") answer →
      ∃ y n, answer = .ok (.success y n) := by
  have hrun : nested.Ends (.rule ()) (.start "((x)")
      (.ok (.failure ((Location.start "((x)").error "'x'") false)) := ⟨nofun, 4, rfl⟩
  have hother : nested.Succeeds (((Plan.literal "((").attempt).giving 0) (.start "((x)") :=
    ⟨.value 0, 2, nofun, 0, rfl⟩
  have hcomma : (Plan.literal "," : Plan (fun _ : Unit ↦ Nat) String).Tentative fun _ ↦ True :=
    Nat.le_refl 1
  obtain ⟨-, halternative, -, hlawful⟩ :=
    tentative_never_commits nested_tentative (p := .rule ()) trivial hcomma
  obtain ⟨-, -, hlist⟩ := hlawful nested_lawful trivial trivial
  exact ⟨(halternative _ _ _ hrun).2 (Or.inr hother), fun answer ↦
    hlist _ answer (Location.valid_start (by decide))⟩

end Grammar

end Descent
