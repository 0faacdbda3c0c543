import Descent.Proofs.Fragment

/-!
# One parse in both modes

A parser is run twice at the same place, with slicing off and with slicing on. The two runs use
different code wherever a value may be saved, and yet they should recognize the same text; this is
`Parser.Tied`, stated for any parser and kept by every combinator.

The relation has a switch. `Tied False` says that the runs recognize the same text: they are cut off
together, succeed with the same length, or fail in the same way. `Tied True` says besides that a
value given with slicing on is the value given with slicing off (`Yield.Agrees`). The first holds of
all lawful plans. For the second, two parts need a reason of their own, and these are exactly the
two that fail it in general: a pattern found further on is given with slicing off but not what
stands before it, which the slice includes; and `flatMap` reads a slice that its continuation gives
from where `flatMap` started, and not from where the continuation did.
-/

namespace Descent

variable {α β γ : Type}

/-! ### The relations -/

/-- With the text `t` consumed, the second yield gives no value other than the first one does. -/
inductive Yield.Agrees (t : String) : Yield α → Yield α → Prop where
  /-- Both give the same value. -/
  | value (a : α) : Agrees t (.value a) (.value a)
  /-- The second gives the text that the first one has read. -/
  | read (f : String → α) : Agrees t (.value (f t)) (.text f)
  /-- Both give the text. -/
  | text (f : String → α) : Agrees t (.text f) (.text f)
  /-- The second gives nothing. -/
  | bare (y : Yield α) : Agrees t y .bare

namespace Yield.Agrees

variable {t : String} {y z : Yield α}

theorem refl (t : String) (y : Yield α) : y.Agrees t y := by
  cases y with
  | value a => exact value a
  | text f => exact text f
  | bare => exact bare _

theorem self {word : String} (h : t = word) : (Yield.value word).Agrees t (.text id) := by
  subst h
  exact read id

theorem get? (h : y.Agrees t z) {a : α} (hz : z.get? t = some a) : y.get? t = some a := by
  cases h with
  | value | read | text => exact hz
  | bare => cases hz

theorem map (h : y.Agrees t z) (f : α → β) : (y.map f).Agrees t (z.map f) := by
  cases h with
  | value a => exact value (f a)
  | read g => exact read (f ∘ g)
  | text g => exact text (f ∘ g)
  | bare y => exact bare _

end Yield.Agrees

/-- What the two runs at `l` answer, the first one with slicing off. -/
inductive Outcome.Tied (values : Prop) (l : Location) : Outcome α → Outcome α → Prop where
  /-- Both succeed with the same length, and agree in their values if these are asked for. -/
  | success {y z : Yield α} {n : Nat} (agrees : values → y.Agrees (l.text n) z) :
      Tied values l (.success y n) (.success z n)
  /-- Both fail in the same way. -/
  | failure (e : ParseError) (committed : Bool) :
      Tied values l (.failure e committed) (.failure e committed)

/-- Both succeed with the same length, or both fail with the same error and commitment. -/
inductive Outcome.Alike : Outcome α → Outcome β → Prop where
  /-- The values do not matter. -/
  | success (y : Yield α) (z : Yield β) (n : Nat) : Alike (.success y n) (.success z n)
  /-- Frames of the errors agree in messages and locations. -/
  | failure (e : ParseError) (committed : Bool) :
      Alike (.failure e committed) (.failure e committed)

namespace Outcome.Alike

theorem refl (o : Outcome α) : o.Alike o := by
  cases o with
  | success y n => exact .success y y n
  | failure e committed => exact .failure e committed

theorem symm {o : Outcome α} {o' : Outcome β} (h : o.Alike o') : o'.Alike o := by
  rcases h with ⟨y, z, n⟩ | ⟨e, committed⟩
  · exact .success z y n
  · exact .failure e committed

end Outcome.Alike

theorem Outcome.Tied.alike {values : Prop} {l : Location} {o o' : Outcome α}
    (h : o.Tied values l o') : o.Alike o' := by
  rcases h with - | ⟨e, committed⟩
  · exact .success _ _ _
  · exact .failure e committed

/-- At valid places, the parser recognizes the same in both modes, and gives values that agree if
`values` holds. -/
def Parser.Tied (values : Prop) (p : Parser α) : Prop :=
  ∀ s : State, s.location.Valid →
    Lockstep (Outcome.Tied values s.location) (p (s.withSlicing false)) (p (s.withSlicing true))

/-- At `s`, the continuation of `p` gives a value with slicing off and text in its place with
slicing on, and reading also what `p` has consumed makes another value of it. -/
def Parser.Misreads (p : Parser α) (f : α → Parser β) (s : State) : Prop :=
  ∃ y n a v read m, p (s.withSlicing false) = .ok (.success y n) ∧
    y.get? (s.location.text n) = some a ∧
    f a ((s.jump n).withSlicing false) = .ok (.success (.value v) m) ∧
    f a ((s.jump n).withSlicing true) = .ok (.success (.text read) m) ∧
    read (s.location.text (n + m)) ≠ v

namespace Parser.Tied

variable {values : Prop}

/-! ### Primitives -/

/-- A safe parser that does not look at the mode. -/
theorem of_blind {p : Parser α} (hp : p.Safe) (h : ∀ s b, p (s.withSlicing b) = p s) :
    p.Tied values := by
  intro s hs
  rw [h, h]
  rcases hp s hs with hcut | ⟨o, hok, ho⟩
  · exact Or.inl ⟨hcut, hcut⟩
  · refine Or.inr ⟨o, o, hok, hok, ?_⟩
    cases o with
    | success y n => exact .success fun _ ↦ .refl _ y
    | failure e committed => exact .failure e committed

theorem literal (word : String) : (literal word).Tied values := by
  intro s hs
  rw [literal_eq (s := s.withSlicing false) hs, literal_eq (s := s.withSlicing true) hs]
  dsimp only [State.location_withSlicing]
  split
  · rename_i hword
    obtain ⟨rest, hrest⟩ := hword ▸ Text.sharedFront_prefix_right word.toList s.location.behind
    have htext := hs.text_eq hrest.symm
    rw [Text.byteLength_toList, String.ofList_toList] at htext
    exact Lockstep.ok (.success fun _ ↦ .self htext)
  · exact Lockstep.ok (.failure _ _)

theorem pattern {p : Pattern} (h : values → p.Anchored) : (pattern p).Tied values := by
  intro s hs
  rw [pattern_eq (s := s.withSlicing false) hs, pattern_eq (s := s.withSlicing true) hs]
  dsimp only [State.location_withSlicing]
  rcases hfind : p.find s.location.behind with - | found
  · exact Lockstep.ok (.failure _ _)
  · refine Lockstep.ok (.success fun hvalues ↦ ?_)
    obtain ⟨rest, hrest⟩ := p.exists_of_find hfind
    have hskipped : found.skipped = [] := h hvalues _ _ hs.byteLength_lt hfind
    have htext := hs.text_eq hrest
    rw [hskipped, List.nil_append] at htext ⊢
    exact .self htext

/-! ### Alternatives, commitment and messages -/

section

variable {p q : Parser α}

theorem orElse (hp : p.Tied values) (hq : q.Tied values) : (p.orElse q).Tied values := by
  intro s hs
  refine (hp s hs).bind ?_
  rintro _ _ (hagrees | ⟨e, committed⟩)
  · exact Lockstep.ok (.success hagrees)
  · cases committed
    · exact hq s hs
    · exact Lockstep.ok (.failure e true)

/-- What is done to an answer alone may look at the location, and must change both answers alike. -/
theorem after {f : Location → Outcome α → Outcome β} (hp : p.Tied values)
    (hf : ∀ l o o', o.Tied values l o' → (f l o).Tied values l (f l o')) :
    Parser.Tied values fun s ↦ return f s.location (← p s) := by
  intro s hs
  refine (hp s hs).bind fun o o' ho ↦ ?_
  exact Lockstep.ok (hf s.location o o' ho)

theorem attempt (hp : p.Tied values) : p.attempt.Tied values :=
  hp.after (f := fun _ ↦ Outcome.uncommitted) fun _ _ _ ho ↦ by
    rcases ho with hagrees | ⟨e, committed⟩
    · exact .success hagrees
    · exact .failure e false

theorem scope (hp : p.Tied values) (message : String) : (p.scope message).Tied values :=
  hp.after (f := fun l o ↦ o.mapError (·.push l message)) fun l _ _ ho ↦ by
    rcases ho with hagrees | ⟨e, committed⟩
    · exact .success hagrees
    · exact .failure (e.push l message) committed

theorem label (hp : p.Tied values) (message : String) : (p.label message).Tied values :=
  hp.after (f := fun _ o ↦ o.mapError (·.label message)) fun _ _ _ ho ↦ by
    rcases ho with hagrees | ⟨e, committed⟩
    · exact .success hagrees
    · exact .failure (e.label message) committed

theorem retype (hp : p.Tied values) (f : α → β) : (p.retype f).Tied values :=
  hp.after (f := fun _ o ↦ o.retype f) fun _ _ _ ho ↦ by
    rcases ho with hagrees | ⟨e, committed⟩
    · exact .success fun h ↦ (hagrees h).map f
    · exact .failure e committed

/-- `slice` runs its parser in slicing mode in any case. -/
theorem slice (hp : p.Safe) : p.slice.Tied values :=
  of_blind hp.slice fun _ _ ↦ rfl

end

/-! ### Values -/

section

variable {p : Parser α}

/-- The two runs of a safe parser, with what is known of the first one beside the relation. -/
theorem within (hp : p.Tied values) (hsafe : p.Safe) {s : State} (hs : s.location.Valid) :
    Lockstep (fun o o' ↦ o.Within (s.withSlicing false) ∧ o.Tied values s.location o')
      (p (s.withSlicing false)) (p (s.withSlicing true)) :=
  (hp s hs).and_settles (hsafe _ hs)

theorem mapValue {s : State} {o o' : Outcome α} (hs : s.location.Valid)
    (ho : o.Within (s.withSlicing false)) (h : o.Tied values s.location o') (f : α → β) :
    Lockstep (Outcome.Tied values s.location) (o.mapValue (s.withSlicing false) f)
      (o'.mapValue (s.withSlicing true) f) := by
  rcases h with hagrees | ⟨e, committed⟩
  · rename_i y z n
    rcases ho with ⟨hn, hy⟩ | -
    obtain ⟨a, ha⟩ := Yield.exists_get? (hy rfl) (s.location.text n)
    rw [Outcome.mapValue_eq (s := s.withSlicing false) hs hn ha]
    by_cases hz : z = .bare
    · subst hz
      exact Lockstep.ok (.success fun _ ↦ .bare _)
    · obtain ⟨b, hb⟩ := Yield.exists_get? hz (s.location.text n)
      rw [Outcome.mapValue_eq (s := s.withSlicing true) hs hn hb]
      refine Lockstep.ok (.success fun hvalues ↦ ?_)
      cases ha.symm.trans ((hagrees hvalues).get? hb)
      exact .value (f a)
  · exact Lockstep.ok (.failure e committed)

theorem map (hp : p.Tied values) (hsafe : p.Safe) (f : α → β) : (p.map f).Tied values := by
  intro s hs
  exact (hp.within hsafe hs).bind fun o o' ⟨ho, h⟩ ↦ mapValue hs ho h f

theorem optional (hp : p.Tied values) (hsafe : p.Safe) : p.optional.Tied values := by
  intro s hs
  refine (hp.within hsafe hs).bind fun o o' ⟨ho, h⟩ ↦ ?_
  have hmap := mapValue hs ho h some
  rcases h with hagrees | ⟨e, committed⟩
  · exact hmap
  · cases committed
    · exact Lockstep.ok (.success fun _ ↦ .value none)
    · exact hmap

end

/-! ### Sequences -/

theorem map2 {p : Parser α} {q : Parser β} (hp : p.Tied values) (hq : q.Tied values)
    (hpsafe : p.Safe) (hqsafe : q.Safe) (f : α → β → γ) : (p.map2 q f).Tied values := by
  intro s hs
  refine (hp.within hpsafe hs).bind ?_
  rintro _ _ ⟨⟨hm, hy⟩ | -, hyy' | -⟩
  · rename_i y m y'
    have hnext : ∀ b, (s.withSlicing b).advance m = .ok ((s.jump m).withSlicing b) :=
      fun _ ↦ State.advance_eq hm
    simp only [hnext, ok_bind]
    refine (hq.within hqsafe (s := s.jump m) hm).bind ?_
    rintro _ _ ⟨⟨hn, hz⟩ | -, hzz' | -⟩
    · obtain ⟨w, hoff, hw⟩ := Outcome.exists_pair (s := s.withSlicing false) f hs hm hn
        fun _ ↦ ⟨hy rfl, hz rfl⟩
      obtain ⟨w', hon, hw'⟩ := Outcome.exists_pair (s := s.withSlicing true) f hs hm hn nofun
      refine Or.inr ⟨_, _, hoff, hon, .success fun hvalues ↦ ?_⟩
      rcases hw' with ⟨rfl, -⟩ | ⟨a', b', rfl, ha', hb'⟩
      · exact .bare w
      · rcases hw with ⟨-, hsliced⟩ | ⟨a, b, rfl, ha, hb⟩
        · cases hsliced
        · cases ha.symm.trans ((hyy' hvalues).get? ha')
          cases hb.symm.trans ((hzz' hvalues).get? hb')
          exact .value _
    · exact Lockstep.ok (.failure _ _)
  · exact Lockstep.ok (.failure _ _)

theorem flatMap {p : Parser α} {f : α → Parser β} (hf : ∀ a, (f a).Tied values) (hpsafe : p.Safe)
    (hfsafe : ∀ a, (f a).Safe)
    (h : values → ∀ s : State, s.location.Valid → ¬ p.Misreads f s) :
    (p.flatMap f).Tied values := by
  intro s hs
  -- Both runs begin with the same one of `p`, so only the continuation is run in two modes.
  rcases hpsafe (s.withSlicing false) hs with hcut | ⟨o, hok, ⟨hn, hy⟩ | -⟩
  · exact Or.inl ⟨flatMap_of_cut f hcut, flatMap_of_cut f hcut⟩
  · rename_i y n
    obtain ⟨a, ha⟩ := Yield.exists_get? (hy rfl) (s.location.text n)
    have heq : ∀ b, p.flatMap f (s.withSlicing b) =
        (do ((← f a ((s.jump n).withSlicing b)).withCommit (n != 0)).advance n) := fun b ↦
      flatMap_of_success (s := s.withSlicing b) f hs hn hok ha
    rw [heq, heq]
    rcases (hf a).within (hfsafe a) (s := s.jump n) hn with
      ⟨hoff, hon⟩ | ⟨_, _, hoff, hon, ⟨hm, -⟩ | _, hagrees | _⟩
    · rw [hoff, hon]
      exact Or.inl ⟨rfl, rfl⟩
    · rename_i z m z'
      have hvalid : (s.location.jump (m + n)).Valid := by
        rw [Nat.add_comm]
        simpa using hm
      simp only [hoff, hon, Outcome.withCommit, Outcome.advance, Outcome.addCounts_eq hvalid,
        ok_bind]
      refine Lockstep.ok (.success fun hvalues ↦ ?_)
      rcases hagrees hvalues with b | read | read | -
      · exact .value b
      -- The text is read from where `flatMap` started, together with what `p` consumed.
      · have hsame : read (s.location.text (n + m)) = read ((s.jump n).location.text m) :=
          Classical.not_not.1 fun hdiffer ↦
            h hvalues s hs ⟨y, n, a, _, read, m, hok, ha, hoff, hon, hdiffer⟩
        rw [← hsame, Nat.add_comm]
        exact .read read
      · exact .text read
      · exact .bare z
    · rw [hoff, hon]
      exact Lockstep.ok (.failure _ _)
  · rw [flatMap_of_failure (s := s.withSlicing false) f hok,
      flatMap_of_failure (s := s.withSlicing true) f hok]
    exact Lockstep.ok (.failure _ _)

/-! ### Repetition -/

/-- The loop keeps in step: both runs have counted the same runs and bytes. -/
theorem repeatLoop {p : Parser α} {b : Bounds} (hp : p.Tied values) (hsafe : p.Safe) (hb : b.Fits)
    {start s : State} {jump : Nat} {done done' : Progress α} (budget : Nat)
    (hreach : s.location.jump jump = start.location.jump done.consumed)
    (hvalid : (start.location.jump done.consumed).Valid) (hcount : done.Counted b budget)
    (hcounts : done'.count = done.count) (hconsumed : done'.consumed = done.consumed) :
    Lockstep (Outcome.Tied values start.location)
      (p.repeatLoop b budget (s.withSlicing false) jump done)
      (p.repeatLoop b budget (s.withSlicing true) jump done') := by
  -- Wherever the loop ends, it gives nothing in slicing mode, so its values cannot disagree.
  have hends : ∀ {d d' : Progress α}, d'.consumed = d.consumed →
      (d.outcome false).Tied values start.location (d'.outcome true) := by
    intro d d' hd
    simp only [Progress.outcome, if_true, hd]
    exact .success fun _ ↦ .bare _
  induction budget generalizing s jump done done' with
  | zero =>
    rw [Parser.repeatLoop, Parser.repeatLoop]
    split
    · exact Lockstep.ok (hends hconsumed)
    · exact Or.inl ⟨rfl, rfl⟩
  | succ budget ih =>
    have hhere : ∀ mode, (s.withSlicing mode).advance jump =
        .ok ((start.jump done.consumed).withSlicing mode) := fun mode ↦
      State.advance_of_jump_eq (by simp [State.jump, State.withSlicing, hreach]) hvalid.inside
    simp only [Parser.repeatLoop, hhere, ok_bind, State.sliced_withSlicing]
    refine (hp.within hsafe (s := start.jump done.consumed) hvalid).bind ?_
    rintro _ _ ⟨⟨hn, hy⟩ | -, hagrees | ⟨e, committed⟩⟩
    · rename_i y n z
      have hnext : (start.location.jump (done.consumed + n)).Valid := by simpa using hn
      obtain ⟨a, ha⟩ := Yield.exists_get? (hy rfl) ((start.jump done.consumed).location.text n)
      have hcount' : done'.Counted b (budget + 1) :=
        ⟨hcounts ▸ hcount.bounded, hcounts ▸ hconsumed ▸ hcount.unbounded⟩
      have hadd : done.add ((start.jump done.consumed).withSlicing false) y n =
          .ok (done.next [a] n) :=
        Progress.add_eq_of_read hcount hb hvalid.inside hnext.inside rfl
          (Yield.read_eq hvalid hn ha)
      have hadd' : done'.add ((start.jump done.consumed).withSlicing true) z n =
          .ok (done'.next [] n) :=
        Progress.add_eq_of_sliced hcount' hb (hconsumed ▸ hvalid.inside)
          (hconsumed ▸ hnext.inside) rfl
      simp only [hadd, hadd', ok_bind]
      split
      · exact Lockstep.ok (hends (by simp [hconsumed]))
      · rename_i hstall
        exact ih (by simp) hnext (hcount.next (by simpa using hstall) [a]) (by simp [hcounts])
          (by simp [hconsumed])
    · simp only [hcounts]
      split
      · exact Lockstep.ok (.failure _ _)
      · exact Lockstep.ok (hends hconsumed)

theorem repeated {p : Parser α} {b : Bounds} (hp : p.Tied values) (hsafe : p.Safe) (hb : b.Fits) :
    (p.repeated b).Tied values := fun _ hs ↦
  hp.repeatLoop hsafe hb _ rfl (by simpa [Progress.start] using hs) (Progress.counted_start b _)
    rfl rfl

end Parser.Tied

end Descent
