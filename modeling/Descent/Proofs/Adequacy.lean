import Descent.Proofs.Meaning
import Descent.Proofs.Slicing

/-!
# Parsers compute what plans mean

With slicing off, a parser answers with what its plan means (`Parser.Computes`): it is cut off where
the meaning is missing, and else gives the value that is meant, at once or as a text to be read from
where it was started, or fails as is meant, with an error of the frames that are meant. Each
combinator is right if its parts are. What makes `slice` right is that slicing does not change what
its part recognizes, since it runs that part in the mode that no meaning is about.

Meanings have clauses of their own for what parsers do to errors and in loops, and here the two are
compared: `ParseError.push` and `ParseError.label` with what is said of a failure (`Computes.scope`,
`Computes.label`), and the budget of the loop with a recursion that has none or that counts down the
upper bound (`Computes.repeatLoop_of_some`, `Computes.repeatLoop_of_none`).

`flatMap` has no such lemma, because it is not right: a slice given by its continuation is handed on
together with the length of what stands before it.
-/

namespace Descent

variable {ι : Type} {ρ : ι → Type} {α β γ : Type}

/-- Nothing of an outcome is lost in what is meant by it: an error is its frames. -/
theorem Reading.sense_injective : Function.Injective (sense : Reading α → Sense α) := by
  rintro (⟨a, n⟩ | ⟨⟨innermost, outer⟩, committed⟩) (⟨b, m⟩ | ⟨⟨innermost', outer'⟩, committed'⟩) h
  · cases h
    rfl
  · cases h
  · cases h
  · cases h
    rfl

/-- The outcome of a run at `l` gives what is meant, its text being read at `l`. -/
inductive Outcome.Gives (l : Location) : Outcome α → Sense α → Prop where
  /-- A success that leads to a valid place, and gives the value. -/
  | value {y : Yield α} {n : Nat} {a : α} (valid : (l.jump n).Valid)
      (gives : y.get? (l.text n) = some a) : Gives l (.success y n) (.value a n)
  /-- The failure with the frames that are meant. -/
  | failure (e : ParseError) (committed : Bool) :
      Gives l (.failure e committed) (.failure e.frames committed)

namespace Outcome.Gives

theorem value_zero {l : Location} (h : l.Valid) (a : α) :
    (Outcome.value a 0).Gives l (.value a 0) :=
  .value (by simpa using h) rfl

/-- A failure whose error has the frames that are meant. -/
theorem of_frames_eq {l : Location} {e : ParseError} {frames : List Frame}
    (h : e.frames = frames) (committed : Bool) :
    (Outcome.failure e committed : Outcome α).Gives l (.failure frames committed) := by
  subst h
  exact .failure e committed

theorem exists_read {s : State} {o : Outcome α} {m : Sense α} (h : o.Gives s.location m)
    (hs : s.location.Valid) : ∃ r, o.read s = .ok r ∧ r.sense = m := by
  rcases h with ⟨hn, ha⟩ | ⟨e, committed⟩
  · rename_i y n a
    refine ⟨.value a n, ?_, rfl⟩
    rw [Outcome.read, Yield.read_eq hs hn ha]
    rfl
  · exact ⟨.failure e committed, rfl, rfl⟩

theorem ne_bare {l : Location} {o : Outcome α} {m : Sense α} (h : o.Gives l m) (n : Nat) :
    o ≠ .success .bare n := by
  rintro rfl
  rcases h with ⟨-, hgives⟩ | -
  exact Yield.ne_bare_of_get? hgives rfl

end Outcome.Gives

/-- The outcome of a loop gives what has been collected so far, and behind it what the turns left
mean. Values are collected in reverse. -/
def Progress.Joins (done : Progress α) (l : Location) (o : Outcome (List α))
    (m : Sense (List α)) : Prop :=
  o.Gives l (m.prepend done.values.reverse done.consumed)

/-- A loop that has collected nothing gives what is meant. -/
theorem Progress.joins_start (l : Location) :
    (start : Progress α).Joins l = Outcome.Gives l := by
  funext o m
  simp [Joins, start]

/-- With slicing off, the parser answers with what is meant. -/
def Parser.Computes (p : Parser α) (m : Meaning α) : Prop :=
  ∀ s : State, s.location.Valid →
    Follows (Outcome.Gives s.location) (p (s.withSlicing false)) (m s.location)

namespace Parser.Computes

theorem within {p : Parser α} {m : Meaning α} (h : p.Computes m) : m.Within := by
  intro l a n hl hr
  rcases h { location := l, sliced := false } hl with ⟨-, hnone⟩ | ⟨o, r, -, hr', hgives⟩
  · cases hnone.symm.trans hr
  · cases hr'.symm.trans hr
    rcases hgives with ⟨hvalid, -⟩ | -
    exact hvalid

/-! ### Primitives -/

theorem succeed (a : α) : (succeed a).Computes fun _ ↦ some (.value a 0) := fun _ hs ↦
  Follows.ok (Outcome.Gives.value_zero hs a)

theorem fail (message : String) :
    (fail message : Parser α).Computes fun l ↦ some (.failure [⟨l, message⟩] true) := fun s _ ↦
  Follows.ok (.failure (s.location.error message) true)

theorem literal (word : String) : (literal word).Computes (.literal word) := by
  intro s hs
  have hvalid := hs.jump_sharedFront word.toList
  rw [literal_eq (s := s.withSlicing false) hs, Meaning.literal]
  dsimp only [State.location_withSlicing]
  split
  · rename_i hword
    rw [hword, Text.byteLength_toList] at hvalid
    exact Follows.ok (.value hvalid rfl)
  · exact Follows.ok (.failure (Location.error _ _) _)

theorem pattern {p : Pattern} (h : p.Anchored) : (pattern p).Computes (.pattern p) := by
  intro s hs
  rw [pattern_eq (s := s.withSlicing false) hs, Meaning.pattern, State.location_withSlicing]
  rcases hfind : p.find s.location.behind with - | found
  · exact Follows.ok (.failure (Location.error _ _) _)
  · obtain ⟨rest, hrest⟩ := p.exists_of_find hfind
    have hskipped : found.skipped = [] := h _ _ hs.byteLength_lt hfind
    rw [hskipped, List.nil_append] at hrest
    dsimp only
    rw [hskipped, List.nil_append]
    exact Follows.ok (.value (hs.jump hrest) rfl)

theorem eof : Parser.eof.Computes .eof := by
  intro s hs
  rw [eof_eq (s := s.withSlicing false) hs, Meaning.eof, State.location_withSlicing]
  rcases s.location.behind with - | ⟨c, cs⟩
  · exact Follows.ok (Outcome.Gives.value_zero hs ())
  · exact Follows.ok (.failure (Location.error _ _) _)

theorem anyChar : Parser.anyChar.Computes .anyChar := by
  intro s hs
  rw [anyChar_eq (s := s.withSlicing false) hs, Meaning.anyChar, State.location_withSlicing]
  rcases hbehind : s.location.behind with - | ⟨c, cs⟩
  · exact Follows.ok (.failure (Location.error _ _) _)
  · have hvalid := hs.jump (show s.location.behind = [c] ++ cs from hbehind)
    exact Follows.ok (.value hvalid rfl)

theorem ofParser {p : Parser α} (hp : p.Safe) : p.Computes (.ofParser p) := by
  intro s hs
  have hmeant : ∀ {x : Except Fault (Reading α)}, p.readAt (s.withSlicing false) = x →
      Meaning.ofParser p s.location = x.toOption.map Reading.sense := by
    rintro _ rfl
    rfl
  rcases hp (s.withSlicing false) hs with hcut | ⟨_, hok, ⟨hn, hy⟩ | -⟩
  · refine Or.inl ⟨hcut, hmeant (x := .error .unfinished) ?_⟩
    rw [readAt, hcut]
    rfl
  · rename_i y n
    obtain ⟨a, ha⟩ := Yield.exists_get? (hy rfl) (s.location.text n)
    have hread : y.read (s.withSlicing false) n = .ok a := Yield.read_eq hs hn ha
    refine Or.inr ⟨_, .value a n, hok, hmeant (x := .ok (.value a n)) ?_, .value hn ha⟩
    rw [readAt, hok, ok_bind, Outcome.read, hread]
    rfl
  · rename_i e committed
    refine Or.inr ⟨_, _, hok, hmeant (x := .ok (.failure e committed)) ?_, .failure e committed⟩
    rw [readAt, hok]
    rfl

/-! ### Alternatives, commitment and messages -/

section

variable {p q : Parser α} {m m' : Meaning α}

theorem orElse (hp : p.Computes m) (hq : q.Computes m') :
    (p.orElse q).Computes (m.orElse m') := by
  intro s hs
  refine (hp s hs).bind ?_
  rintro _ _ (⟨hvalid, hgives⟩ | ⟨e, committed⟩)
  · exact Follows.ok (.value hvalid hgives)
  · cases committed
    · exact hq s hs
    · exact Follows.ok (.failure e true)

/-- What is done to an answer alone must be done to what is expected. -/
theorem after {f : Location → Outcome α → Outcome β} {g : Location → Sense α → Sense β}
    (hp : p.Computes m) (h : ∀ l o r, o.Gives l r → (f l o).Gives l (g l r)) :
    Parser.Computes (fun s ↦ return f s.location (← p s)) fun l ↦ (m l).map (g l) := by
  intro s hs
  change Follows _ (p (s.withSlicing false) >>= _) ((m s.location).map (g s.location))
  rw [Option.map_eq_bind]
  refine (hp s hs).bind fun o r hr ↦ ?_
  exact Follows.ok (h s.location o r hr)

theorem attempt (hp : p.Computes m) : p.attempt.Computes fun l ↦ (m l).map .uncommitted :=
  hp.after (f := fun _ ↦ Outcome.uncommitted) fun _ _ _ hr ↦ by
    rcases hr with ⟨hvalid, hgives⟩ | ⟨e, committed⟩
    · exact .value hvalid hgives
    · exact .failure e false

/-- An outermost frame is what is said around a failure. -/
theorem scope (hp : p.Computes m) (message : String) :
    (p.scope message).Computes fun l ↦ (m l).map (.saidAround ⟨l, message⟩) :=
  hp.after (f := fun l o ↦ o.mapError (·.push l message)) fun l _ _ hr ↦ by
    rcases hr with ⟨hvalid, hgives⟩ | ⟨e, committed⟩
    · exact .value hvalid hgives
    · exact .of_frames_eq (e.frames_push l message) committed

/-- The words of the innermost frame are what is said of the failure itself. -/
theorem label (hp : p.Computes m) (message : String) :
    (p.label message).Computes fun l ↦ (m l).map (.reworded message) :=
  hp.after (f := fun _ o ↦ o.mapError (·.label message)) fun l _ _ hr ↦ by
    rcases hr with ⟨hvalid, hgives⟩ | ⟨e, committed⟩
    · exact .value hvalid hgives
    · exact .of_frames_eq (e.frames_label message) committed

end

/-! ### Values -/

section

variable {p : Parser α} {m : Meaning α}

theorem mapValue {s : State} {o : Outcome α} {r : Sense α} (hs : s.location.Valid)
    (hr : o.Gives s.location r) (f : α → β) :
    Follows (Outcome.Gives s.location) (o.mapValue (s.withSlicing false) f) (some (r.map f)) := by
  rcases hr with ⟨hvalid, hgives⟩ | ⟨e, committed⟩
  · rw [Outcome.mapValue_eq (s := s.withSlicing false) hs hvalid hgives]
    exact Follows.ok (.value hvalid rfl)
  · exact Follows.ok (.failure e committed)

theorem map (hp : p.Computes m) (f : α → β) :
    (p.map f).Computes fun l ↦ (m l).map (.map f) := by
  intro s hs
  change Follows _ (p (s.withSlicing false) >>= _) ((m s.location).map (Sense.map f))
  rw [Option.map_eq_bind]
  exact (hp s hs).bind fun o r hr ↦ mapValue hs hr f

theorem retype (hp : p.Computes m) (f : α → β) :
    (p.retype f).Computes fun l ↦ (m l).map (.map f) :=
  hp.after (f := fun _ o ↦ o.retype f) fun l o _ hr ↦ by
    rcases hr with ⟨hvalid, hgives⟩ | ⟨e, committed⟩
    · rename_i y n a
      refine .value hvalid ?_
      cases y with
      | value b | text g => rw [← Option.some.inj hgives]; rfl
      | bare => cases hgives
    · exact .failure e committed

theorem optional (hp : p.Computes m) : p.optional.Computes m.optional := by
  intro s hs
  refine (hp s hs).bind fun o r hr ↦ ?_
  have hmap := mapValue hs hr some
  rcases hr with ⟨hvalid, hgives⟩ | ⟨e, committed⟩
  · exact hmap
  · cases committed
    · exact Follows.ok (Outcome.Gives.value_zero hs none)
    · exact hmap

/-- In slicing mode the part recognizes the same, and no more is asked for. -/
theorem slice (hp : p.Computes m) (htied : p.Tied False) : p.slice.Computes m.slice := by
  intro s hs
  -- The run in slicing mode is compared with the meaning through the one with slicing off.
  refine ((hp s hs).of_lockstep (htied s hs)).bind ?_
  rintro _ _ ⟨_, - | ⟨e, committed⟩, hr⟩
  · rcases hr with ⟨hvalid, -⟩ | -
    exact Follows.ok (.value hvalid rfl)
  · rcases hr with - | -
    exact Follows.ok (.failure e committed)

end

/-! ### Sequences -/

theorem map2 {p : Parser α} {q : Parser β} {m : Meaning α} {m' : Meaning β} (hp : p.Computes m)
    (hq : q.Computes m') (f : α → β → γ) : (p.map2 q f).Computes (m.map2 m' f) := by
  intro s hs
  refine (hp s hs).bind ?_
  rintro _ _ (⟨hi, ha⟩ | ⟨e, committed⟩)
  · rename_i y i a
    have hnext : (s.withSlicing false).advance i = .ok ((s.jump i).withSlicing false) :=
      State.advance_eq hi
    simp only [hnext, ok_bind]
    refine (hq (s.jump i) hi).bind ?_
    rintro _ _ (⟨hj, hb⟩ | ⟨e, committed⟩)
    · rename_i z j b
      obtain ⟨w, hpair, ⟨-, hsliced⟩ | ⟨a', b', rfl, ha', hb'⟩⟩ :=
        Outcome.exists_pair (s := s.withSlicing false) f hs hi hj fun _ ↦
          ⟨Yield.ne_bare_of_get? ha, Yield.ne_bare_of_get? hb⟩
      · cases hsliced
      · cases ha.symm.trans ha'
        cases hb.symm.trans hb'
        exact Or.inr ⟨_, _, hpair, rfl, .value (by simpa using hj) rfl⟩
    · exact Follows.ok (.failure e committed)
  · exact Follows.ok (.failure e committed)

/-! ### Repetition -/

section Repetition

variable {p : Parser α} {m : Meaning α} {b : Bounds} {start s : State} {jump budget : Nat}
  {done : Progress α}

/-- Where no turns are left, the loop gives what it has collected. -/
theorem joins_outcome (h : (start.location.jump done.consumed).Valid) :
    done.Joins start.location (done.outcome false) (.value [] 0) := by
  simp only [Progress.Joins, Sense.prepend, List.append_nil, Nat.add_zero]
  exact .value h rfl

/-- A turn of the loop is one that is meant, if what comes behind it is. -/
theorem repeatLoop_succ (hp : p.Computes m) (hb : b.Fits)
    {next : α → Nat → Option (Sense (List α))}
    (hreach : s.location.jump jump = start.location.jump done.consumed)
    (hvalid : (start.location.jump done.consumed).Valid) (hcount : done.Counted b (budget + 1))
    (hnext : ∀ a n, m (start.location.jump done.consumed) = some (.value a n) →
      Follows (done.Joins start.location)
        (if b.stalls n then .ok ((done.next [a] n).outcome false)
          else p.repeatLoop b budget ((start.jump done.consumed).withSlicing false) n
            (done.next [a] n))
        (next a n)) :
    Follows (done.Joins start.location)
      (p.repeatLoop b (budget + 1) (s.withSlicing false) jump done)
      (m.turn (b.least - done.count) next (start.location.jump done.consumed)) := by
  have hhere : (s.withSlicing false).advance jump =
      .ok ((start.jump done.consumed).withSlicing false) :=
    State.advance_of_jump_eq (by simp [State.jump, State.withSlicing, hreach]) hvalid.inside
  have hrun : Follows (Outcome.Gives (start.location.jump done.consumed))
      (p ((start.jump done.consumed).withSlicing false)) (m (start.location.jump done.consumed)) :=
    hp (start.jump done.consumed) hvalid
  simp only [Parser.repeatLoop, hhere, ok_bind, State.sliced_withSlicing]
  rcases hrun with ⟨hcut, hnone⟩ | ⟨o, r, hok, hr, hgives⟩
  · exact Or.inl ⟨by rw [hcut]; rfl, by rw [Meaning.turn, hnone]⟩
  · rw [hok, ok_bind, Meaning.turn, hr]
    rcases hgives with ⟨hn, ha⟩ | ⟨e, committed⟩
    · rename_i y n a
      have hread : y.read ((start.jump done.consumed).withSlicing false) n = .ok a :=
        Yield.read_eq hvalid hn ha
      have hinside : (start.location.jump (done.consumed + n)).Inside := by simpa using hn.inside
      simp only [Progress.add_eq_of_read hcount hb hvalid.inside hinside rfl hread, ok_bind]
      exact hnext a n hr
    · have hearly : decide (done.count < b.least) = decide (0 < b.least - done.count) := by
        simp only [Nat.sub_pos_iff_lt]
      simp only [hearly]
      split
      · exact Follows.ok (.failure e committed)
      · exact Follows.ok (joins_outcome hvalid)

/-- Behind a turn that has been added, the loop stands where the recursion goes on. -/
theorem follows_prepend {a : α} {n : Nat} {x : Except Fault (Outcome (List α))}
    {m' : Option (Sense (List α))}
    (h : Follows ((done.next [a] n).Joins start.location) x m') :
    Follows (done.Joins start.location) x (m'.map (.prepend [a] n)) := by
  refine h.map fun o r hr ↦ ?_
  rw [Progress.Joins, Sense.prepend_prepend]
  simpa [Progress.Joins] using hr

/-- With an upper bound, the budget is the number of turns that may come. -/
theorem repeatLoop_of_some (hp : p.Computes m) (hb : b.Fits) {most : Nat}
    (hmost : b.most? = some most)
    (hreach : s.location.jump jump = start.location.jump done.consumed)
    (hvalid : (start.location.jump done.consumed).Valid) (hcount : done.Counted b budget) :
    Follows (done.Joins start.location)
      (p.repeatLoop b budget (s.withSlicing false) jump done)
      (m.upTo budget (b.least - done.count) (start.location.jump done.consumed)) := by
  induction budget generalizing s jump done with
  | zero =>
    rw [repeatLoop_zero_of_some p hmost]
    exact Follows.ok (joins_outcome hvalid)
  | succ budget ih =>
    refine hp.repeatLoop_succ hb hreach hvalid hcount fun a n hr ↦ ?_
    have hstall : b.stalls n = false := by simp [Bounds.stalls, hmost]
    have hnext := hp.within _ a n hvalid hr
    rw [hstall, if_neg Bool.false_ne_true, Location.jump_jump]
    refine follows_prepend ?_
    have hvalid' : (start.location.jump (done.next [a] n).consumed).Valid := by simpa using hnext
    rw [Nat.sub_sub]
    exact ih (by simp) hvalid' (hcount.next hstall [a])

/-- Without one, the budget is more than the bytes that are left, and is never used up. -/
theorem repeatLoop_of_none (hp : p.Computes m) (hb : b.Fits) (hnone : b.most? = none)
    (hbudget : (start.jump done.consumed).left < budget)
    (hreach : s.location.jump jump = start.location.jump done.consumed)
    (hvalid : (start.location.jump done.consumed).Valid) (hcount : done.Counted b budget) :
    Follows (done.Joins start.location)
      (p.repeatLoop b budget (s.withSlicing false) jump done)
      (m.unlimited (b.least - done.count) (start.location.jump done.consumed)) := by
  induction budget generalizing s jump done with
  | zero => exact absurd hbudget (Nat.not_lt_zero _)
  | succ budget ih =>
    rw [Meaning.unlimited]
    refine hp.repeatLoop_succ hb hreach hvalid hcount fun a n hr ↦ ?_
    have hnext := hp.within _ a n hvalid hr
    have hvalid' : (start.location.jump (done.next [a] n).consumed).Valid := by simpa using hnext
    by_cases hn : n = 0
    · have hstall : b.stalls n = true := Bounds.stalls_iff.2 ⟨hnone, hn⟩
      rw [hstall, if_pos rfl, if_pos hn]
      have hlast := follows_prepend (Follows.ok (joins_outcome hvalid'))
      simpa [Sense.prepend, hn] using hlast
    · have hstall : b.stalls n = false := by simp [Bounds.stalls, hn]
      have hleft := hp.within.offset_lt hvalid hr hn
      have hless : (start.jump (done.next [a] n).consumed).left < budget := by
        have hmove : ((start.jump done.consumed).jump n).left + n =
            (start.jump done.consumed).left := State.left_of_advance (State.advance_eq hnext)
        rw [Progress.consumed_next, ← State.jump_jump]
        omega
      rw [hstall, if_neg Bool.false_ne_true, if_neg hn, if_pos hleft, Location.jump_jump]
      refine follows_prepend ?_
      rw [Nat.sub_sub]
      exact ih hless (by simp) hvalid' (hcount.next hstall [a])

theorem repeated (hp : p.Computes m) (hb : b.Fits) : (p.repeated b).Computes (m.repeated b) := by
  intro s hs
  have hstart : (s.location.jump (Progress.start : Progress α).consumed).Valid := by
    simpa [Progress.start] using hs
  have hreach : s.location.jump 0 = s.location.jump (Progress.start : Progress α).consumed := rfl
  have hcount : (Progress.start : Progress α).Counted b
      (b.allowance (s.location.input.utf8ByteSize - s.offset)) := Progress.counted_start b _
  rw [Meaning.repeated]
  rcases hmost : b.most? with - | most
  · have hless : (s.jump (Progress.start : Progress α).consumed).left <
        b.allowance (s.location.input.utf8ByteSize - s.offset) := by
      simp only [Progress.start, State.jump_zero, State.left, Bounds.allowance, hmost,
        Option.getD_none]
      omega
    have hloop := hp.repeatLoop_of_none hb hmost hless hreach hstart hcount
    rw [Progress.joins_start] at hloop
    simp only [Progress.start, Location.jump_zero, Nat.sub_zero] at hloop
    exact hloop
  · have hall : b.allowance (s.location.input.utf8ByteSize - s.offset) = most := by
      rw [Bounds.allowance, hmost, Option.getD_some]
    have hloop := hp.repeatLoop_of_some hb hmost hreach hstart hcount
    rw [Progress.joins_start] at hloop
    simp only [Progress.start, Location.jump_zero, Nat.sub_zero] at hloop
    rw [← hall]
    exact hloop

end Repetition

end Parser.Computes

/-! ### Plans and rules -/

open Descent.Parser in
/-- A plan over rules that compute what they mean does so itself. -/
theorem Plan.Lawful.computes {call : ∀ r, Parser (ρ r)} {meant : ∀ r, Meaning (ρ r)}
    (hsafe : ∀ r, (call r).Safe) (htied : ∀ r, (call r).Tied False)
    (hcall : ∀ r, (call r).Computes (meant r)) {p : Plan ρ α} (hp : p.Lawful)
    (hplain : p.Every Plain) : (p.parser call).Computes (p.meaning meant) := by
  induction p with
  | succeed a => exact Computes.succeed a
  | fail message => exact Computes.fail message
  | literal word => exact Computes.literal word
  | pattern p => exact Computes.pattern hplain
  | eof => exact Computes.eof
  | anyChar => exact Computes.anyChar
  | ofParser p => exact Computes.ofParser hp.1
  | rule r => exact hcall r
  | orElse p q ihp ihq => exact (ihp hp.2.1 hplain.2.1).orElse (ihq hp.2.2 hplain.2.2)
  | flatMap p f ihp ihf => exact hplain.1.elim
  | map p f ih => exact (ih hp.2 hplain.2).map f
  | map2 p q f ihp ihq => exact (ihp hp.2.1 hplain.2.1).map2 (ihq hp.2.2 hplain.2.2) f
  | repeated p b ih => exact (ih hp.2 hplain.2).repeated hp.1
  | slice p ih => exact (ih hp.2 hplain.2).slice (Lawful.tied hsafe htied hp.2 nofun)
  | attempt p ih => exact (ih hp.2 hplain.2).attempt
  | scope p message ih => exact (ih hp.2 hplain.2).scope message
  | label p message ih => exact (ih hp.2 hplain.2).label message
  | optional p ih => exact (ih hp.2 hplain.2).optional
  | retype p f ih => exact (ih hp.2 hplain.2).retype f
  | inMode p sliced ih => exact hp.1.elim

namespace Grammar

variable {g : Grammar ρ} {p : Plan ρ α}

theorem Lawful.computes_call (hg : g.Lawful) (hplain : g.Plain) (depth : Nat) (r : ι) :
    (g.call depth r).Computes (g.ruleMeaning depth r) := by
  induction depth generalizing r with
  | zero => exact fun _ _ ↦ Or.inl ⟨rfl, rfl⟩
  | succ depth ih =>
    exact (hg r).computes (hg.safe_call depth) (hg.tied_call nofun depth) ih (hplain r)

theorem Lawful.computes (hg : g.Lawful) (hplain : g.Plain) (hp : p.Lawful)
    (hparts : p.Every Plan.Plain) (depth : Nat) :
    (g.parserAt depth p).Computes (p.meaning (g.ruleMeaning depth)) :=
  hp.computes (hg.safe_call depth) (hg.tied_call nofun depth) (hg.computes_call hplain depth) hparts

/-- `many` means what its recursion says. -/
theorem Lawful.meaning_many (hg : g.Lawful) (hplain : g.Plain) (hp : p.Lawful)
    (hparts : p.Every Plan.Plain) (depth : Nat) {l : Location} (hl : l.Valid) :
    p.many.meaning (g.ruleMeaning depth) l = (do
      match ← p.meaning (g.ruleMeaning depth) l with
      | .failure frames committed =>
        if committed then some (.failure frames committed) else some (.value [] 0)
      | .value a n =>
        if n = 0 then some (.value [a] n)
        else (p.many.meaning (g.ruleMeaning depth) (l.jump n)).map (.prepend [a] n)) :=
  Meaning.many_eq (hg.computes hplain hp hparts depth).within hl

/-- A run that has ended gives what its plan means. -/
theorem Ends.exists_means {s : State} {answer : Except Fault (Outcome α)}
    (h : g.Ends p (s.withSlicing false) answer) (hg : g.Lawful) (hplain : g.Plain) (hp : p.Lawful)
    (hparts : p.Every Plan.Plain) (hs : s.location.Valid) :
    ∃ o m, answer = .ok o ∧ o.Gives s.location m ∧ g.Means p s.location m := by
  obtain ⟨hne, depth, rfl⟩ := h
  rcases hg.computes hplain hp hparts depth s hs with ⟨hcut, -⟩ | ⟨o, m, hok, hm, hgives⟩
  · exact absurd hcut hne
  · exact ⟨o, m, hok, hgives, depth, hm⟩

/-- A plan that has a meaning has a run that gives it. -/
theorem Means.exists_ends {s : State} {m : Sense α} (h : g.Means p s.location m)
    (hg : g.Lawful) (hplain : g.Plain) (hp : p.Lawful) (hparts : p.Every Plan.Plain)
    (hs : s.location.Valid) :
    ∃ o, g.Ends p (s.withSlicing false) (.ok o) ∧ o.Gives s.location m := by
  obtain ⟨depth, hm⟩ := h
  rcases hg.computes hplain hp hparts depth s hs with ⟨-, hnone⟩ | ⟨o, m', hok, hm', hgives⟩
  · cases hnone.symm.trans hm
  · cases hm'.symm.trans hm
    exact ⟨o, ends_of_ok hok, hgives⟩

/-- **Parsers compute the plain meaning of their plans.** Let a lawful plan and its rules be plain.
If a parse from a valid place with slicing off ends, then with a success that is not bare or with a
failure, and what is read of this outcome, where the parse began, is what the plan means there: the
value and the length, or the frames of the error and the commitment. The plan has no other meaning,
and none if the parse does not end. -/
theorem computes_meaning (hg : g.Lawful) (hplain : g.Plain) (hp : p.Lawful)
    (hparts : p.Every Plan.Plain) {s : State} (hs : s.location.Valid) :
    (∀ answer, g.Ends p (s.withSlicing false) answer →
      ∃ o r, answer = .ok o ∧ (∀ n, o ≠ .success .bare n) ∧
        o.read (s.withSlicing false) = .ok r ∧ g.Means p s.location r.sense) ∧
    (∀ m, g.Means p s.location m →
      ∃ o r, g.Ends p (s.withSlicing false) (.ok o) ∧
        o.read (s.withSlicing false) = .ok r ∧ r.sense = m) := by
  refine ⟨fun answer h ↦ ?_, fun m h ↦ ?_⟩
  · obtain ⟨o, m, rfl, hgives, hmeans⟩ := h.exists_means hg hplain hp hparts hs
    obtain ⟨r, hread, rfl⟩ := Outcome.Gives.exists_read (s := s.withSlicing false) hgives hs
    exact ⟨o, r, rfl, hgives.ne_bare, hread, hmeans⟩
  · obtain ⟨o, hends, hgives⟩ := h.exists_ends hg hplain hp hparts hs
    obtain ⟨r, hread, hr⟩ := Outcome.Gives.exists_read (s := s.withSlicing false) hgives hs
    exact ⟨o, r, hends, hread, hr⟩

/-- Brackets around an `x`, with commas between them, each given as its text. -/
def nestedTexts : Plan (fun _ : Unit ↦ Nat) (List String) :=
  (Plan.rule ()).slice.sepBy (.literal ",")

/-- An open bracket and what belongs into it. Failures say that, and what was being read. -/
def nestedNamed : Plan (fun _ : Unit ↦ Nat) Nat :=
  ((Plan.literal "(").skipLeft ((Plan.rule ()).label "brackets")).scope "text"

/-- The texts are those of the brackets, although slicing mode reads none of them. And if nothing
belongs into a bracket, then it is said of that place what is missing, and of the bracket's what was
being read. -/
theorem nestedTexts_means :
    nested.Means nestedTexts (.start "(x),x!") (.value ["(x)", "x"] 5) ∧
    nested.Means nestedNamed (.start "(y")
      (.failure [⟨(Location.start "(y").jump 1, "brackets"⟩, ⟨.start "(y", "text"⟩] false) := by
  constructor
  · have hlawful : nestedTexts.Lawful :=
      ⟨trivial, trivial, trivial, ⟨trivial, trivial⟩, nofun, trivial, trivial, trivial, trivial⟩
    have hparts : nestedTexts.Every Plan.Plain :=
      ⟨trivial, trivial, trivial, ⟨trivial, trivial⟩, trivial, trivial, trivial, trivial, trivial⟩
    have hs : (State.start "(x),x!").location.Valid := Location.valid_start (by decide)
    have hrun : nested.Ends nestedTexts ((State.start "(x),x!").withSlicing false)
        (.ok (.success (.value ["(x)", "x"]) 5)) := ⟨nofun, 3, rfl⟩
    obtain ⟨o, r, heq, -, hread, hmeans⟩ :=
      (computes_meaning nested_lawful nested_plain hlawful hparts hs).1 _ hrun
    cases heq
    cases hread
    exact hmeans
  · have hs : (State.start "(y").location.Valid := Location.valid_start (by decide)
    have hrun : nested.Ends nestedNamed ((State.start "(y").withSlicing false)
        (.ok (.failure ((((Location.start "(y").jump 1).error "brackets").push
          (.start "(y") "text") false)) := ⟨nofun, 3, rfl⟩
    obtain ⟨o, r, heq, -, hread, hmeans⟩ :=
      (computes_meaning nested_lawful nested_plain (p := nestedNamed)
        ⟨trivial, trivial, trivial, trivial, trivial⟩
        ⟨trivial, trivial, trivial, trivial, trivial⟩ hs).1 _ hrun
    cases heq
    cases hread
    exact hmeans

end Grammar

end Descent
