import Descent.Proofs.ByContinuation
import Descent.Proofs.Calls
import Descent.Proofs.Pieces
import Descent.Proofs.Turns
import Descent.Proofs.Unrolling

/-!
# Repetitions of repetitions

A repetition without an upper bound goes on until its parser rests: fails without committing, or
matches nothing (`Parser.Rests`). In slicing mode nothing else is to be known of it: it succeeds
over the bytes behind which the parser rests, and fails as a run on the way does that commits
(`many_eq_success_iff` and its companions). Where the parser rests, so does its repetition. So a
repetition of that has one turn, and gets as far as the inner one by itself.

Nothing is read in slicing mode, with one exception: an option asks for the value of what it is
given, and if that is a text, the text is read. Inside a character this is a fault. So a repetition
of an option is the only one for which it matters where texts begin and end
(`nested_repetitions_collapse`).
-/

namespace Descent

variable {ι : Type} {ρ : ι → Type} {α β : Type}

namespace Parser

/-- A repetition gets no further than here: the parser fails and does not commit, or it matches
nothing. -/
def Rests (p : Parser α) (t : State) : Prop :=
  (∃ e, p t = .ok (.failure e false)) ∨ ∃ y, p t = .ok (.success y 0)

section Reach

variable {p : Parser α} {here : Location → Prop} {s t : State} {turns : List (Turn α)}

/-- A chain that ends with an empty turn ends where the parser rests. -/
theorem Chain.rests_of_last (h : p.Chain s turns t) {turn : Turn α}
    (hlast : turns.getLast? = some turn) (hempty : turn.consumed = 0) : p.Rests t := by
  induction h with
  | nil s => cases hlast
  | @cons s t y n turns run rest ih =>
    cases rest with
    | nil =>
      obtain rfl := Option.some.inj hlast
      obtain rfl : n = 0 := hempty
      rw [State.jump_zero]
      exact Or.inr ⟨y, run⟩
    | cons run' rest' => exact ih hlast

/-- A repetition comes to where its parser rests. -/
theorem Leads.many_of_rests {n : Nat} {V : State → Prop} (h : p.Leads s (s.jump n))
    (hp : p.Carries V) (hs : V s) (hon : s.sliced = true) (hrests : p.Rests (s.jump n)) :
    p.many s = .ok (.success .bare n) := by
  have hgathers : ∀ turns : List (Turn α),
      (Yield.bare : Yield (List α)).Gathers s.sliced turns := fun turns ↦
    ⟨fun _ ↦ rfl, fun hoff ↦ (nomatch hon.symm.trans hoff)⟩
  obtain ⟨turns, hchain, hconsume⟩ := h.exists_chain
  have hcontinues : Bounds.Continues { least := 0, most? := none } turns :=
    ⟨nofun, fun _ ↦ hconsume⟩
  obtain rfl := hchain.eq_total
  refine (hp.repeated_eq_iff Bounds.meetable_many.fits hs).2 ?_
  rcases hrests with ⟨e, run⟩ | ⟨y, run⟩
  · exact ⟨turns, _, hchain, .success hcontinues.admits (fun _ ↦ Nat.zero_le _) (.failed e run)
      (hgathers turns)⟩
  · -- The empty turn is the last one.
    obtain ⟨last, hempty, hall⟩ : ∃ last : Turn α, last.consumed = 0 ∧
        p.Chain s (turns ++ [last]) (s.jump (Turn.total turns)) :=
      ⟨{ start := s.jump (Turn.total turns), yield := y, consumed := 0 }, rfl, by
        simpa using hchain.concat run⟩
    have htotal : Turn.total turns = Turn.total (turns ++ [last]) := by simp [hempty]
    refine ⟨turns ++ [last], _, hall, ?_⟩
    rw [htotal]
    exact .success (hcontinues.admits_concat last) (fun _ ↦ Nat.zero_le _)
      (.empty rfl last List.getLast?_concat hempty) (hgathers _)

section Sliced

variable (hp : p.SlicesWithin here) (hhere : ∀ l, here l → l.Inside) (hs : here s.location)
  (hon : s.sliced = true)

include hp hhere hs hon

/-- In slicing mode a repetition succeeds over the bytes behind which its parser rests. -/
theorem many_eq_success_iff {w : Yield (List α)} {n : Nat} :
    p.many s = .ok (.success w n) ↔
      w = .bare ∧ p.Leads s (s.jump n) ∧ p.Rests (s.jump n) := by
  have hcarries := hp.carries hhere
  constructor
  · intro h
    obtain ⟨turns, t, hchain, hends⟩ :=
      (hcarries.repeated_eq_iff Bounds.meetable_many.fits ⟨hon, hs⟩).1 h
    rcases hends with ⟨admits, -, stops, gathers⟩
    obtain rfl := hchain.end_eq
    refine ⟨gathers.bare hon, hchain.leads (admits.unbounded rfl), ?_⟩
    rcases stops with hmost | ⟨-, turn, hlast, hempty⟩ | ⟨e, run⟩
    · cases hmost
    · exact hchain.rests_of_last hlast hempty
    · exact Or.inl ⟨e, run⟩
  · rintro ⟨rfl, hleads, hrests⟩
    exact hleads.many_of_rests hcarries ⟨hon, hs⟩ hon hrests

/-- It fails where a run on the way fails and commits. -/
theorem many_eq_failure_iff {e : ParseError} {committed : Bool} :
    p.many s = .ok (.failure e committed) ↔
      committed = true ∧ ∃ t, p.Leads s t ∧ p t = .ok (.failure e true) := by
  have hcarries := hp.carries hhere
  constructor
  · intro h
    obtain ⟨turns, t, hchain, hends⟩ :=
      (hcarries.repeated_eq_iff Bounds.meetable_many.fits ⟨hon, hs⟩).1 h
    rcases hends with - | ⟨continues, run, final⟩
    obtain rfl : committed = true := final.resolve_right (Nat.not_lt_zero _)
    exact ⟨rfl, t, hchain.leads (continues.admits.unbounded rfl), run⟩
  · rintro ⟨rfl, t, hleads, run⟩
    exact hleads.repeated_of_committed hcarries rfl ⟨hon, hs⟩ run

/-- And it has the fault of a run on the way. -/
theorem many_eq_error_iff {fault : Fault} :
    p.many s = .error fault ↔ ∃ t, p.Leads s t ∧ p t = .error fault := by
  have hcarries := hp.carries hhere
  have hiff := hcarries.repeated_eq_iff (x := .error fault) Bounds.meetable_many.fits ⟨hon, hs⟩
  constructor
  · intro h
    obtain ⟨turns, t, hchain, hends⟩ := hiff.1 h
    rcases hends with - | - | ⟨continues, run⟩
    exact ⟨t, hchain.leads (continues.admits.unbounded rfl), run⟩
  · rintro ⟨t, hleads, run⟩
    obtain ⟨turns, hchain, hconsume⟩ := hleads.exists_chain
    exact hiff.2 ⟨turns, t, hchain, .fault ⟨nofun, fun _ ↦ hconsume⟩ run⟩

/-- At least once is any number of times, but where not even the first run succeeds. -/
theorem many1_eq_many_or :
    p.many1 s = p.many s ∨
      ∃ e, p s = .ok (.failure e false) ∧ p.many1 s = .ok (.failure e false) := by
  have hcarries := hp.carries hhere
  obtain ⟨turns, t, hchain, hends⟩ := (hcarries.repeated_eq_iff Bounds.meetable_many1.fits
    ⟨hon, hs⟩ (x := p.many1 s)).1 rfl
  by_cases hfirst : ∃ e, p.many1 s = .ok (.failure e false)
  · obtain ⟨e, hfail⟩ := hfirst
    rw [hfail] at hends
    rcases hends with - | ⟨-, run, final⟩
    have hnil : turns = [] := by simpa using final
    subst hnil
    cases hchain
    exact Or.inr ⟨e, run, hfail⟩
  · have hmany := hends.weaken fun e hfail ↦ hfirst ⟨e, hfail⟩
    exact Or.inl ((hcarries.repeated_eq_iff Bounds.meetable_many.fits ⟨hon, hs⟩).2
      ⟨turns, t, hchain, hmany⟩).symm

theorem many_of_rests (hrests : p.Rests s) : p.many s = .ok (.success .bare 0) := by
  refine (many_eq_success_iff hp hhere hs hon).2 ⟨rfl, ?_, ?_⟩
  · rw [State.jump_zero]
    exact .refl s
  · rwa [State.jump_zero]

/-- Where a parser rests, its repetition does. -/
theorem Rests.many (hrests : p.Rests s) : p.many.Rests s :=
  Or.inr ⟨_, many_of_rests hp hhere hs hon hrests⟩

theorem Rests.many1 (hrests : p.Rests s) : p.many1.Rests s := by
  rcases many1_eq_many_or hp hhere hs hon with hsame | ⟨e, -, hfail⟩
  · exact Or.inr ⟨_, hsame.trans (many_of_rests hp hhere hs hon hrests)⟩
  · exact Or.inl ⟨e, hfail⟩

end Sliced

theorem SlicesWithin.repeated (hp : p.SlicesWithin here) (hhere : ∀ l, here l → l.Inside)
    {b : Bounds} (hb : b.Fits) : (p.repeated b).SlicesWithin here := by
  intro s w n hon hs run
  have hcarries := hp.carries hhere
  obtain ⟨turns, t, hchain, hends⟩ := (hcarries.repeated_eq_iff hb ⟨hon, hs⟩).1 run
  rcases hends with ⟨-, -, -, -⟩
  rw [← State.location_jump, ← hchain.end_eq]
  exact (hchain.carries hcarries ⟨hon, hs⟩).2

end Reach

/-! ### Repetitions and options of repetitions -/

/-- A slice keeps of an answer the length alone. -/
theorem slice_congr {p : Parser α} {q : Parser β} {s : State}
    (h : Outcome.toSlice <$> p (s.withSlicing true) = Outcome.toSlice <$> q (s.withSlicing true)) :
    p.slice s = q.slice s := by
  have hslice : ∀ {γ : Type} (r : Parser γ),
      r.slice s = Outcome.toSlice <$> r (s.withSlicing true) := fun r ↦ by
    rw [slice, map_eq_pure_bind]
  rw [hslice, hslice, h]

theorem optional_of_error {p : Parser α} {s : State} {fault : Fault}
    (run : p s = .error fault) : p.optional s = .error fault := by
  rw [optional, run]
  rfl

theorem optional_of_failure {p : Parser α} {s : State} {e : ParseError} {committed : Bool}
    (run : p s = .ok (.failure e committed)) :
    p.optional s = .ok (if committed then .failure e true else .value none 0) := by
  rw [optional, run]
  cases committed <;> rfl

/-- The texts that the parser gives in slicing mode begin and end between two characters. -/
def TextsBetween (p : Parser α) (here : Location → Prop) : Prop :=
  ∀ t make n, t.sliced = true → here t.location → p t = .ok (.success (.text make) n) →
    t.location.Valid ∧ (t.location.jump n).Valid

section Nested

variable {p : Parser α} {q : Parser (List α)} {here : Location → Prop} {s t : State}
  (hp : p.SlicesWithin here) (hhere : ∀ l, here l → l.Inside) (hs : here s.location)
  (hon : s.sliced = true)

include hp hhere hs hon

/-- In slicing mode a repetition gives no value and fails only to commit. So a parser is as good as
the repetition if it does the same as that in three cases. -/
theorem alike_of_many {r : Parser β}
    (herror : ∀ fault, p.many s = .error fault → r s = .error fault)
    (hsuccess : ∀ n, p.many s = .ok (.success .bare n) → ∃ w, r s = .ok (.success w n))
    (hfailure : ∀ e, p.many s = .ok (.failure e true) → r s = .ok (.failure e true)) :
    Outcome.toSlice <$> r s = Outcome.toSlice <$> p.many s := by
  rcases hmany : p.many s with fault | ⟨w, n⟩ | ⟨e, committed⟩
  · rw [herror fault hmany]
    rfl
  · obtain ⟨rfl, -⟩ := (many_eq_success_iff hp hhere hs hon).1 hmany
    obtain ⟨w, hr⟩ := hsuccess n hmany
    rw [hr]
    rfl
  · obtain ⟨rfl, -⟩ := (many_eq_failure_iff hp hhere hs hon).1 hmany
    rw [hfailure e hmany]
    rfl

/-- A repetition of what answers as `many` does at the start, and rests where the parser rests. -/
theorem many_alike (hq : q.SlicesWithin here)
    (hrests : ∀ t : State, here t.location → t.sliced = true → p.Rests t → q.Rests t)
    (hsame : q s = p.many s) : Outcome.toSlice <$> q.many s = Outcome.toSlice <$> p.many s := by
  refine alike_of_many hp hhere hs hon (fun fault hmany ↦ ?_) (fun n hmany ↦ ?_)
    (fun e hmany ↦ ?_)
  · exact (many_eq_error_iff hq hhere hs hon).2 ⟨s, .refl s, hsame.trans hmany⟩
  · obtain ⟨-, hleads, hend⟩ := (many_eq_success_iff hp hhere hs hon).1 hmany
    have hreach : q.Leads s (s.jump n) := by
      rcases n with - | n
      · rw [State.jump_zero]
        exact .refl s
      · exact .step (hsame.trans hmany) n.succ_ne_zero (.refl _)
    obtain ⟨hon', hs'⟩ := hleads.carries (hp.carries hhere) ⟨hon, hs⟩
    exact ⟨.bare, (many_eq_success_iff hq hhere hs hon).2
      ⟨rfl, hreach, hrests _ hs' hon' hend⟩⟩
  · exact (many_eq_failure_iff hq hhere hs hon).2 ⟨rfl, s, .refl s, hsame.trans hmany⟩

theorem many_many_alike :
    Outcome.toSlice <$> p.many.many s = Outcome.toSlice <$> p.many s :=
  many_alike hp hhere hs hon (hp.repeated hhere Bounds.meetable_many.fits)
    (fun _ ht hton hrests ↦ hrests.many hp hhere ht hton) rfl

theorem many_many1_alike :
    Outcome.toSlice <$> p.many1.many s = Outcome.toSlice <$> p.many s := by
  have hmany1 : p.many1.SlicesWithin here := hp.repeated hhere Bounds.meetable_many1.fits
  rcases many1_eq_many_or hp hhere hs hon with hsame | ⟨e, hfirst, hfail⟩
  · exact many_alike hp hhere hs hon hmany1
      (fun _ ht hton hrests ↦ hrests.many1 hp hhere ht hton) hsame
  · rw [many_of_rests hp hhere hs hon (Or.inl ⟨e, hfirst⟩),
      many_of_rests hmany1 hhere hs hon (Or.inl ⟨e, hfail⟩)]
    rfl

theorem optional_many_alike :
    Outcome.toSlice <$> p.many.optional s = Outcome.toSlice <$> p.many s := by
  refine alike_of_many hp hhere hs hon (fun fault hmany ↦ optional_of_error hmany)
    (fun n hmany ↦ ?_) (fun e hmany ↦ optional_of_failure hmany)
  rw [optional, hmany]
  exact ⟨.bare, rfl⟩

theorem optional_many1_alike :
    Outcome.toSlice <$> p.many1.optional s = Outcome.toSlice <$> p.many s := by
  rcases many1_eq_many_or hp hhere hs hon with hsame | ⟨e, hfirst, hfail⟩
  · have hoptional : p.many1.optional s = p.many.optional s := by rw [optional, optional, hsame]
    rw [hoptional, optional_many_alike hp hhere hs hon]
  · rw [many_of_rests hp hhere hs hon (Or.inl ⟨e, hfirst⟩), optional, hfail]
    rfl

end Nested

/-! ### Repetitions of options -/

section Option

variable {p : Parser α} {here : Location → Prop} {s t : State}

/-- An option reads the text that it is given. -/
theorem TextsBetween.exists_optional_of_success (htexts : p.TextsBetween here)
    (hs : here s.location) (hon : s.sliced = true) {y : Yield α} {n : Nat}
    (run : p s = .ok (.success y n)) : ∃ z, p.optional s = .ok (.success z n) := by
  rw [optional, run]
  cases y with
  | value a => exact ⟨.value (some a), rfl⟩
  | text make =>
    obtain ⟨hvalid, hn⟩ := htexts s make n hon hs run
    have hread : (Yield.text make).read s n = .ok (make (s.location.text n)) :=
      Yield.read_eq hvalid hn rfl
    exact ⟨.value (some (make (s.location.text n))), by
      simp only [ok_bind, Outcome.mapValue, hread]
      rfl⟩
  | bare => exact ⟨.bare, rfl⟩

theorem TextsBetween.slicesWithin_optional (htexts : p.TextsBetween here)
    (hp : p.SlicesWithin here) : p.optional.SlicesWithin here := by
  intro s z n hon hs h
  rcases run : p s with fault | ⟨y, m⟩ | ⟨e, _ | _⟩
  · cases (optional_of_error run).symm.trans h
  · obtain ⟨z', hsuccess⟩ := htexts.exists_optional_of_success hs hon run
    cases hsuccess.symm.trans h
    exact hp s y _ hon hs run
  · cases (optional_of_failure run).symm.trans h
    rwa [Location.jump_zero]
  · cases (optional_of_failure run).symm.trans h

theorem Leads.optional (h : p.Leads s t) (hp : p.SlicesWithin here)
    (htexts : p.TextsBetween here) (hs : here s.location) (hon : s.sliced = true) :
    p.optional.Leads s t := by
  induction h with
  | refl s => exact .refl s
  | @step s t y n run hn rest ih =>
    obtain ⟨z, hsuccess⟩ := htexts.exists_optional_of_success hs hon run
    exact .step hsuccess hn (ih (hp s y n hon hs run) hon)

theorem Rests.optional (h : p.Rests s) (htexts : p.TextsBetween here) (hs : here s.location)
    (hon : s.sliced = true) : p.optional.Rests s := by
  rcases h with ⟨e, run⟩ | ⟨y, run⟩
  · exact Or.inr ⟨_, optional_of_failure run⟩
  · obtain ⟨z, hsuccess⟩ := htexts.exists_optional_of_success hs hon run
    exact Or.inr ⟨z, hsuccess⟩

/-- An option takes the same turns, and where its parser fails, one more that is empty. -/
theorem many_optional_alike (htexts : p.TextsBetween here) (hp : p.SlicesWithin here)
    (hhere : ∀ l, here l → l.Inside) (hs : here s.location) (hon : s.sliced = true) :
    Outcome.toSlice <$> p.optional.many s = Outcome.toSlice <$> p.many s := by
  have hoptional := htexts.slicesWithin_optional hp
  refine alike_of_many hp hhere hs hon (fun fault hmany ↦ ?_) (fun n hmany ↦ ?_)
    (fun e hmany ↦ ?_)
  · obtain ⟨t, hleads, run⟩ := (many_eq_error_iff hp hhere hs hon).1 hmany
    exact (many_eq_error_iff hoptional hhere hs hon).2
      ⟨t, hleads.optional hp htexts hs hon, optional_of_error run⟩
  · obtain ⟨-, hleads, hrests⟩ := (many_eq_success_iff hp hhere hs hon).1 hmany
    obtain ⟨hon', hs'⟩ := hleads.carries (hp.carries hhere) ⟨hon, hs⟩
    exact ⟨.bare, (many_eq_success_iff hoptional hhere hs hon).2
      ⟨rfl, hleads.optional hp htexts hs hon, hrests.optional htexts hs' hon'⟩⟩
  · obtain ⟨-, t, hleads, run⟩ := (many_eq_failure_iff hp hhere hs hon).1 hmany
    exact (many_eq_failure_iff hoptional hhere hs hon).2
      ⟨rfl, t, hleads.optional hp htexts hs hon, optional_of_failure run⟩

end Option

end Parser

/-! ### Plans -/

namespace Grammar

variable {g : Grammar ρ} {p : Plan ρ α} {here : Location → Prop} {s : State}

/-- Runs at finitely many places need a finite depth together. -/
theorem exists_depth_forall_lt
    (hp : ∀ t : State, t.sliced = true → here t.location → ∃ o, g.Ends p t (.ok o))
    (hon : s.sliced = true) (k : Nat) :
    ∃ depth, ∀ more n, n < k → here (s.jump n).location →
      ∃ o, g.parserAt (depth + more) p (s.jump n) = .ok o := by
  induction k with
  | zero => exact ⟨0, fun _ _ hn ↦ absurd hn (Nat.not_lt_zero _)⟩
  | succ k ih =>
    obtain ⟨depth, hearlier⟩ := ih
    by_cases hk : here (s.jump k).location
    · obtain ⟨o, hends⟩ := hp (s.jump k) hon hk
      obtain ⟨depth', hlast⟩ := hends.parserAt
      refine ⟨depth + depth', fun more n hn hplace ↦ ?_⟩
      rcases Nat.lt_succ_iff_lt_or_eq.1 hn with hlt | rfl
      · rw [Nat.add_assoc]
        exact hearlier (depth' + more) n hlt hplace
      · refine ⟨o, ?_⟩
        rw [Nat.add_comm depth, Nat.add_assoc]
        exact hlast (depth + more)
    · refine ⟨depth, fun more n hn hplace ↦ ?_⟩
      rcases Nat.lt_succ_iff_lt_or_eq.1 hn with hlt | rfl
      · exact hearlier more n hlt hplace
      · exact absurd hplace hk

/-- A repetition in slicing mode ends if its plan does at the places that it comes to: they lie in
the input, and there are finitely many. -/
theorem exists_ends_slice_many (hhere : ∀ l, here l → l.Inside)
    (hslices : ∀ depth, (g.parserAt depth p).SlicesWithin here)
    (hp : ∀ t : State, t.sliced = true → here t.location → ∃ o, g.Ends p t (.ok o))
    (hs : here s.location) : ∃ o, g.Ends p.many.slice s (.ok o) := by
  have hon : (s.withSlicing true).sliced = true := rfl
  have hstart : here (s.withSlicing true).location := hs
  obtain ⟨depth, hdepth⟩ := exists_depth_forall_lt hp hon (s.location.input.utf8ByteSize + 1)
  have hanswer : ∃ o, (g.parserAt depth p).many (s.withSlicing true) = .ok o := by
    rcases hrun : (g.parserAt depth p).many (s.withSlicing true) with fault | o
    · obtain ⟨t, hleads, hfault⟩ :=
        (Parser.many_eq_error_iff (hslices depth) hhere hstart hon).1 hrun
      obtain ⟨-, ht⟩ := hleads.carries ((hslices depth).carries hhere) ⟨hon, hstart⟩
      obtain ⟨n, rfl⟩ := hleads.exists_jump
      have hn : s.location.offset + n ≤ s.location.input.utf8ByteSize := (hhere _ ht).offset_le
      obtain ⟨o, ho⟩ := hdepth 0 n (by omega) ht
      cases hfault.symm.trans ho
    · exact ⟨o, rfl⟩
  obtain ⟨o, ho⟩ := Parser.exists_slice_eq_ok hanswer
  exact ⟨o, nofun, depth, ho⟩

/-- Plans that get as far as each other at each depth have the same slices. -/
theorem Ends.slice_of_alike {q : Plan ρ β} {o : Outcome String}
    (h : g.Ends p.slice s (.ok o))
    (halike : ∀ depth, Outcome.toSlice <$> g.parserAt depth q (s.withSlicing true) =
      Outcome.toSlice <$> g.parserAt depth p (s.withSlicing true)) :
    g.Ends q.slice s (.ok o) := by
  have hslice : ∀ depth, g.parserAt depth q.slice s = g.parserAt depth p.slice s := fun depth ↦
    Parser.slice_congr (halike depth)
  exact (ends_iff_of_forall hslice _).2 h

/-- **Nested repetitions collapse.** Let the runs of a plan in slicing mode end with an outcome at
all places of a kind, which lie in the input, and let its successes lead to such places again. Then
from each of them, the sliced repetition of the plan ends, and so do those of its repetitions,
`many` and `many1`, and of their options: all with the very same outcome. The sliced repetition of
its option ends so as well, if the texts that the plan gives begin and end between two
characters. -/
theorem nested_repetitions_collapse (hhere : ∀ l, here l → l.Inside)
    (hp : ∀ t : State, t.sliced = true → here t.location →
      ∃ o, g.Ends p t (.ok o) ∧ ∀ y n, o = .success y n → here (t.location.jump n))
    (hs : here s.location) :
    ∃ o, g.Ends p.many.slice s (.ok o) ∧
      g.Ends p.many.many.slice s (.ok o) ∧ g.Ends p.many1.many.slice s (.ok o) ∧
      g.Ends p.many.optional.slice s (.ok o) ∧ g.Ends p.many1.optional.slice s (.ok o) ∧
      ((∀ t make n, t.sliced = true → here t.location →
          g.Ends p t (.ok (.success (.text make) n)) →
          t.location.Valid ∧ (t.location.jump n).Valid) →
        g.Ends p.optional.many.slice s (.ok o)) := by
  have hon : (s.withSlicing true).sliced = true := rfl
  have hstart : here (s.withSlicing true).location := hs
  have hslices : ∀ depth, (g.parserAt depth p).SlicesWithin here := by
    intro depth t y n ht hplace run
    obtain ⟨o, hends, hbehind⟩ := hp t ht hplace
    cases hends.unique (ends_of_ok run)
    exact hbehind y n rfl
  obtain ⟨o, hmany⟩ := exists_ends_slice_many hhere hslices
    (fun t ht hplace ↦ (hp t ht hplace).imp fun _ ↦ And.left) hs
  refine ⟨o, hmany, hmany.slice_of_alike fun depth ↦ ?_, hmany.slice_of_alike fun depth ↦ ?_,
    hmany.slice_of_alike fun depth ↦ ?_, hmany.slice_of_alike fun depth ↦ ?_,
    fun htexts ↦ hmany.slice_of_alike fun depth ↦ ?_⟩
  · exact Parser.many_many_alike (hslices depth) hhere hstart hon
  · exact Parser.many_many1_alike (hslices depth) hhere hstart hon
  · exact Parser.optional_many_alike (hslices depth) hhere hstart hon
  · exact Parser.optional_many1_alike (hslices depth) hhere hstart hon
  · have hbetween : (g.parserAt depth p).TextsBetween here := fun t make n ht hplace run ↦
      htexts t make n ht hplace (ends_of_ok run)
    exact Parser.many_optional_alike hbetween (hslices depth) hhere hstart hon

/-- Two accented letters in front of a plain one are all that any of the repetitions finds. -/
theorem accented_repetitions_collapse :
    nested.Ends (Plan.literal "é").many1.many.slice (.start "ééx") (.ok (.slice 4)) ∧
      nested.Ends (Plan.literal "é").optional.many.slice (.start "ééx") (.ok (.slice 4)) := by
  have hanswers : ∀ t : State, t.sliced = true → t.location.Valid →
      ∃ o, nested.Ends (.literal "é") t (.ok o) ∧
        ∀ y n, o = .success y n → (t.location.jump n).Valid := by
    intro t _ ht
    rcases Parser.Safe.literal "é" t ht with hcut | ⟨o, ho, hwithin⟩
    · exact absurd hcut (Parser.finishes_literal "é" t)
    · refine ⟨o, ⟨nofun, 0, ho⟩, ?_⟩
      rintro y n rfl
      exact (Parser.Safe.literal "é").stays t y n ht ho |>.1
  have hs : (State.start "ééx").location.Valid := Location.valid_start (by decide)
  have hmany : nested.Ends (Plan.literal "é").many.slice (.start "ééx") (.ok (.slice 4)) :=
    ⟨nofun, 0, rfl⟩
  obtain ⟨o, ho, -, hmany1, -, -, hoption⟩ :=
    nested_repetitions_collapse (fun _ ↦ Location.Valid.inside) hanswers hs
  cases ho.unique hmany
  refine ⟨hmany1, hoption fun t make n hon ht hends ↦ ⟨ht, ?_⟩⟩
  obtain ⟨o, ho, hbehind⟩ := hanswers t hon ht
  cases ho.unique hends
  exact hbehind _ n rfl

/-- Inside an accented letter, a parser that finds an empty text everywhere. Its repetition finds it
once and reads nothing. The repetition of its option reads the text, and that is a fault. -/
theorem repeated_option_unreadable :
    (∀ t : State, t.location.Inside →
      nested.Ends (Plan.ofParser (.span 0)) t (.ok (.slice 0)) ∧ (t.location.jump 0).Inside) ∧
    ((State.start "é").jump 1).location.Inside ∧
    nested.Ends (Plan.ofParser (.span 0)).many.slice ((State.start "é").jump 1)
      (.ok (.slice 0)) ∧
    nested.Ends (Plan.ofParser (.span 0)).optional.many.slice ((State.start "é").jump 1)
      (.error .unreadable) := by
  refine ⟨fun t ht ↦ ⟨⟨nofun, 0, rfl⟩, ?_⟩, ⟨by decide, by decide⟩, ⟨nofun, 0, rfl⟩,
    ⟨nofun, 0, rfl⟩⟩
  rwa [Location.jump_zero]

end Grammar

end Descent
