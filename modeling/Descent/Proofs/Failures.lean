import Descent.Proofs.Depth
import Descent.Proofs.Iteration

/-!
# What failures are like

A law of failures relates the place where a parser started to the error that it fails with and to
its commitment. A parser obeys the law if all its failures do (`Parser.Obeys`); what it answers
otherwise, and whether it answers at all, does not matter. Hence no place has to be valid here.

Failures are made by primitives, and handed on by combinators in a few ways only: as they are, with
another commitment, with a frame or a message more, or from a place further on. So there is a lemma
for each combinator that says what a law has to allow for. Three of them ask for less than one might
think. An alternative takes the place of an uncommitted failure, so only committed ones of the first
parser are handed on (`orElse`, `optional`). A continuation fails committed, or where its first
parser started (`flatMap`). And a turn of a repetition is handed on if it committed or if too few
came before, of which those before the first are none (`repeated`).

What alternatives and options come to after a success, a committed failure or an uncommitted one is
said here as well, of parsers and of the runs of plans.
-/

namespace Descent

variable {α β γ : Type}

/-- What may be said of a failure: where the parser started, its error, and its commitment. -/
abbrev FailureLaw := Location → ParseError → Bool → Prop

/-- An outcome of a run that started at `l` obeys the law, if it is a failure. -/
def Outcome.Obeys (F : FailureLaw) (l : Location) : Outcome α → Prop
  | success _ _ => True
  | failure e committed => F l e committed

/-- All failures of the parser obey the law. -/
def Parser.Obeys (p : Parser α) (F : FailureLaw) : Prop :=
  ∀ s, Ensures (Outcome.Obeys F s.location) (p s)

theorem State.ensures_advance (s : State) (n : Nat) : Ensures (· = s.jump n) (s.advance n) :=
  fun _ h ↦ (advance_eq_ok_iff.1 h).2.2

namespace Outcome

variable {F : FailureLaw} {l : Location}

theorem Obeys.mapValue {o : Outcome α} (ho : o.Obeys F l) (s : State) (f : α → β) :
    Ensures (Obeys F l) (o.mapValue s f) := by
  cases o with
  | success y n =>
    have hread : ∀ z : Yield α, Ensures (Obeys F l) (do return value (f (← z.read s n)) n) :=
      fun z ↦ Ensures.bind_any fun _ ↦ Ensures.ok trivial
    cases y with
    | value a => exact hread (.value a)
    | text g => exact hread (.text g)
    | bare => exact Ensures.ok trivial
  | failure e committed => exact Ensures.ok ho

theorem obeys_pair (f : α → β → γ) (s next : State) (y : Yield α) (m : Nat) (z : Yield β)
    (n : Nat) : Ensures (Obeys F l) (pair f s next y m z n) := by
  have hsum : ∀ w : Yield γ, Ensures (Obeys F l) (do return success w (← addCounts m n)) :=
    fun w ↦ Ensures.bind_any fun _ ↦ Ensures.ok trivial
  unfold pair
  split
  · exact hsum .bare
  · refine Ensures.bind_any fun a ↦ ?_
    exact Ensures.bind_any fun b ↦
      hsum (.value (f a b))

/-- Reading does not change a failure. -/
theorem ensures_read (o : Outcome α) (s : State) :
    Ensures (fun r ↦ ∀ e committed, r = .failure e committed → o = .failure e committed)
      (o.read s) := by
  cases o with
  | success y n =>
    exact Ensures.bind_any fun _ ↦ Ensures.ok nofun
  | failure e committed =>
    refine Ensures.ok fun e' committed' h ↦ ?_
    cases h
    rfl

end Outcome

/-! ### What alternatives come to -/

namespace Parser

variable {p : Parser α} {s : State} {e : ParseError}

theorem orElse_of_error (q : Parser α) {fault : Fault} (h : p s = .error fault) :
    p.orElse q s = .error fault := by
  rw [orElse, h]
  rfl

theorem orElse_of_success (q : Parser α) {y : Yield α} {n : Nat}
    (h : p s = .ok (.success y n)) : p.orElse q s = .ok (.success y n) := by
  rw [orElse, h]
  rfl

theorem orElse_of_committed (q : Parser α) (h : p s = .ok (.failure e true)) :
    p.orElse q s = .ok (.failure e true) := by
  rw [orElse, h]
  rfl

theorem orElse_of_uncommitted (q : Parser α) (h : p s = .ok (.failure e false)) :
    p.orElse q s = q s := by
  rw [orElse, h]
  rfl

/-- An alternative succeeds where its first parser does, or gives way to one that does. -/
theorem orElse_eq_success_iff {q : Parser α} {y : Yield α} {n : Nat} :
    p.orElse q s = .ok (.success y n) ↔
      p s = .ok (.success y n) ∨
        (∃ e, p s = .ok (.failure e false)) ∧ q s = .ok (.success y n) := by
  rcases hrun : p s with fault | ⟨z, m⟩ | ⟨e, - | -⟩
  · simp only [orElse, hrun]
    exact ⟨nofun, nofun⟩
  · simp [orElse_of_success q hrun]
  · simp [orElse_of_uncommitted q hrun]
  · simp [orElse_of_committed q hrun]

theorem optional_of_committed (h : p s = .ok (.failure e true)) :
    p.optional s = .ok (.failure e true) := by
  rw [optional, h]
  rfl

end Parser

namespace Parser.Obeys

variable {F G : FailureLaw}

/-! ### Primitives -/

theorem succeed (a : α) : (succeed a).Obeys F := fun _ ↦
  Ensures.ok trivial

theorem fail {message : String} (h : ∀ l : Location, F l (l.error message) true) :
    (fail message : Parser α).Obeys F := fun s ↦
  Ensures.ok (h s.location)

theorem literal {word : String}
    (h : ∀ (l : Location) text n, firstMismatch word.toList text = some n →
      F l ((l.jump n).error s!"'{word}'") (n != 0)) : (literal word).Obeys F := by
  intro s
  refine Ensures.bind_any fun text ↦ ?_
  rcases hmismatch : firstMismatch word.toList text with - | n
  · dsimp only
    split
    · exact Ensures.ok trivial
    · exact Ensures.bind_any fun _ ↦ Ensures.ok trivial
  · have hplace : Ensures (· = s.location.jump n) (s.location.advance n) := fun _ hl ↦
      (Location.advance_eq_ok_iff.1 hl).2.2
    refine hplace.bind fun place hjump ↦ ?_
    subst hjump
    exact Ensures.ok (h s.location text n hmismatch)

theorem pattern {p : Pattern} (h : ∀ (l : Location) message, F l (l.error message) false) :
    (pattern p).Obeys F := by
  intro s
  refine Ensures.bind_any fun text ↦ ?_
  rcases p.find text with - | found
  · exact Ensures.ok (h s.location _)
  · dsimp only
    split <;> exact Ensures.ok trivial

theorem eof (h : ∀ (l : Location) message, F l (l.error message) false) : eof.Obeys F := by
  intro s
  refine Ensures.bind_any fun text ↦ ?_
  cases text with
  | nil => exact Ensures.ok trivial
  | cons c cs => exact Ensures.ok (h s.location _)

theorem anyChar (h : ∀ (l : Location) message, F l (l.error message) false) :
    anyChar.Obeys F := by
  intro s
  refine Ensures.bind_any fun text ↦ ?_
  cases text with
  | nil => exact Ensures.ok (h s.location _)
  | cons c cs => exact Ensures.ok trivial

/-! ### One place -/

section

variable {p q : Parser α}

/-- Any failures at all. -/
theorem any (p : Parser α) : p.Obeys fun _ _ _ ↦ True := fun s ↦
  Ensures.of_forall (fun o ↦ by cases o <;> trivial) (p s)

theorem orElse (hp : p.Obeys G) (hq : q.Obeys F) (h : ∀ l e, G l e true → F l e true) :
    (p.orElse q).Obeys F := by
  intro s
  refine (hp s).bind fun o ho ↦ ?_
  rcases o with ⟨y, n⟩ | ⟨e, - | -⟩
  · exact Ensures.ok trivial
  · exact hq s
  · exact Ensures.ok (h s.location e ho)

theorem optional (hp : p.Obeys G) (h : ∀ l e, G l e true → F l e true) :
    p.optional.Obeys F := by
  intro s
  refine (hp s).bind fun o ho ↦ ?_
  rcases o with ⟨y, n⟩ | ⟨e, - | -⟩
  · have hsuccess : (Outcome.success y n).Obeys F s.location := trivial
    exact hsuccess.mapValue s some
  · exact Ensures.ok trivial
  · exact Ensures.ok (h s.location e ho)

/-- What is done to an answer alone has to do to a failure what the law allows for. -/
theorem after {f : State → Outcome α → Outcome β} (hp : p.Obeys G)
    (hf : ∀ s o, o.Obeys G s.location → (f s o).Obeys F s.location) :
    Parser.Obeys (fun s ↦ return f s (← p s)) F := fun s ↦
  (hp s).bind fun o ho ↦ Ensures.ok (hf s o ho)

theorem attempt (hp : p.Obeys G) (h : ∀ l e committed, G l e committed → F l e false) :
    p.attempt.Obeys F :=
  hp.after fun s o ho ↦ by
    cases o with
    | success y n => trivial
    | failure e committed => exact h s.location e committed ho

theorem scope (hp : p.Obeys F) {message : String}
    (h : ∀ l e committed, F l e committed → F l (e.push l message) committed) :
    (p.scope message).Obeys F :=
  hp.after fun s o ho ↦ by
    cases o with
    | success y n => trivial
    | failure e committed => exact h s.location e committed ho

theorem label (hp : p.Obeys F) {message : String}
    (h : ∀ l e committed, F l e committed → F l (e.label message) committed) :
    (p.label message).Obeys F :=
  hp.after fun s o ho ↦ by
    cases o with
    | success y n => trivial
    | failure e committed => exact h s.location e committed ho

theorem retype (hp : p.Obeys F) (f : α → β) : (p.retype f).Obeys F :=
  hp.after fun s o ho ↦ by
    cases o with
    | success y n => trivial
    | failure e committed => exact ho

theorem map (hp : p.Obeys F) (f : α → β) : (p.map f).Obeys F := fun s ↦
  (hp s).bind fun _ ho ↦ ho.mapValue s f

theorem slice (hp : p.Obeys F) : p.slice.Obeys F := by
  intro s
  refine (hp (s.withSlicing true)).bind fun o ho ↦ ?_
  cases o with
  | success y n => exact Ensures.ok trivial
  | failure e committed => exact Ensures.ok ho

end

/-! ### Further on -/

theorem map2 {p : Parser α} {q : Parser β} (hp : p.Obeys F) (hq : q.Obeys G)
    (h : ∀ l n e committed, G (l.jump n) e committed → F l e committed) (f : α → β → γ) :
    (p.map2 q f).Obeys F := by
  intro s
  refine (hp s).bind fun o ho ↦ ?_
  cases o with
  | success y m =>
    refine (s.ensures_advance m).bind fun next hnext ↦ ?_
    subst hnext
    refine (hq (s.jump m)).bind fun o' ho' ↦ ?_
    cases o' with
    | success z n => exact Outcome.obeys_pair f s (s.jump m) y m z n
    | failure e committed => exact Ensures.ok (h s.location m e committed ho')
  | failure e committed => exact Ensures.ok ho

theorem flatMap {p : Parser α} {f : α → Parser β} (hp : p.Obeys F) (hf : ∀ a, (f a).Obeys G)
    (h : ∀ l n e committed, G (l.jump n) e committed → F l e (committed || n != 0)) :
    (p.flatMap f).Obeys F := by
  intro s
  refine (hp (s.withSlicing false)).bind fun o ho ↦ ?_
  refine (o.ensures_read (s.withSlicing false)).bind fun r hr ↦ ?_
  cases r with
  | value a n =>
    refine (s.ensures_advance n).bind fun next hnext ↦ ?_
    subst hnext
    refine (hf a (s.jump n)).bind fun o' ho' ↦ ?_
    cases o' with
    | success z m =>
      exact Ensures.bind_any fun _ ↦ Ensures.ok trivial
    | failure e committed => exact Ensures.ok (h s.location n e committed ho')
  | failure e committed =>
    obtain rfl := hr e committed rfl
    exact Ensures.ok ho

/-- A failure of the loop is one of a turn, which committed or came too early. The first turn begins
where the loop did. -/
theorem repeatLoop {p : Parser α} {b : Bounds} (hp : p.Obeys G)
    (h : ∀ l n count e committed, (count = 0 → n = 0) → (committed = true ∨ count < b.least) →
      G (l.jump n) e committed → F l e committed)
    {start s : State} {jump : Nat} {done : Progress α} (budget : Nat)
    (hreach : s.jump jump = start.jump done.consumed)
    (hfirst : done.count = 0 → done.consumed = 0) :
    Ensures (Outcome.Obeys F start.location) (p.repeatLoop b budget s jump done) := by
  have hends : ∀ (d : Progress α) mode, (d.outcome mode).Obeys F start.location := by
    intro d mode
    cases mode <;> trivial
  induction budget generalizing s jump done with
  | zero =>
    rw [Parser.repeatLoop]
    split
    · exact Ensures.ok (hends done s.sliced)
    · exact Ensures.error _
  | succ budget ih =>
    rw [Parser.repeatLoop]
    refine (s.ensures_advance jump).bind fun here hhere ↦ ?_
    rw [hreach] at hhere
    subst hhere
    refine (hp (start.jump done.consumed)).bind fun o ho ↦ ?_
    cases o with
    | success y n =>
      refine Progress.ensures_add.bind fun done' hdone ↦ ?_
      obtain ⟨newest, rfl⟩ := hdone
      split
      · exact Ensures.ok (hends _ _)
      · exact ih (by simp) (by simp)
    | failure e committed =>
      dsimp only
      split
      · rename_i hlast
        have hturn : committed = true ∨ done.count < b.least := by simpa using hlast
        exact Ensures.ok (h start.location done.consumed done.count e committed hfirst hturn ho)
      · exact Ensures.ok (hends done s.sliced)

theorem repeated {p : Parser α} {b : Bounds} (hp : p.Obeys G)
    (h : ∀ l n count e committed, (count = 0 → n = 0) → (committed = true ∨ count < b.least) →
      G (l.jump n) e committed → F l e committed) : (p.repeated b).Obeys F := fun s ↦
  hp.repeatLoop h _ (show s.jump 0 = s.jump (Progress.start : Progress α).consumed from rfl)
    fun _ ↦ rfl

end Parser.Obeys

/-! ### Runs -/

namespace Grammar.Ends

variable {ι : Type} {ρ : ι → Type} {g : Grammar ρ} {p : Plan ρ α} {s : State} {e : ParseError}

/-- What a run fails with obeys the laws that the plan's parsers obey at all depths. -/
theorem obeys {F : FailureLaw} (hp : ∀ depth, (g.parserAt depth p).Obeys F) {committed : Bool}
    (h : g.Ends p s (.ok (.failure e committed))) : F s.location e committed := by
  obtain ⟨-, depth, hok⟩ := h
  exact hp depth s _ hok

theorem orElse_of_success {y : Yield α} {n : Nat} (h : g.Ends p s (.ok (.success y n)))
    (q : Plan ρ α) : g.Ends (p.orElse q) s (.ok (.success y n)) := by
  obtain ⟨-, depth, hok⟩ := h
  exact ends_of_ok (Parser.orElse_of_success (g.parserAt depth q) hok)

theorem orElse_of_committed (h : g.Ends p s (.ok (.failure e true))) (q : Plan ρ α) :
    g.Ends (p.orElse q) s (.ok (.failure e true)) := by
  obtain ⟨-, depth, hok⟩ := h
  exact ends_of_ok (Parser.orElse_of_committed (g.parserAt depth q) hok)

/-- After an uncommitted failure, an alternative comes to what its second plan does. -/
theorem orElse_of_uncommitted {q : Plan ρ α} {answer : Except Fault (Outcome α)}
    (h : g.Ends p s (.ok (.failure e false))) (hq : g.Ends q s answer) :
    g.Ends (p.orElse q) s answer := by
  obtain ⟨depth, hfail⟩ := h.parserAt
  obtain ⟨depth', hrun⟩ := hq.parserAt
  -- At the sum of both depths neither run is cut off.
  have hsecond := hrun depth
  rw [Nat.add_comm] at hsecond
  exact ⟨hq.1, depth + depth', (Parser.orElse_of_uncommitted _ (hfail depth')).trans hsecond⟩

theorem optional_of_committed (h : g.Ends p s (.ok (.failure e true))) :
    g.Ends p.optional s (.ok (.failure e true)) := by
  obtain ⟨-, depth, hok⟩ := h
  exact ends_of_ok (Parser.optional_of_committed hok)

end Grammar.Ends

end Descent
