import Descent.Proofs.Pieces

/-!
# Sequences in brackets

Parsers are put one behind the other two at a time, with brackets around them in one way or another
(`Grouping`). Each bracket makes a pair of values, so groupings of the same parsers give values of
different types; what they have in common are the parts in their order (`Grouping.items`).

With slicing on, the brackets can be seen: two neighbours collapse or not, depending on what both of
them give, and a bare success in one grouping is a value in another. So no grouping can be turned
into another one. What is compared is what an observer learns of a run (`Parser.seen`): with slicing
off its items, with slicing on its length alone. This view of a sequence is made of the views of its
two parts (`Parser.seen_map2`), and such views can be put together in any brackets
(`inOrder_append`). So a grouping is seen as its parts in order (`Grouping.readsAs`), and groupings
of the same parts are seen alike (`Grouping.same_parts_read_alike`).
-/

namespace Descent

variable {α β γ δ : Type}

/-- A run from a state, which gives items and the length consumed for them, or fails. -/
abbrev Run (δ : Type) := State → Except Fault (Reading (List δ))

namespace Reading

/-- Values and bytes that came before. -/
def prepend (as : List δ) (n : Nat) : Reading (List δ) → Reading (List δ)
  | value bs m => .value (as ++ bs) (n + m)
  | failure e committed => .failure e committed

@[simp]
theorem prepend_nil (r : Reading (List δ)) : r.prepend [] 0 = r := by
  cases r with
  | value as n => simp only [prepend, List.nil_append, Nat.zero_add]
  | failure e committed => rfl

@[simp]
theorem prepend_prepend (as bs : List δ) (m n : Nat) (r : Reading (List δ)) :
    (r.prepend bs n).prepend as m = r.prepend (as ++ bs) (m + n) := by
  cases r with
  | value cs k => simp only [prepend, List.append_assoc, Nat.add_assoc]
  | failure e committed => rfl

/-- The items of what comes next, behind those read already. -/
def followedBy (r : Reading (List δ)) (next : Nat → Except Fault (Reading (List δ))) :
    Except Fault (Reading (List δ)) :=
  match r with
  | value as m => prepend as m <$> next m
  | failure e committed => .ok (failure e committed)

end Reading

/-- Runs one behind the other, each where the one before has ended, with the items of all. -/
def inOrder : List (Run δ) → Run δ
  | [] => fun _ ↦ .ok (.value [] 0)
  | run :: runs => fun s ↦ run s >>= fun r ↦ r.followedBy fun m ↦ inOrder runs (s.jump m)

@[simp]
theorem inOrder_nil (s : State) : inOrder ([] : List (Run δ)) s = .ok (.value [] 0) :=
  rfl

@[simp]
theorem inOrder_cons (run : Run δ) (runs : List (Run δ)) (s : State) :
    inOrder (run :: runs) s = run s >>= fun r ↦ r.followedBy fun m ↦ inOrder runs (s.jump m) :=
  rfl

theorem inOrder_singleton (run : Run δ) (s : State) : inOrder [run] s = run s := by
  rw [inOrder_cons]
  rcases run s with fault | ⟨as, m⟩ | ⟨e, committed⟩
  · rfl
  · show Except.ok (Reading.value (as ++ []) (m + 0)) = _
    rw [List.append_nil, Nat.add_zero]
  · rfl

/-- The brackets around runs do not matter. -/
theorem inOrder_append (runs runs' : List (Run δ)) (s : State) :
    inOrder (runs ++ runs') s =
      inOrder runs s >>= fun r ↦ r.followedBy fun m ↦ inOrder runs' (s.jump m) := by
  induction runs generalizing s with
  | nil =>
    rw [List.nil_append, inOrder_nil, ok_bind, Reading.followedBy, State.jump_zero]
    rcases inOrder runs' s with fault | r
    · rfl
    · exact congrArg Except.ok r.prepend_nil.symm
  | cons run runs ih =>
    rw [List.cons_append, inOrder_cons, inOrder_cons]
    rcases run s with fault | ⟨as, m⟩ | ⟨e, committed⟩
    · rfl
    · simp only [ok_bind, Reading.followedBy, ih]
      rcases inOrder runs (s.jump m) with fault | ⟨bs, n⟩ | ⟨e, committed⟩
      · rfl
      · show Reading.prepend as m <$> (Reading.prepend bs n <$> inOrder runs' _) =
          Reading.prepend (as ++ bs) (m + n) <$> inOrder runs' _
        rw [State.jump_jump]
        rcases inOrder runs' (s.jump (m + n)) with fault | r
        · rfl
        · exact congrArg Except.ok (r.prepend_prepend as bs m n)
      · rfl
    · rfl

namespace Outcome

/-- The length of a success, and no items. -/
def extent : Outcome α → Reading (List δ)
  | success _ n => .value [] n
  | failure e committed => .failure e committed

/-- Outcomes of the same extent are the same slice. -/
theorem toSlice_eq_of_extent_eq {x : Except Fault (Outcome α)} {x' : Except Fault (Outcome β)}
    (h : (extent <$> x : Except Fault (Reading (List δ))) = extent <$> x') :
    toSlice <$> x = toSlice <$> x' := by
  rcases x with fault | ⟨y, m⟩ | ⟨e, committed⟩ <;>
    rcases x' with fault' | ⟨z, n⟩ | ⟨e', committed'⟩ <;>
    cases h <;> rfl

end Outcome

namespace Parser

/-- What is seen of a run: with slicing off the items of its value, with slicing on none. -/
def seen (p : Parser α) (items : α → List δ) : Run δ := fun s ↦
  if s.sliced then Outcome.extent <$> p s else Reading.map items <$> p.readAt s

section Seen

variable {p : Parser α} {q : Parser β} {f : α → β → γ} {s : State} {u : α → List δ}
  {v : β → List δ} {w : γ → List δ}

theorem seen_of_off (hoff : s.sliced = false) : p.seen u s = Reading.map u <$> p.readAt s := by
  simp only [seen, hoff, Bool.false_eq_true, if_false]

theorem seen_of_on (hon : s.sliced = true) : p.seen u s = Outcome.extent <$> p s := by
  simp only [seen, hon, if_true]

theorem seen_of_error {fault : Fault} (run : p s = .error fault) : p.seen u s = .error fault := by
  cases hmode : s.sliced with
  | false => rw [seen_of_off hmode, readAt_of_error run]; rfl
  | true => rw [seen_of_on hmode, run]; rfl

theorem seen_of_failure {e : ParseError} {committed : Bool}
    (run : p s = .ok (.failure e committed)) : p.seen u s = .ok (.failure e committed) := by
  cases hmode : s.sliced with
  | false => rw [seen_of_off hmode, readAt_of_failure run]; rfl
  | true => rw [seen_of_on hmode, run]; rfl

/-- Of a success its length is seen, and with slicing off the items of its value. -/
theorem Stays.seen_of_success (hp : p.Stays) (hs : s.location.Valid) {y : Yield α} {n : Nat}
    (run : p s = .ok (.success y n)) :
    (s.sliced = true ∧ p.seen u s = .ok (.value [] n)) ∨
      s.sliced = false ∧
        ∃ a, p.readAt s = .ok (.value a n) ∧ p.seen u s = .ok (.value (u a) n) := by
  cases hmode : s.sliced with
  | false =>
    obtain ⟨a, ha⟩ := hp.exists_readAt hs hmode run
    refine Or.inr ⟨rfl, a, ha, ?_⟩
    rw [seen_of_off hmode, ha]
    rfl
  | true =>
    refine Or.inl ⟨rfl, ?_⟩
    rw [seen_of_on hmode, run]
    rfl

theorem Stays.exists_seen_of_success (hp : p.Stays) (hs : s.location.Valid) {y : Yield α} {n : Nat}
    (run : p s = .ok (.success y n)) : ∃ as, p.seen u s = .ok (.value as n) := by
  rcases hp.seen_of_success hs run (u := u) with ⟨-, hseen⟩ | ⟨-, a, -, hseen⟩
  · exact ⟨[], hseen⟩
  · exact ⟨u a, hseen⟩

/-- Two successes are seen as one with the items and the length of both. -/
theorem seen_map2_of_successes (hp : p.Stays) (hq : q.Stays)
    (hitems : ∀ a b, w (f a b) = u a ++ v b) (hs : s.location.Valid) {y : Yield α} {z : Yield β}
    {m n : Nat} (run : p s = .ok (.success y m)) (run' : q (s.jump m) = .ok (.success z n)) :
    ∃ as bs, p.seen u s = .ok (.value as m) ∧ q.seen v (s.jump m) = .ok (.value bs n) ∧
      (p.map2 q f).seen w s = .ok (.value (as ++ bs) (m + n)) := by
  rcases hp.seen_of_success hs run (u := u) with ⟨hon, hfirst⟩ | ⟨hoff, a, ha, hfirst⟩
  · obtain ⟨x, hboth, -⟩ := exists_map2_of_successes (f := f) hp hq hs run run'
    refine ⟨[], [], hfirst, ?_, ?_⟩
    · rw [seen_of_on (s := s.jump m) hon, run']
      rfl
    · rw [seen_of_on hon, hboth]
      rfl
  · obtain ⟨b, hb⟩ := hq.exists_readAt (s := s.jump m) (hp s y m hs run).1 hoff run'
    have hboth : (p.map2 q f).readAt s = .ok (.value (f a b) (m + n)) :=
      readAt_of_success (map2_of_reads hp hq hs hoff ha hb) rfl
    refine ⟨u a, v b, hfirst, ?_, ?_⟩
    · rw [seen_of_off (s := s.jump m) hoff, hb]
      rfl
    · rw [seen_of_off hoff, hboth, ← hitems]
      rfl

/-- A sequence is seen as its parts, if its items are theirs. -/
theorem seen_map2 (hp : p.Stays) (hq : q.Stays) (hitems : ∀ a b, w (f a b) = u a ++ v b)
    (hs : s.location.Valid) :
    (p.map2 q f).seen w s =
      p.seen u s >>= fun r ↦ r.followedBy fun m ↦ q.seen v (s.jump m) := by
  rcases run : p s with fault | ⟨y, m⟩ | ⟨e, committed⟩
  · rw [seen_of_error (map2_of_error run), seen_of_error run]
    rfl
  · have hm : (s.jump m).location.Valid := (hp s y m hs run).1
    obtain ⟨as, hfirst⟩ := hp.exists_seen_of_success hs run (u := u)
    rw [hfirst, ok_bind, Reading.followedBy]
    rcases run' : q (s.jump m) with fault | ⟨z, n⟩ | ⟨e, committed⟩
    · rw [seen_of_error (map2_of_second_error hm run run'), seen_of_error run']
      rfl
    · obtain ⟨as', bs, hfirst', hsecond, hboth⟩ :=
        seen_map2_of_successes hp hq hitems hs run run'
      cases hfirst'.symm.trans hfirst
      rw [hboth, hsecond]
      rfl
    · rw [seen_of_failure (map2_of_second_failure hm run run'), seen_of_failure run']
      rfl
  · rw [seen_of_failure (map2_of_failure run), seen_of_failure run]
    rfl

/-- What is seen of a success says where it ends. -/
theorem Stays.valid_of_seen (hp : p.Stays) (hs : s.location.Valid) {as : List δ} {m : Nat}
    (h : p.seen u s = .ok (.value as m)) : (s.jump m).location.Valid := by
  rcases run : p s with fault | ⟨y, n⟩ | ⟨e, committed⟩
  · cases (seen_of_error run).symm.trans h
  · obtain ⟨as', hseen⟩ := hp.exists_seen_of_success hs run (u := u)
    cases hseen.symm.trans h
    exact (hp s y _ hs run).1
  · cases (seen_of_failure run).symm.trans h

end Seen

/-- At valid places, what is seen of the parser is what the runs give in order. -/
def ReadsAs (p : Parser α) (items : α → List δ) (runs : List (Run δ)) : Prop :=
  ∀ s : State, s.location.Valid → p.seen items s = inOrder runs s

section ReadsAs

variable {p p' : Parser α} {q : Parser β} {u : α → List δ} {v : β → List δ} {w : γ → List δ}
  {runs runs' : List (Run δ)} {s : State}

theorem readsAs_self (p : Parser α) (u : α → List δ) : p.ReadsAs u [p.seen u] := fun s _ ↦
  (inOrder_singleton (p.seen u) s).symm

theorem ReadsAs.map2 (h : p.ReadsAs u runs) (h' : q.ReadsAs v runs') (hp : p.Stays)
    (hq : q.Stays) {f : α → β → γ} (hitems : ∀ a b, w (f a b) = u a ++ v b) :
    (p.map2 q f).ReadsAs w (runs ++ runs') := by
  intro s hs
  rw [seen_map2 hp hq hitems hs, inOrder_append, ← h s hs]
  refine bind_congr_of_ok fun r hr ↦ ?_
  cases r with
  | value as m => rw [Reading.followedBy, Reading.followedBy, h' _ (hp.valid_of_seen hs hr)]
  | failure e committed => rfl

/-- Parsers that are seen as the same runs read alike with slicing off. -/
theorem ReadsAs.map_readAt (h : p.ReadsAs u runs) (h' : q.ReadsAs v runs)
    (hs : s.location.Valid) (hoff : s.sliced = false) :
    Reading.map u <$> p.readAt s = Reading.map v <$> q.readAt s := by
  rw [← seen_of_off hoff, ← seen_of_off hoff, h s hs, h' s hs]

/-- With slicing on, they are the same slice. -/
theorem ReadsAs.toSlice (h : p.ReadsAs u runs) (h' : q.ReadsAs v runs) (hs : s.location.Valid)
    (hon : s.sliced = true) : Outcome.toSlice <$> p s = Outcome.toSlice <$> q s := by
  have hseen : p.seen u s = q.seen v s := (h s hs).trans (h' s hs).symm
  rw [seen_of_on hon, seen_of_on hon] at hseen
  exact Outcome.toSlice_eq_of_extent_eq hseen

end ReadsAs

/-- A parser between two others is seen as three runs, in both brackets. -/
theorem surroundedBy_readsAs (p : Parser α) {opening : Parser β} {closing : Parser γ}
    (hp : p.Stays) (hopening : opening.Stays) (hclosing : closing.Stays) :
    (p.surroundedBy opening closing).ReadsAs (fun a ↦ [a])
        [opening.seen fun _ ↦ [], p.seen fun a ↦ [a], closing.seen fun _ ↦ []] ∧
      (opening.skipLeft (p.skip closing)).ReadsAs (fun a ↦ [a])
        [opening.seen fun _ ↦ [], p.seen fun a ↦ [a], closing.seen fun _ ↦ []] := by
  have ho := opening.readsAs_self fun _ ↦ ([] : List α)
  have hv := p.readsAs_self fun a ↦ [a]
  have hc := closing.readsAs_self fun _ ↦ ([] : List α)
  constructor
  · have hfirst : (opening.skipLeft p).ReadsAs (fun a ↦ [a]) _ :=
      ho.map2 hv hopening hp fun _ _ ↦ rfl
    exact hfirst.map2 hc (hopening.map2 hp _) hclosing fun _ _ ↦ rfl
  · have hsecond : (p.skip closing).ReadsAs (fun a ↦ [a]) _ :=
      hv.map2 hc hp hclosing fun _ _ ↦ rfl
    exact ho.map2 hsecond hopening (hp.map2 hclosing _) fun _ _ ↦ rfl

/-- The parser answers at all valid places in the mode. -/
def Answers (p : Parser α) (sliced : Bool) : Prop :=
  ∀ s : State, s.sliced = sliced → s.location.Valid → ∃ o, p s = .ok o

theorem Answers.map2 {p : Parser α} {q : Parser β} {sliced : Bool} (h : p.Answers sliced)
    (h' : q.Answers sliced) (hp : p.Stays) (hq : q.Stays) (f : α → β → γ) :
    (p.map2 q f).Answers sliced := fun s hmode hs ↦
  exists_map2_eq_ok hp hq hs (h s hmode hs) fun y m run ↦
    h' (s.jump m) hmode (hp s y m hs run).1

/-- A value by itself is its only item. -/
theorem map_singleton_injective {x y : Except Fault (Reading α)}
    (h : (Reading.map fun a ↦ [a]) <$> x = (Reading.map fun a ↦ [a]) <$> y) : x = y := by
  rcases x with fault | ⟨a, m⟩ | ⟨e, committed⟩ <;>
    rcases y with fault' | ⟨b, n⟩ | ⟨e', committed'⟩ <;>
    cases h <;> rfl

end Parser

/-- Parsers in order, with brackets around two at a time. Each has a type from the family `ρ`. -/
inductive Grouping {ι : Type} (ρ : ι → Type) : Type → Type 1 where
  /-- A single parser. -/
  | one (i : ι) (p : Parser (ρ i)) : Grouping ρ (ρ i)
  /-- Those of `first`, and behind them those of `second`. -/
  | product {α β : Type} (first : Grouping ρ α) (second : Grouping ρ β) : Grouping ρ (α × β)

namespace Grouping

variable {ι : Type} {ρ : ι → Type}

/-- The parsers without their brackets. -/
def parts {α : Type} : Grouping ρ α → List ((i : ι) × Parser (ρ i))
  | one i p => [⟨i, p⟩]
  | product first second => first.parts ++ second.parts

/-- The parsers put together as the brackets say. -/
def parser {α : Type} : Grouping ρ α → Parser α
  | one _ p => p
  | product first second => first.parser.product second.parser

/-- The values in a value, in order: its pairs without their brackets. -/
def items {α : Type} : Grouping ρ α → α → List ((i : ι) × ρ i)
  | one i _, a => [⟨i, a⟩]
  | product first second, ab => first.items ab.1 ++ second.items ab.2

theorem stays (g : Grouping ρ α) (h : ∀ part ∈ g.parts, part.2.Stays) : g.parser.Stays := by
  induction g with
  | one i p => exact h ⟨i, p⟩ List.mem_cons_self
  | product first second ih ih' =>
    exact (ih fun part hpart ↦ h part (List.mem_append_left _ hpart)).map2
      (ih' fun part hpart ↦ h part (List.mem_append_right _ hpart)) Prod.mk

/-- A grouping is seen as its parts in order. -/
theorem readsAs (g : Grouping ρ α) (h : ∀ part ∈ g.parts, part.2.Stays) :
    g.parser.ReadsAs g.items (g.parts.map fun part ↦ part.2.seen fun a ↦ [⟨part.1, a⟩]) := by
  induction g with
  | one i p => exact p.readsAs_self _
  | product first second ih ih' =>
    have hfirst : ∀ part ∈ first.parts, part.2.Stays := fun part hpart ↦
      h part (List.mem_append_left _ hpart)
    have hsecond : ∀ part ∈ second.parts, part.2.Stays := fun part hpart ↦
      h part (List.mem_append_right _ hpart)
    rw [parts, List.map_append]
    exact (ih hfirst).map2 (ih' hsecond) (first.stays hfirst) (second.stays hsecond)
      fun _ _ ↦ rfl

/-- A grouping answers where its parts do. -/
theorem answers (g : Grouping ρ α) {sliced : Bool} (h : ∀ part ∈ g.parts, part.2.Stays)
    (hanswers : ∀ part ∈ g.parts, part.2.Answers sliced) : g.parser.Answers sliced := by
  induction g with
  | one i p => exact hanswers ⟨i, p⟩ List.mem_cons_self
  | product first second ih ih' =>
    have hfirst : ∀ part ∈ first.parts, part.2.Stays := fun part hpart ↦
      h part (List.mem_append_left _ hpart)
    have hsecond : ∀ part ∈ second.parts, part.2.Stays := fun part hpart ↦
      h part (List.mem_append_right _ hpart)
    exact (ih hfirst fun part hpart ↦ hanswers part (List.mem_append_left _ hpart)).map2
      (ih' hsecond fun part hpart ↦ hanswers part (List.mem_append_right _ hpart))
      (first.stays hfirst) (second.stays hsecond) Prod.mk

/-- **The brackets in a sequence do not matter.** Take two groupings of the same parsers, whose
successes all lead to valid places and are bare in slicing mode only, and a valid place.

* With slicing off, both give the same items over the same length, or fail with the same error, and
  are both committed or both not.
* With slicing on, the same holds of the length and the failure. One may give a value where the
  other is bare, so it is their slices that are the same.
* If the parsers answer at all valid places in the mode at hand, then so do the groupings, and with
  slicing off the answer can be read.
* A parser between two others reads the same, and is the same slice, whether the closing one is put
  behind what the opening one and the parser make together, or behind the parser alone. -/
theorem same_parts_read_alike (g : Grouping ρ α) (g' : Grouping ρ β) (hparts : g.parts = g'.parts)
    (hstays : ∀ part ∈ g.parts, part.2.Stays) {s : State} (hs : s.location.Valid) :
    (s.sliced = false →
      Reading.map g.items <$> g.parser.readAt s = Reading.map g'.items <$> g'.parser.readAt s) ∧
    (s.sliced = true → Outcome.toSlice <$> g.parser s = Outcome.toSlice <$> g'.parser s) ∧
    ((∀ part ∈ g.parts, part.2.Answers s.sliced) →
      (∃ o, g.parser s = .ok o) ∧ (∃ o, g'.parser s = .ok o) ∧
        (s.sliced = false →
          (∃ r, g.parser.readAt s = .ok r) ∧ ∃ r, g'.parser.readAt s = .ok r)) ∧
    ∀ {γ δ ε : Type} (p : Parser γ) (opening : Parser δ) (closing : Parser ε),
      p.Stays → opening.Stays → closing.Stays →
        (s.sliced = false → (p.surroundedBy opening closing).readAt s =
          (opening.skipLeft (p.skip closing)).readAt s) ∧
        (s.sliced = true → Outcome.toSlice <$> p.surroundedBy opening closing s =
          Outcome.toSlice <$> opening.skipLeft (p.skip closing) s) := by
  have hstays' : ∀ part ∈ g'.parts, part.2.Stays := hparts ▸ hstays
  have hreads := g.readsAs hstays
  have hreads' := g'.readsAs hstays'
  rw [← hparts] at hreads'
  refine ⟨hreads.map_readAt hreads' hs, hreads.toSlice hreads' hs, fun hanswers ↦ ?_,
    fun p opening closing hp hopening hclosing ↦ ?_⟩
  · have hanswer : ∃ o, g.parser s = .ok o := g.answers hstays hanswers s rfl hs
    have hanswer' : ∃ o, g'.parser s = .ok o :=
      g'.answers hstays' (hparts ▸ hanswers) s rfl hs
    exact ⟨hanswer, hanswer', fun hoff ↦
      ⟨(g.stays hstays).exists_readAt_eq_ok hs hoff hanswer,
        (g'.stays hstays').exists_readAt_eq_ok hs hoff hanswer'⟩⟩
  · obtain ⟨hleft, hright⟩ := p.surroundedBy_readsAs hp hopening hclosing
    exact ⟨fun hoff ↦ Parser.map_singleton_injective (hleft.map_readAt hright hs hoff),
      hleft.toSlice hright hs⟩

/-- Any character, a letter and the size of another letter, in both brackets. With slicing off the
same three values are read. With slicing on, the first pair is a value and makes one with what is
behind it; in the other brackets the second pair is bare already. -/
theorem three_parts_in_both_brackets :
    ∃ (g : Grouping (fun size : Bool ↦ cond size Nat String) ((String × String) × Nat))
      (g' : Grouping (fun size : Bool ↦ cond size Nat String) (String × String × Nat)),
      g.parts = g'.parts ∧
      Reading.map g.items <$> g.parser.readAt (.start "éab") =
        .ok (.value [⟨false, "é"⟩, ⟨false, "a"⟩, ⟨true, (1 : Nat)⟩] 4) ∧
      Reading.map g'.items <$> g'.parser.readAt (.start "éab") =
        .ok (.value [⟨false, "é"⟩, ⟨false, "a"⟩, ⟨true, (1 : Nat)⟩] 4) ∧
      g.parser ((State.start "éab").withSlicing true) = .ok (.success (.value (("é", "a"), 1)) 4) ∧
      g'.parser ((State.start "éab").withSlicing true) = .ok (.success .bare 4) ∧
      Outcome.toSlice <$> g.parser ((State.start "éab").withSlicing true) =
        Outcome.toSlice <$> g'.parser ((State.start "éab").withSlicing true) := by
  let size : Parser Nat := (Parser.literal "b").retype String.utf8ByteSize
  let g : Grouping (fun size : Bool ↦ cond size Nat String) ((String × String) × Nat) :=
    .product (.product (.one false .anyChar) (.one false (.literal "a"))) (.one true size)
  let g' : Grouping (fun size : Bool ↦ cond size Nat String) (String × String × Nat) :=
    .product (.one false .anyChar) (.product (.one false (.literal "a")) (.one true size))
  have hstays : ∀ part ∈ g.parts, part.2.Stays :=
    List.forall_mem_cons.2 ⟨Parser.Safe.anyChar.stays, List.forall_mem_cons.2
      ⟨(Parser.Safe.literal "a").stays, List.forall_mem_singleton.2
        ((Parser.Safe.literal "b").retype String.utf8ByteSize).stays⟩⟩
  have hvalid : (Location.start "éab").Valid := Location.valid_start (by decide)
  have hread : Reading.map g.items <$> g.parser.readAt (.start "éab") =
      .ok (.value [⟨false, "é"⟩, ⟨false, "a"⟩, ⟨true, (1 : Nat)⟩] 4) := rfl
  have hoff := (g.same_parts_read_alike g' rfl hstays (s := .start "éab") hvalid).1 rfl
  have hon := (g.same_parts_read_alike g' rfl hstays
    (s := (State.start "éab").withSlicing true) hvalid).2.1 rfl
  exact ⟨g, g', rfl, hread, hoff.symm.trans hread, rfl, rfl, hon⟩

end Grouping

end Descent
