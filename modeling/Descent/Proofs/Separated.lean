import Descent.Parser.Derived
import Descent.Proofs.Sequence

/-!
# Lists with separators

A separated list without its loop: one item, and behind it links, each of which is a separator and
an item right behind it (`Parser.Links`). No link but the last one is empty. The list ends for one
of three reasons, `Parser.ListEnds`: the last link was empty, there is no separator, or there is one
and no item behind it. In the last case the list ends in front of that separator, since a link is
taken as a whole or not at all; so a list never ends with a separator.

`sepBy1` and `sepBy` are made of `map2`, `many` and `optional`, and what is said here is read off
what is known of these. A turn of the `many` is a link (`Links.chain`, `exists_links`), and it is
put together in `separated_lists_join_items`.
-/

namespace Descent

variable {α β : Type}

/-- A separator and the item behind it. -/
structure Link (α : Type) where
  /-- The value of the item. -/
  value : α
  /-- The number of bytes that both consumed together. -/
  consumed : Nat

/-- These links lead from the end of an item to the end of another one: each is a match of the
separator, directly followed by one of the item. -/
inductive Parser.Links (p : Parser α) (separator : Parser β) : State → List (Link α) → State → Prop
  /-- No links. -/
  | nil (t : State) : Links p separator t [] t
  /-- A link, and those that follow it. -/
  | cons {t u : State} {z : Yield β} {m n : Nat} {v : α} {links : List (Link α)}
      (between : separator t = .ok (.success z m))
      (item : p.readAt (t.jump m) = .ok (.value v n))
      (rest : Links p separator (t.jump (m + n)) links u) :
      Links p separator t ({ value := v, consumed := m + n } :: links) u

/-- There is no other link: the separator fails, or it matches and the item fails behind it. The
failure is `e`. -/
inductive Parser.Unlinked (p : Parser α) (separator : Parser β) (t : State) (e : ParseError)
    (committed : Bool) : Prop
  /-- There is no separator. -/
  | separator (run : separator t = .ok (.failure e committed))
  /-- There is a separator, and no item behind it. -/
  | item {z : Yield β} {m : Nat} (between : separator t = .ok (.success z m))
      (run : p (t.jump m) = .ok (.failure e committed))

/-- Why a list ends behind these links, at the state `t`. -/
inductive Parser.ListEnds (p : Parser α) (separator : Parser β) (links : List (Link α))
    (t : State) : Prop
  /-- The last link was empty. -/
  | empty (link : Link α) (last : links.getLast? = some link) (consumed : link.consumed = 0)
  /-- There is no other link, and nothing commits. -/
  | unlinked (e : ParseError) (next : p.Unlinked separator t e false)

/-! ### Links as turns -/

namespace Link

/-- The turns of the repetition that these links are. -/
def turns : State → List (Link α) → List (Turn α)
  | _, [] => []
  | t, link :: links =>
    { start := t, yield := .value link.value, consumed := link.consumed } ::
      turns (t.jump link.consumed) links

theorem map_consumed_turns (t : State) (links : List (Link α)) :
    (turns t links).map (·.consumed) = links.map (·.consumed) := by
  induction links generalizing t with
  | nil => rfl
  | cons link links ih => rw [turns, List.map_cons, List.map_cons, ih]

/-- The values of the turns are those of the links. -/
theorem mapM_read_turns (t : State) (links : List (Link α)) :
    (turns t links).mapM Turn.read = .ok (links.map (·.value)) := by
  induction links generalizing t with
  | nil => rfl
  | cons link links ih =>
    rw [turns, List.mapM_cons, ih]
    rfl

theorem forall_mem_turns {t : State} {links : List (Link α)} :
    (∀ turn ∈ turns t links, turn.consumed ≠ 0) ↔ ∀ link ∈ links, link.consumed ≠ 0 := by
  have hsame := map_consumed_turns t links
  constructor
  · intro h link hlink
    obtain ⟨turn, hturn, heq⟩ := List.mem_map.1 (hsame ▸ List.mem_map_of_mem hlink)
    exact heq ▸ h turn hturn
  · intro h turn hturn
    obtain ⟨link, hlink, heq⟩ := List.mem_map.1 (hsame ▸ List.mem_map_of_mem hturn)
    exact heq ▸ h link hlink

theorem dropLast_turns (t : State) (links : List (Link α)) :
    (turns t links).dropLast = turns t links.dropLast := by
  induction links generalizing t with
  | nil => rfl
  | cons link links ih =>
    cases links with
    | nil => rfl
    | cons next links =>
      show _ :: (turns (t.jump link.consumed) (next :: links)).dropLast = _
      rw [ih]
      rfl

/-- The last turn is empty if and only if the last link is. -/
theorem exists_last_turns_iff {t : State} {links : List (Link α)} :
    (∃ turn, (turns t links).getLast? = some turn ∧ turn.consumed = 0) ↔
      ∃ link, links.getLast? = some link ∧ link.consumed = 0 := by
  have hsame : (turns t links).getLast?.map (·.consumed) = links.getLast?.map (·.consumed) := by
    rw [← List.getLast?_map, map_consumed_turns, List.getLast?_map]
  rw [← Option.map_eq_some_iff, hsame, Option.map_eq_some_iff]

end Link

namespace Parser

variable {p : Parser α} {separator : Parser β} {s t u : State} {links : List (Link α)}

section Links

variable (hp : p.Stays) (hsep : separator.Stays)

include hp hsep

/-- A link is a turn of the repetition. -/
theorem skipLeft_eq_success_iff (ht : t.location.Valid) (hoff : t.sliced = false) {w : Yield α}
    {k : Nat} :
    separator.skipLeft p t = .ok (.success w k) ↔
      ∃ z m v n, separator t = .ok (.success z m) ∧ p.readAt (t.jump m) = .ok (.value v n) ∧
        w = .value v ∧ k = m + n := by
  rw [skipLeft, map2_eq_success_iff hsep hp ht hoff]
  constructor
  · rintro ⟨a, m, v, n, ha, hv, rfl, rfl⟩
    obtain ⟨z, run, -⟩ := readAt_eq_value_iff.1 ha
    exact ⟨z, m, v, n, run, hv, rfl, rfl⟩
  · rintro ⟨z, m, v, n, run, hv, rfl, rfl⟩
    obtain ⟨a, ha⟩ := hsep.exists_readAt ht hoff run
    exact ⟨a, m, v, n, ha, hv, rfl, rfl⟩

omit hp in
theorem skipLeft_eq_failure_iff (ht : t.location.Valid) {e : ParseError} {committed : Bool} :
    separator.skipLeft p t = .ok (.failure e committed) ↔ p.Unlinked separator t e committed := by
  rw [skipLeft, map2_eq_failure_iff hsep ht]
  constructor
  · rintro (run | ⟨z, m, between, run⟩)
    · exact .separator run
    · exact .item between run
  · rintro (run | ⟨between, run⟩)
    · exact Or.inl run
    · exact Or.inr ⟨_, _, between, run⟩

/-- Links are a chain of turns. -/
theorem Links.chain (h : p.Links separator t links u) (ht : t.location.Valid)
    (hoff : t.sliced = false) : (separator.skipLeft p).Chain t (Link.turns t links) u := by
  induction h with
  | nil t => exact .nil t
  | cons between item rest ih =>
    have run := (skipLeft_eq_success_iff hp hsep ht hoff).2 ⟨_, _, _, _, between, item, rfl, rfl⟩
    have hnext := ((hsep.map2 hp fun _ v ↦ v) _ _ _ ht run).1
    exact .cons run (ih hnext hoff)

/-- A chain of turns is one of links. -/
theorem exists_links {turns : List (Turn α)} (h : (separator.skipLeft p).Chain t turns u)
    (ht : t.location.Valid) (hoff : t.sliced = false) :
    ∃ links, p.Links separator t links u ∧ turns = Link.turns t links := by
  induction h with
  | nil t => exact ⟨[], .nil t, rfl⟩
  | cons run rest ih =>
    have hnext := ((hsep.map2 hp fun _ v ↦ v) _ _ _ ht run).1
    obtain ⟨links, hlinks, rfl⟩ := ih hnext hoff
    obtain ⟨z, m, v, n, between, item, rfl, rfl⟩ :=
      (skipLeft_eq_success_iff hp hsep ht hoff).1 run
    exact ⟨_, .cons between item hlinks, rfl⟩

omit hp in
/-- The repetition stops for the reasons for which the list ends. -/
theorem stops_turns_iff (hu : u.location.Valid) :
    (separator.skipLeft p).Stops { least := 0, most? := none } (Link.turns t links) u ↔
      p.ListEnds separator links u := by
  constructor
  · rintro (most | ⟨-, turn, last, consumed⟩ | ⟨e, run⟩)
    · cases most
    · obtain ⟨link, hlast, hconsumed⟩ := Link.exists_last_turns_iff.1 ⟨turn, last, consumed⟩
      exact .empty link hlast hconsumed
    · exact .unlinked e ((skipLeft_eq_failure_iff hsep hu).1 run)
  · rintro (⟨link, last, consumed⟩ | ⟨e, next⟩)
    · obtain ⟨turn, hlast, hconsumed⟩ :=
        (Link.exists_last_turns_iff (t := t)).2 ⟨link, last, consumed⟩
      exact .empty rfl turn hlast hconsumed
    · exact .failed e ((skipLeft_eq_failure_iff hsep hu).2 next)

/-- The links of a list are found one after the other, as long as they are not empty. -/
theorem many_skipLeft_eq_success_iff (ht : t.location.Valid) (hoff : t.sliced = false)
    {w : Yield (List α)} {c : Nat} :
    (separator.skipLeft p).many t = .ok (.success w c) ↔
      ∃ links, p.Links separator t links (t.jump c) ∧
        (∀ link ∈ links.dropLast, link.consumed ≠ 0) ∧ p.ListEnds separator links (t.jump c) ∧
        w = .value (links.map (·.value)) := by
  have hturns : (separator.skipLeft p).Stays := hsep.map2 hp _
  rw [many, repeated_eq_iff hturns Bounds.meetable_many.fits ht]
  constructor
  · rintro ⟨turns, u, hchain, hconcludes⟩
    have hu : u.location.Valid := hchain.valid hturns ht
    obtain ⟨links, hlinks, rfl⟩ := exists_links hp hsep hchain ht hoff
    cases hconcludes with
    | success admits enough stops gathers =>
      obtain rfl := hchain.end_eq
      obtain ⟨vs, hvs, rfl⟩ := gathers.values hoff
      cases (Link.mapM_read_turns t links).symm.trans hvs
      have hconsume := admits.unbounded rfl
      rw [Link.dropLast_turns, Link.forall_mem_turns] at hconsume
      exact ⟨links, hlinks, hconsume, (stops_turns_iff hsep hu).1 stops, rfl⟩
  · rintro ⟨links, hlinks, hconsume, hends, rfl⟩
    have hchain := hlinks.chain hp hsep ht hoff
    have hu : (t.jump c).location.Valid := hchain.valid hturns ht
    obtain rfl := hchain.eq_total
    rw [← Link.forall_mem_turns (t := t), ← Link.dropLast_turns] at hconsume
    exact ⟨_, _, hchain, .success ⟨nofun, fun _ ↦ hconsume⟩ (fun _ ↦ Nat.zero_le _)
      ((stops_turns_iff hsep hu).2 hends)
      ⟨fun hon ↦ (nomatch hoff.symm.trans hon), fun _ ↦ ⟨_, Link.mapM_read_turns t links, rfl⟩⟩⟩

/-- Behind links that are not empty, a failure that commits is that of the whole. -/
theorem many_skipLeft_eq_failure_iff (ht : t.location.Valid) (hoff : t.sliced = false)
    {e : ParseError} {committed : Bool} :
    (separator.skipLeft p).many t = .ok (.failure e committed) ↔
      committed = true ∧ ∃ links u, p.Links separator t links u ∧
        (∀ link ∈ links, link.consumed ≠ 0) ∧ p.Unlinked separator u e true := by
  have hturns : (separator.skipLeft p).Stays := hsep.map2 hp _
  rw [many, repeated_eq_iff hturns Bounds.meetable_many.fits ht]
  constructor
  · rintro ⟨turns, u, hchain, hconcludes⟩
    have hu : u.location.Valid := hchain.valid hturns ht
    obtain ⟨links, hlinks, rfl⟩ := exists_links hp hsep hchain ht hoff
    cases hconcludes with
    | failure continues run final =>
      obtain rfl : committed = true := final.resolve_right (Nat.not_lt_zero _)
      exact ⟨rfl, links, u, hlinks, Link.forall_mem_turns.1 (continues.unbounded rfl),
        (skipLeft_eq_failure_iff hsep hu).1 run⟩
  · rintro ⟨rfl, links, u, hlinks, hconsume, next⟩
    have hchain := hlinks.chain hp hsep ht hoff
    have hu : u.location.Valid := hchain.valid hturns ht
    exact ⟨_, u, hchain, .failure ⟨nofun, fun _ ↦ Link.forall_mem_turns.2 hconsume⟩
      ((skipLeft_eq_failure_iff hsep hu).2 next) (Or.inl rfl)⟩

/-! ### Lists -/

/-- A list is an item and the links behind it. -/
theorem sepBy1_eq_success_iff (hs : s.location.Valid) (hoff : s.sliced = false)
    {w : Yield (List α)} {c : Nat} :
    p.sepBy1 separator s = .ok (.success w c) ↔
      ∃ v n links, p.readAt s = .ok (.value v n) ∧
        p.Links separator (s.jump n) links (s.jump c) ∧
        (∀ link ∈ links.dropLast, link.consumed ≠ 0) ∧ p.ListEnds separator links (s.jump c) ∧
        w = .value (v :: links.map (·.value)) := by
  have hmany : (separator.skipLeft p).many.Stays :=
    (hsep.map2 hp _).repeated Bounds.meetable_many.fits
  rw [sepBy1, map2_eq_success_iff hp hmany hs hoff]
  constructor
  · rintro ⟨v, n, vs, k, hv, hvs, rfl, rfl⟩
    obtain ⟨w, run, hread⟩ := readAt_eq_value_iff.1 hvs
    obtain ⟨links, hlinks, hconsume, hends, rfl⟩ :=
      (many_skipLeft_eq_success_iff hp hsep (hp.valid_of_readAt hs hv) hoff).1 run
    cases hread
    rw [State.jump_jump] at hlinks hends
    exact ⟨v, n, links, hv, hlinks, hconsume, hends, rfl⟩
  · rintro ⟨v, n, links, hv, hlinks, hconsume, hends, rfl⟩
    have hn : (s.jump n).location.Valid := hp.valid_of_readAt hs hv
    have hend := (hlinks.chain hp hsep hn hoff).end_eq
    rw [State.jump_jump, State.jump_inj] at hend
    subst hend
    rw [← State.jump_jump] at hlinks hends
    have run := (many_skipLeft_eq_success_iff hp hsep hn hoff).2
      ⟨links, hlinks, hconsume, hends, rfl⟩
    exact ⟨v, n, _, _, hv, readAt_eq_value_iff.2 ⟨_, run, rfl⟩, rfl, rfl⟩

/-- A list fails where its first item does, or with a failure that commits behind links that are not
empty. -/
theorem sepBy1_eq_failure_iff (hs : s.location.Valid) (hoff : s.sliced = false) {e : ParseError}
    {committed : Bool} :
    p.sepBy1 separator s = .ok (.failure e committed) ↔
      p s = .ok (.failure e committed) ∨
        committed = true ∧ ∃ v n links t, p.readAt s = .ok (.value v n) ∧
          p.Links separator (s.jump n) links t ∧ (∀ link ∈ links, link.consumed ≠ 0) ∧
          p.Unlinked separator t e true := by
  rw [sepBy1, map2_eq_failure_iff hp hs]
  refine or_congr_right ?_
  constructor
  · rintro ⟨y, n, hrun, hfail⟩
    obtain ⟨v, hv⟩ := hp.exists_readAt hs hoff hrun
    obtain ⟨rfl, links, t, hlinks, hconsume, next⟩ :=
      (many_skipLeft_eq_failure_iff hp hsep (hp.valid_of_readAt hs hv) hoff).1 hfail
    exact ⟨rfl, v, n, links, t, hv, hlinks, hconsume, next⟩
  · rintro ⟨rfl, v, n, links, t, hv, hlinks, hconsume, next⟩
    obtain ⟨y, hrun, -⟩ := readAt_eq_value_iff.1 hv
    exact ⟨y, n, hrun, (many_skipLeft_eq_failure_iff hp hsep (hp.valid_of_readAt hs hv) hoff).2
      ⟨rfl, links, t, hlinks, hconsume, next⟩⟩

/-- A list has an answer if its items and separators have one. -/
theorem exists_sepBy1_eq_ok (hs : s.location.Valid)
    (hitem : ∀ t : State, t.location.Valid → ∃ o, p t = .ok o)
    (hseparator : ∀ t : State, t.location.Valid → ∃ o, separator t = .ok o) :
    ∃ o, p.sepBy1 separator s = .ok o := by
  have hturns : (separator.skipLeft p).Stays := hsep.map2 hp _
  have hfits := Bounds.meetable_many.fits
  refine exists_map2_eq_ok hp (hturns.repeated hfits) hs (hitem s hs) fun y n run ↦ ?_
  have hn : (s.jump n).location.Valid := (hp s y n hs run).1
  refine exists_repeated_eq_ok hturns hfits hn fun t ht _ ↦ ?_
  exact exists_map2_eq_ok hsep hp ht (hseparator t ht) fun z m between ↦
    hitem (t.jump m) (hsep t z m ht between).1

omit hp hsep in
theorem sepBy_of_error {fault : Fault} (h : p.sepBy1 separator s = .error fault) :
    p.sepBy separator s = .error fault := by
  rw [sepBy, map, optional, h]
  rfl

omit hp hsep in
theorem sepBy_of_value {vs : List α} {c : Nat} (h : p.sepBy1 separator s = .ok (.value vs c)) :
    p.sepBy separator s = .ok (.value vs c) := by
  rw [sepBy, map, optional, h]
  rfl

omit hp hsep in
theorem sepBy_of_committed {e : ParseError} (h : p.sepBy1 separator s = .ok (.failure e true)) :
    p.sepBy separator s = .ok (.failure e true) := by
  rw [sepBy, map, optional, h]
  rfl

omit hp hsep in
theorem sepBy_of_uncommitted {e : ParseError} (h : p.sepBy1 separator s = .ok (.failure e false)) :
    p.sepBy separator s = .ok (.value [] 0) := by
  rw [sepBy, map, optional, h]
  rfl

/-- A list that may have no items answers as one with items does, except that it has none where that
fails and does not commit. -/
theorem sepBy_eq_ok_iff (hs : s.location.Valid) (hoff : s.sliced = false)
    {o : Outcome (List α)} :
    p.sepBy separator s = .ok o ↔
      p.sepBy1 separator s = .ok o ∧ (∀ e, o ≠ .failure e false) ∨
        (∃ e, p.sepBy1 separator s = .ok (.failure e false)) ∧ o = .value [] 0 := by
  rcases hlist : p.sepBy1 separator s with fault | ⟨w, c⟩ | ⟨e, _ | _⟩
  · rw [sepBy_of_error hlist]
    simp
  · obtain ⟨v, n, links, -, -, -, -, rfl⟩ := (sepBy1_eq_success_iff hp hsep hs hoff).1 hlist
    rw [sepBy_of_value hlist]
    constructor
    · rintro ⟨⟩
      exact Or.inl ⟨rfl, nofun⟩
    · rintro (⟨h, -⟩ | ⟨⟨e, h⟩, -⟩)
      · exact h
      · cases h
  · rw [sepBy_of_uncommitted hlist]
    constructor
    · rintro ⟨⟩
      exact Or.inr ⟨⟨e, rfl⟩, rfl⟩
    · rintro (⟨⟨⟩, hother⟩ | ⟨-, rfl⟩)
      · exact absurd rfl (hother e)
      · rfl
  · rw [sepBy_of_committed hlist]
    constructor
    · rintro ⟨⟩
      exact Or.inl ⟨rfl, nofun⟩
    · rintro (⟨h, -⟩ | ⟨⟨e, h⟩, -⟩)
      · exact h
      · cases h

/-- A list that may have no items is one with items, or has none where the first item fails and does
not commit. -/
theorem sepBy_eq_success_iff (hs : s.location.Valid) (hoff : s.sliced = false)
    {w : Yield (List α)} {c : Nat} :
    p.sepBy separator s = .ok (.success w c) ↔
      p.sepBy1 separator s = .ok (.success w c) ∨
        (∃ e, p s = .ok (.failure e false)) ∧ w = .value [] ∧ c = 0 := by
  have hfirst : ∀ e, p.sepBy1 separator s = .ok (.failure e false) ↔
      p s = .ok (.failure e false) := fun e ↦ by
    rw [sepBy1_eq_failure_iff hp hsep hs hoff]
    simp
  rw [sepBy_eq_ok_iff hp hsep hs hoff, exists_congr hfirst, Outcome.value, Outcome.success.injEq]
  exact or_congr_left (and_iff_left nofun)

/-- A list that may have no items fails only where one with items does and commits. -/
theorem sepBy_eq_failure_iff (hs : s.location.Valid) (hoff : s.sliced = false) {e : ParseError}
    {committed : Bool} :
    p.sepBy separator s = .ok (.failure e committed) ↔
      committed = true ∧ p.sepBy1 separator s = .ok (.failure e true) := by
  rw [sepBy_eq_ok_iff hp hsep hs hoff]
  constructor
  · rintro (⟨hlist, hcommitted⟩ | ⟨-, ⟨⟩⟩)
    cases committed with
    | true => exact ⟨rfl, hlist⟩
    | false => exact absurd rfl (hcommitted e)
  · rintro ⟨rfl, hlist⟩
    exact Or.inl ⟨hlist, nofun⟩

end Links

/-- **A separated list is items joined by separators.** With slicing off, `sepBy1` succeeds over `c`
bytes if and only if the item matches at the start and links lead from its end to there, of which
none but the last is empty and behind which the list ends; its values are those of the items, in
order. It fails as its first item does, and otherwise only with a failure that commits, of the
separator or of the item behind it, behind links that are not empty. `sepBy` succeeds as `sepBy1`
does, and with no values over no bytes where the first item fails and does not commit; it fails only
where `sepBy1` does and commits. If all runs of the item and the separator answer, then so do both.
-/
theorem separated_lists_join_items (hp : p.Stays) (hsep : separator.Stays) (hs : s.location.Valid)
    (hoff : s.sliced = false) :
    (∀ w c, p.sepBy1 separator s = .ok (.success w c) ↔
      ∃ v n links, p.readAt s = .ok (.value v n) ∧
        p.Links separator (s.jump n) links (s.jump c) ∧
        (∀ link ∈ links.dropLast, link.consumed ≠ 0) ∧ p.ListEnds separator links (s.jump c) ∧
        w = .value (v :: links.map (·.value))) ∧
    (∀ e committed, p.sepBy1 separator s = .ok (.failure e committed) ↔
      p s = .ok (.failure e committed) ∨
        committed = true ∧ ∃ v n links t, p.readAt s = .ok (.value v n) ∧
          p.Links separator (s.jump n) links t ∧ (∀ link ∈ links, link.consumed ≠ 0) ∧
          p.Unlinked separator t e true) ∧
    (∀ w c, p.sepBy separator s = .ok (.success w c) ↔
      p.sepBy1 separator s = .ok (.success w c) ∨
        (∃ e, p s = .ok (.failure e false)) ∧ w = .value [] ∧ c = 0) ∧
    (∀ e committed, p.sepBy separator s = .ok (.failure e committed) ↔
      committed = true ∧ p.sepBy1 separator s = .ok (.failure e true)) ∧
    ((∀ t : State, t.location.Valid → ∃ o, p t = .ok o) →
      (∀ t : State, t.location.Valid → ∃ o, separator t = .ok o) →
      (∃ o, p.sepBy1 separator s = .ok o) ∧ ∃ o, p.sepBy separator s = .ok o) := by
  refine ⟨fun w c ↦ sepBy1_eq_success_iff hp hsep hs hoff,
    fun e committed ↦ sepBy1_eq_failure_iff hp hsep hs hoff,
    fun w c ↦ sepBy_eq_success_iff hp hsep hs hoff,
    fun e committed ↦ sepBy_eq_failure_iff hp hsep hs hoff, fun hitem hseparator ↦ ?_⟩
  obtain ⟨o, hlist⟩ := exists_sepBy1_eq_ok hp hsep hs hitem hseparator
  refine ⟨⟨o, hlist⟩, ?_⟩
  rcases o with ⟨w, c⟩ | ⟨e, committed⟩
  · exact ⟨_, (sepBy_eq_success_iff hp hsep hs hoff).2 (Or.inl hlist)⟩
  · cases committed with
    | true => exact ⟨_, sepBy_of_committed hlist⟩
    | false => exact ⟨_, sepBy_of_uncommitted hlist⟩

/-- Letters joined by commas. The comma behind the last letter is left where it is. -/
theorem sepBy1_leaves_last_comma :
    (literal "a").sepBy1 (literal ",") (.start "a,a,!") =
      .ok (.success (.value ["a", "a"]) 3) := by
  have hs : (State.start "a,a,!").location.Valid := Location.valid_start (by decide)
  have hjoins := (separated_lists_join_items (Safe.literal "a").stays (Safe.literal ",").stays hs
    rfl).1 (.value ["a", "a"]) 3
  have hlinks : (literal "a").Links (literal ",") ((State.start "a,a,!").jump 1)
      [{ value := "a", consumed := 2 }] ((State.start "a,a,!").jump 3) :=
    .cons (m := 1) (n := 1) rfl rfl (.nil _)
  exact hjoins.2 ⟨"a", 1, _, rfl, hlinks, by decide, .unlinked _ (.item rfl rfl), rfl⟩

end Parser

end Descent
