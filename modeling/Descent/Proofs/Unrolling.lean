import Descent.Proofs.Sequence

/-!
# Repetitions made of others

A repetition cut in two is a sequence of repetitions, and one that may match nothing is an
alternative: `listOfN (m + n)` is `listOfN m` and then `listOfN n`, `many` is `many1` or nothing,
and `many1` is a first run and `many` behind it. Both sides give the same answer, in everything that
an answer says (`repetitions_unroll`).

All three are read off `repeated_eq_iff`. Of the two sides, one has its turns in one chain and the
other in two, and what is to be seen is that the chain ends for the same reason: that the bounds
allow for another turn of the whole where they do so of the part (`Concludes.of_fails` and
`Concludes.cons`), and that the values of both parts together are those of the whole
(`Gathers.exists_pair_append` and `Gathers.exists_pair_cons`).
-/

namespace Descent

variable {α : Type}

/-! ### What two parts give together -/

namespace Yield.Gathers

variable {w w' : Yield (List α)} {s next : State} {turns more : List (Turn α)} {m n : Nat}

/-- The values of some turns, and behind them those of others. -/
theorem exists_pair_append (h : w.Gathers s.sliced turns) (h' : w'.Gathers s.sliced more)
    (hend : (s.location.jump (m + n)).Valid) :
    ∃ v, Outcome.pair (· ++ ·) s next w m w' n = .ok (.success v (m + n)) ∧
      v.Gathers s.sliced (turns ++ more) := by
  rcases hsliced : s.sliced with - | -
  · obtain ⟨as, has, rfl⟩ := h.values hsliced
    obtain ⟨bs, hbs, rfl⟩ := h'.values hsliced
    have hboth : (turns ++ more).mapM Turn.read = .ok (as ++ bs) := by
      rw [List.mapM_append, has, hbs]
      rfl
    exact ⟨.value (as ++ bs), Parser.pair_of_reads hsliced hend rfl rfl, nofun,
      fun _ ↦ ⟨as ++ bs, hboth, rfl⟩⟩
  · obtain rfl := h.bare hsliced
    obtain rfl := h'.bare hsliced
    exact ⟨.bare, Parser.pair_of_collapses hsliced hend rfl, fun _ ↦ rfl, nofun⟩

/-- The value of a first turn, and behind it those of others. -/
theorem exists_pair_cons {y : Yield α} (h : w.Gathers s.sliced more)
    (hread : s.sliced = false → ∃ a, y.read s m = .ok a)
    (hend : (s.location.jump (m + n)).Valid) :
    ∃ v, Outcome.pair List.cons s next y m w n = .ok (.success v (m + n)) ∧
      v.Gathers s.sliced ({ start := s, yield := y, consumed := m } :: more) := by
  rcases hsliced : s.sliced with - | -
  · obtain ⟨a, ha⟩ := hread hsliced
    obtain ⟨as, has, rfl⟩ := h.values hsliced
    have hfirst : Turn.read { start := s, yield := y, consumed := m } = .ok a := ha
    have hall : List.mapM Turn.read ({ start := s, yield := y, consumed := m } :: more) =
        .ok (a :: as) := by
      rw [List.mapM_cons, hfirst, has]
      rfl
    exact ⟨.value (a :: as), Parser.pair_of_reads hsliced hend ha rfl, nofun,
      fun _ ↦ ⟨a :: as, hall, rfl⟩⟩
  · obtain rfl := h.bare hsliced
    have hcollapse : y.collapses (.bare : Yield (List α)) = true := by
      cases y <;> rfl
    exact ⟨.bare, Parser.pair_of_collapses hsliced hend hcollapse, fun _ ↦ rfl, nofun⟩

end Yield.Gathers

/-! ### How the whole ends where a part does -/

namespace Parser.Concludes

variable {p : Parser α} {sliced : Bool} {s t : State} {turns turns' : List (Turn α)}
  {x : Except Fault (Outcome (List α))} {least m n : Nat}

theorem gathers {b : Bounds} {w : Yield (List α)} {c : Nat}
    (h : p.Concludes b sliced turns t (.ok (.success w c))) : w.Gathers sliced turns := by
  rcases h with ⟨-, -, -, gathers⟩
  exact gathers

theorem consumed_eq {b : Bounds} {w : Yield (List α)} {c : Nat}
    (h : p.Concludes b sliced turns t (.ok (.success w c))) : c = Turn.total turns := by
  rcases h with ⟨-, -, -, -⟩
  rfl

/-- Exactly as many turns as asked for are a success. -/
theorem length_eq {w : Yield (List α)} {c : Nat}
    (h : p.Concludes { least := n, most? := some n } sliced turns t (.ok (.success w c))) :
    turns.length = n := by
  rcases h with ⟨admits, enough, -, -⟩
  refine Nat.le_antisymm (admits.bounded n rfl) (Nat.le_of_not_lt fun hfew ↦ ?_)
  have hcontinues : Bounds.Continues { least := n, most? := some n } turns :=
    ⟨fun k hk ↦ Option.some.inj hk ▸ hfew, nofun⟩
  exact absurd (enough hcontinues) (Nat.not_le_of_lt hfew)

/-- Where one exact repetition does not succeed, another one does not either, if it asks for another
turn there as well. -/
theorem of_fails (h : p.Concludes { least := m, most? := some m } sliced turns t x)
    (hx : ∀ w c, x ≠ .ok (.success w c)) (hmore : turns.length < m → turns'.length < n) :
    p.Concludes { least := n, most? := some n } sliced turns' t x := by
  have hcontinues : Bounds.Continues { least := m, most? := some m } turns →
      Bounds.Continues { least := n, most? := some n } turns' := fun continues ↦
    ⟨fun k hk ↦ Option.some.inj hk ▸ hmore (continues.bounded m rfl), nofun⟩
  cases h with
  | success => exact absurd rfl (hx _ _)
  | failure continues run =>
    exact .failure (hcontinues continues) run (Or.inr (hmore (continues.bounded m rfl)))
  | fault continues run => exact .fault (hcontinues continues) run

/-- Two exact numbers of turns, one behind the other, are their sum. -/
theorem append_success {more : List (Turn α)} {t' : State} {w w' v : Yield (List α)} {c c' : Nat}
    (h : p.Concludes { least := m, most? := some m } sliced turns t (.ok (.success w c)))
    (h' : p.Concludes { least := n, most? := some n } sliced more t' (.ok (.success w' c')))
    (hv : v.Gathers sliced (turns ++ more)) :
    p.Concludes { least := m + n, most? := some (m + n) } sliced (turns ++ more) t'
      (.ok (.success v (c + c'))) := by
  have hlength : (turns ++ more).length = m + n := by
    rw [List.length_append, h.length_eq, h'.length_eq]
  rw [h.consumed_eq, h'.consumed_eq, ← Turn.total_append]
  exact .success ⟨fun k hk ↦ Option.some.inj hk ▸ Nat.le_of_eq hlength, nofun⟩
    (fun _ ↦ Nat.le_of_eq hlength.symm) (.full (congrArg some hlength.symm)) hv

/-- Without an upper bound, a first turn that was not empty changes nothing about how the others
end, but that one turn less is asked for of them. -/
theorem cons (h : p.Concludes { least, most? := none } sliced turns t x)
    (hx : ∀ w c, x ≠ .ok (.success w c)) {turn : Turn α} (hturn : turn.consumed ≠ 0) :
    p.Concludes { least := least + 1, most? := none } sliced (turn :: turns) t x := by
  have hcontinues : Bounds.Continues { least, most? := none } turns →
      Bounds.Continues { least := least + 1, most? := none } (turn :: turns) := fun continues ↦
    ⟨nofun, fun _ ↦ List.forall_mem_cons.2 ⟨hturn, continues.unbounded rfl⟩⟩
  cases h with
  | success => exact absurd rfl (hx _ _)
  | failure continues run final =>
    exact .failure (hcontinues continues) run (final.imp_right Nat.succ_lt_succ)
  | fault continues run => exact .fault (hcontinues continues) run

/-- The same for a success, whose values are those of all turns. -/
theorem cons_success {w v : Yield (List α)} {c : Nat}
    (h : p.Concludes { least, most? := none } sliced turns t (.ok (.success w c)))
    {turn : Turn α} (hturn : turn.consumed ≠ 0) (hv : v.Gathers sliced (turn :: turns)) :
    p.Concludes { least := least + 1, most? := none } sliced (turn :: turns) t
      (.ok (.success v (turn.consumed + c))) := by
  rcases h with ⟨admits, enough, stops, -⟩
  refine .success ⟨nofun, fun _ ↦ ?_⟩ (fun continues ↦ ?_) ?_ hv
  · rcases turns with - | ⟨next, turns⟩
    · exact nofun
    · rw [List.dropLast_cons_of_ne_nil (List.cons_ne_nil next turns)]
      exact List.forall_mem_cons.2 ⟨hturn, admits.unbounded rfl⟩
  · have hothers := fun other hother ↦
      continues.unbounded rfl other (List.mem_cons_of_mem turn hother)
    exact Nat.succ_le_succ (enough ⟨nofun, fun _ ↦ hothers⟩)
  · rcases stops with hmost | ⟨-, last, hlast, hempty⟩ | ⟨e, run⟩
    · cases hmost
    · exact .empty rfl last (by rw [List.getLast?_cons, hlast]; rfl) hempty
    · exact .failed e run

/-- A repetition that asks for a turn at least goes as one that does not, except where there is
none. -/
theorem weaken (h : p.Concludes { least := 1, most? := none } sliced turns t x)
    (hx : ∀ e, x ≠ .ok (.failure e false)) :
    p.Concludes { least := 0, most? := none } sliced turns t x := by
  cases h with
  | success admits enough stops gathers =>
    refine .success ⟨admits.bounded, admits.unbounded⟩ (fun _ ↦ Nat.zero_le _) ?_ gathers
    rcases stops with hmost | ⟨hmost, last, hlast, hempty⟩ | ⟨e, run⟩
    · cases hmost
    · exact .empty rfl last hlast hempty
    · exact .failed e run
  | @failure e committed continues run final =>
    have hcommitted : committed = true := by
      rcases committed with - | -
      · exact absurd rfl (hx e)
      · rfl
    exact .failure ⟨continues.bounded, continues.unbounded⟩ run (Or.inl hcommitted)
  | fault continues run => exact .fault ⟨continues.bounded, continues.unbounded⟩ run

end Parser.Concludes

/-! ### The equations -/

namespace Parser

variable {p : Parser α} {s : State}

/-- A number of turns are a first part of them and the rest. -/
theorem listOfN_add (hp : p.Stays) (hs : s.location.Valid) {m n : Nat}
    (hword : m + n < wordLimit) :
    p.listOfN (m + n) s = (p.listOfN m).map2 (p.listOfN n) (· ++ ·) s := by
  have hm : Bounds.Fits { least := m, most? := some m } :=
    (Bounds.meetable_listOfN (by omega)).fits
  have hn : Bounds.Fits { least := n, most? := some n } :=
    (Bounds.meetable_listOfN (by omega)).fits
  refine (repeated_eq_iff hp (Bounds.meetable_listOfN hword).fits hs).2 ?_
  obtain ⟨first, t, hfirst, hends⟩ := (repeated_eq_iff hp hm hs (x := p.listOfN m s)).1 rfl
  have ht : t.location.Valid := hfirst.valid hp hs
  rcases hrun : p.listOfN m s with fault | ⟨w, c⟩ | ⟨e, committed⟩
  · rw [hrun] at hends
    rw [map2_of_error hrun]
    exact ⟨first, t, hfirst, hends.of_fails nofun (by omega)⟩
  · rw [hrun] at hends
    obtain rfl : t = s.jump c := hends.consumed_eq ▸ hfirst.end_eq
    -- All turns of the first part have been made, and the second part goes on behind them.
    obtain ⟨more, u, hmore, hends'⟩ :=
      (repeated_eq_iff hp hn ht (x := p.listOfN n (s.jump c))).1 rfl
    have hlonger : more.length < n → (first ++ more).length < m + n := by
      rw [List.length_append, hends.length_eq]
      omega
    refine ⟨first ++ more, u, hfirst.append hmore, ?_⟩
    rcases hrun' : p.listOfN n (s.jump c) with fault | ⟨w', c'⟩ | ⟨e, committed⟩
    · rw [hrun'] at hends'
      rw [map2_of_second_error ht hrun hrun']
      exact hends'.of_fails nofun hlonger
    · rw [hrun'] at hends'
      have hend : (s.location.jump (c + c')).Valid := by
        simpa using (hp.repeated hn _ w' c' ht hrun').1
      obtain ⟨v, hpair, hv⟩ := hends.gathers.exists_pair_append hends'.gathers hend
      rw [map2_of_successes ht hrun hrun', hpair]
      exact hends.append_success hends' hv
    · rw [hrun'] at hends'
      rw [map2_of_second_failure ht hrun hrun']
      exact hends'.of_fails nofun hlonger
  · rw [hrun] at hends
    rw [map2_of_failure hrun]
    exact ⟨first, t, hfirst, hends.of_fails nofun (by omega)⟩

/-- Any number of turns are one turn at least, or none. -/
theorem many_eq_orElse (hp : p.Stays) (hs : s.location.Valid) (hoff : s.sliced = false) :
    p.many s = p.many1.orElse (succeed []) s := by
  refine (repeated_eq_iff hp Bounds.meetable_many.fits hs).2 ?_
  obtain ⟨turns, t, hchain, hends⟩ :=
    (repeated_eq_iff hp Bounds.meetable_many1.fits hs (x := p.many1 s)).1 rfl
  refine ⟨turns, t, hchain, ?_⟩
  rcases hrun : p.many1 s with fault | ⟨w, c⟩ | ⟨e, _ | _⟩
  · rw [hrun] at hends
    rw [orElse_of_error _ hrun]
    exact hends.weaken nofun
  · rw [hrun] at hends
    rw [orElse_of_success _ hrun]
    exact hends.weaken nofun
  · rw [hrun] at hends
    rw [orElse_of_uncommitted _ hrun]
    -- A failure that does not commit is that of the first turn.
    rcases hends with - | ⟨continues, run, final⟩
    have hnil : turns = [] := by simpa using final
    subst hnil
    exact .success ⟨nofun, fun _ ↦ nofun⟩ (fun _ ↦ Nat.zero_le _) (.failed e run)
      ⟨fun hon ↦ (nomatch hoff.symm.trans hon), fun _ ↦ ⟨[], rfl, rfl⟩⟩
  · rw [hrun] at hends
    rw [orElse_of_committed _ hrun]
    exact hends.weaken nofun

/-- One turn at least is a first one and those behind it, if the first one is not empty. -/
theorem many1_eq_map2 (hp : p.Stays) (hs : s.location.Valid)
    (hfirst : ∀ y, p s ≠ .ok (.success y 0)) : p.many1 s = p.map2 p.many List.cons s := by
  refine (repeated_eq_iff hp Bounds.meetable_many1.fits hs).2 ?_
  rcases hrun : p s with fault | ⟨y, n⟩ | ⟨e, committed⟩
  · rw [map2_of_error hrun]
    exact ⟨[], s, .nil s, .fault ⟨nofun, fun _ ↦ nofun⟩ hrun⟩
  · have hn : n ≠ 0 := by
      rintro rfl
      exact hfirst y hrun
    have hnext : (s.jump n).location.Valid := (hp s y n hs hrun).1
    obtain ⟨turns, t, hchain, hends⟩ :=
      (repeated_eq_iff hp Bounds.meetable_many.fits hnext (x := p.many (s.jump n))).1 rfl
    refine ⟨_, t, .cons hrun hchain, ?_⟩
    rcases hrun' : p.many (s.jump n) with fault | ⟨w, c⟩ | ⟨e, committed⟩
    · rw [hrun'] at hends
      rw [map2_of_second_error hnext hrun hrun']
      exact hends.cons nofun hn
    · rw [hrun'] at hends
      have hend : (s.location.jump (n + c)).Valid := by
        simpa using (hp.repeated Bounds.meetable_many.fits _ w c hnext hrun').1
      obtain ⟨v, hpair, hv⟩ := hends.gathers.exists_pair_cons (s := s)
        (fun hoff ↦ hp.carries.reads s y n hs hoff hrun) hend
      rw [map2_of_successes hnext hrun hrun', hpair]
      exact hends.cons_success hn hv
    · rw [hrun'] at hends
      rw [map2_of_second_failure hnext hrun hrun']
      exact hends.cons nofun hn
  · rw [map2_of_failure hrun]
    exact ⟨[], s, .nil s, .failure ⟨nofun, fun _ ↦ nofun⟩ hrun (Or.inr Nat.zero_lt_one)⟩

/-- **Repetitions are made of others.** At a valid place, a parser that stays in the input gives the
same answer, in what it yields, in its length, its error and its commitment, when it is repeated

* `m + n` times, as when it is repeated `m` times and then `n` times, with the lists put together;
* with slicing off, any number of times, as when it is repeated at least once or, if that does not
  match and does not commit, not at all;
* at least once, as when it is run and then repeated any number of times, with its value in front,
  if it does not succeed over nothing there. -/
theorem repetitions_unroll (hp : p.Stays) (hs : s.location.Valid) :
    (∀ m n, m + n < wordLimit →
      p.listOfN (m + n) s = (p.listOfN m).map2 (p.listOfN n) (· ++ ·) s) ∧
    (s.sliced = false → p.many s = p.many1.orElse (succeed []) s) ∧
    ((∀ y, p s ≠ .ok (.success y 0)) → p.many1 s = p.map2 p.many List.cons s) :=
  ⟨fun _ _ hword ↦ listOfN_add hp hs hword, fun hoff ↦ many_eq_orElse hp hs hoff,
    fun hfirst ↦ many1_eq_map2 hp hs hfirst⟩

/-- A letter in front of an accented one. It is found three times and not four times, in one
repetition or in two; and as often as it is found, in all three ways. -/
theorem repeated_letters_unroll :
    (literal "a").listOfN (1 + 2) (.start "aaaé") =
        .ok (.success (.value ["a", "a", "a"]) 3) ∧
      ((literal "a").listOfN 2).map2 ((literal "a").listOfN 2) (· ++ ·) (.start "aaaé") =
        (literal "a").listOfN (2 + 2) (.start "aaaé") ∧
      (literal "a").many1.orElse (succeed []) (.start "aaaé") =
        .ok (.success (.value ["a", "a", "a"]) 3) ∧
      (literal "a").map2 (literal "a").many List.cons (.start "aaaé") =
        .ok (.success (.value ["a", "a", "a"]) 3) := by
  have hs : (State.start "aaaé").location.Valid := Location.valid_start (by decide)
  have hfirst : literal "a" (.start "aaaé") = .ok (.success (.value "a") 1) := rfl
  have hmany : (literal "a").many (.start "aaaé") =
      .ok (.success (.value ["a", "a", "a"]) 3) := rfl
  obtain ⟨hexact, hnone, hone⟩ := repetitions_unroll (Safe.literal "a").stays hs
  refine ⟨(hexact 1 2 (by decide)).trans rfl, (hexact 2 2 (by decide)).symm,
    (hnone rfl).symm.trans hmany, (hone fun y h ↦ ?_).symm.trans rfl⟩
  cases hfirst.symm.trans h

end Parser

end Descent
