import Descent.Proofs.Failures
import Descent.Proofs.HandedBack

/-!
# Two parsers one after the other

What `map2` answers, said of its two parts: it fails as the first part does, or behind a success of
the first one as the second does (`map2_eq_failure_iff`), and with slicing off a success is that of
both, with what the function makes of the two values (`map2_eq_success_iff`). Each value is the one
that its own part gives where that was run, `Parser.readAt`, so a reader of these lemmas does not
have to know that a value may have been kept as text.
-/

namespace Descent.Parser

variable {α β γ : Type} {p : Parser α} {q : Parser β} {f : α → β → γ} {s : State}

/-- Of a success that stays in the input a value can be read, with slicing off. -/
theorem Stays.exists_readAt (hp : p.Stays) (hs : s.location.Valid) (hoff : s.sliced = false)
    {y : Yield α} {n : Nat} (run : p s = .ok (.success y n)) :
    ∃ a, p.readAt s = .ok (.value a n) := by
  obtain ⟨hn, hbare⟩ := hp s y n hs run
  obtain ⟨a, ha⟩ := Yield.exists_get? (hbare hoff) (s.location.text n)
  exact ⟨a, readAt_eq_value_iff.2 ⟨y, run, Yield.read_eq hs hn ha⟩⟩

/-- A value that has been read leads to a place in the input. -/
theorem Stays.valid_of_readAt (hp : p.Stays) (hs : s.location.Valid) {a : α} {n : Nat}
    (hread : p.readAt s = .ok (.value a n)) : (s.jump n).location.Valid := by
  obtain ⟨y, run, -⟩ := readAt_eq_value_iff.1 hread
  exact (hp s y n hs run).1

section Map2

theorem map2_of_error {fault : Fault} (run : p s = .error fault) :
    p.map2 q f s = .error fault := by
  rw [map2, run]
  rfl

theorem map2_of_failure {e : ParseError} {committed : Bool}
    (run : p s = .ok (.failure e committed)) : p.map2 q f s = .ok (.failure e committed) := by
  rw [map2, run]
  rfl

/-- Behind a success of the first part, the second one is run. -/
theorem map2_of_success {y : Yield α} {m : Nat} (hm : (s.location.jump m).Valid)
    (run : p s = .ok (.success y m)) :
    p.map2 q f s = (do
      match ← q (s.jump m) with
      | .failure e committed => return .failure e committed
      | .success z n => Outcome.pair f s (s.jump m) y m z n) := by
  have hnext : s.advance m = .ok (s.jump m) := State.advance_eq hm
  rw [map2, run]
  show (s.advance m >>= _) = _
  exact hnext ▸ rfl

section Behind

variable {y : Yield α} {m : Nat} (hm : (s.location.jump m).Valid)
  (run : p s = .ok (.success y m))

include hm run

theorem map2_of_second_error {fault : Fault} (run' : q (s.jump m) = .error fault) :
    p.map2 q f s = .error fault := by
  rw [map2_of_success hm run, run']
  rfl

theorem map2_of_second_failure {e : ParseError} {committed : Bool}
    (run' : q (s.jump m) = .ok (.failure e committed)) :
    p.map2 q f s = .ok (.failure e committed) := by
  rw [map2_of_success hm run, run']
  rfl

theorem map2_of_successes {z : Yield β} {n : Nat} (run' : q (s.jump m) = .ok (.success z n)) :
    p.map2 q f s = Outcome.pair f s (s.jump m) y m z n := by
  rw [map2_of_success hm run, run']
  rfl

end Behind

/-- With slicing off, both values can be read. -/
theorem pair_of_reads {next : State} {y : Yield α} {z : Yield β} {m n : Nat} {a : α} {b : β}
    (hoff : s.sliced = false) (hend : (s.location.jump (m + n)).Valid) (ha : y.read s m = .ok a)
    (hb : z.read next n = .ok b) :
    Outcome.pair f s next y m z n = .ok (.success (.value (f a b)) (m + n)) := by
  simp only [Outcome.pair, hoff, ha, hb, Outcome.addCounts_eq hend, ok_bind]
  rfl

/-- With slicing on, neighbours without values give none. -/
theorem pair_of_collapses {next : State} {y : Yield α} {z : Yield β} {m n : Nat}
    (hon : s.sliced = true) (hend : (s.location.jump (m + n)).Valid)
    (h : y.collapses z = true) :
    Outcome.pair f s next y m z n = .ok (.success .bare (m + n)) := by
  simp only [Outcome.pair, hon, h, Outcome.addCounts_eq hend, ok_bind]
  rfl

theorem map2_of_reads (hp : p.Stays) (hq : q.Stays) (hs : s.location.Valid)
    (hoff : s.sliced = false) {a : α} {b : β} {m n : Nat} (ha : p.readAt s = .ok (.value a m))
    (hb : q.readAt (s.jump m) = .ok (.value b n)) :
    p.map2 q f s = .ok (.success (.value (f a b)) (m + n)) := by
  have hm : (s.jump m).location.Valid := hp.valid_of_readAt hs ha
  have hend : ((s.jump m).jump n).location.Valid := hq.valid_of_readAt hm hb
  rw [State.jump_jump] at hend
  obtain ⟨y, hrun, hy⟩ := readAt_eq_value_iff.1 ha
  obtain ⟨z, hrun', hz⟩ := readAt_eq_value_iff.1 hb
  rw [map2_of_successes hm hrun hrun']
  exact pair_of_reads hoff hend hy hz

/-- Two successes make one over the length of both, which is bare in slicing mode only. -/
theorem exists_map2_of_successes (hp : p.Stays) (hq : q.Stays) (hs : s.location.Valid)
    {y : Yield α} {z : Yield β} {m n : Nat} (run : p s = .ok (.success y m))
    (run' : q (s.jump m) = .ok (.success z n)) :
    ∃ w, p.map2 q f s = .ok (.success w (m + n)) ∧ (s.sliced = false → w ≠ .bare) := by
  obtain ⟨hm, hy⟩ := hp s y m hs run
  obtain ⟨hn, hz⟩ := hq (s.jump m) z n hm run'
  obtain ⟨w, hpair, hw⟩ := Outcome.exists_pair f hs hm hn fun hoff ↦ ⟨hy hoff, hz hoff⟩
  refine ⟨w, ?_, fun hoff ↦ ?_⟩
  · rw [map2_of_successes hm run run', hpair]
  · rcases hw with ⟨-, hon⟩ | ⟨a, b, rfl, -⟩
    · cases hoff.symm.trans hon
    · exact nofun

/-- A sequence fails as one of its parts does, the second of them behind a success of the first. -/
theorem map2_eq_failure_iff (hp : p.Stays) (hs : s.location.Valid) {e : ParseError}
    {committed : Bool} :
    p.map2 q f s = .ok (.failure e committed) ↔
      p s = .ok (.failure e committed) ∨
        ∃ y m, p s = .ok (.success y m) ∧ q (s.jump m) = .ok (.failure e committed) := by
  constructor
  · intro h
    rcases run : p s with fault | ⟨y, m⟩ | ⟨e', committed'⟩
    · rw [map2_of_error run] at h
      cases h
    · rw [map2_of_success (hp s y m hs run).1 run] at h
      obtain ⟨_ | ⟨e', committed'⟩, run', h⟩ := bind_eq_ok_iff.1 h
      · -- Two successes are not made a failure.
        exact (Outcome.obeys_pair (F := fun _ _ _ ↦ False) (l := s.location) _ _ _ _ _ _ _ _ h).elim
      · cases h
        exact Or.inr ⟨y, m, rfl, run'⟩
    · rw [map2_of_failure run] at h
      cases h
      exact Or.inl rfl
  · rintro (run | ⟨y, m, run, run'⟩)
    · exact map2_of_failure run
    · exact map2_of_second_failure (hp s y m hs run).1 run run'

/-- With slicing off, a sequence succeeds over both parts, with what its function makes of their
values. -/
theorem map2_eq_success_iff (hp : p.Stays) (hq : q.Stays) (hs : s.location.Valid)
    (hoff : s.sliced = false) {w : Yield γ} {k : Nat} :
    p.map2 q f s = .ok (.success w k) ↔
      ∃ a m b n, p.readAt s = .ok (.value a m) ∧ q.readAt (s.jump m) = .ok (.value b n) ∧
        w = .value (f a b) ∧ k = m + n := by
  constructor
  · intro h
    rcases run : p s with fault | ⟨y, m⟩ | ⟨e, committed⟩
    · rw [map2_of_error run] at h
      cases h
    · have hm : (s.location.jump m).Valid := (hp s y m hs run).1
      obtain ⟨a, ha⟩ := hp.exists_readAt hs hoff run
      have hboth := h
      rw [map2_of_success hm run] at h
      obtain ⟨⟨z, n⟩ | _, run', h'⟩ := bind_eq_ok_iff.1 h
      · obtain ⟨b, hb⟩ := hq.exists_readAt (s := s.jump m) hm hoff run'
        cases (map2_of_reads hp hq hs hoff ha hb).symm.trans hboth
        exact ⟨a, m, b, n, ha, hb, rfl, rfl⟩
      · cases h'
    · rw [map2_of_failure run] at h
      cases h
  · rintro ⟨a, m, b, n, ha, hb, rfl, rfl⟩
    exact map2_of_reads hp hq hs hoff ha hb

theorem Stays.map2 (hp : p.Stays) (hq : q.Stays) (f : α → β → γ) : (p.map2 q f).Stays := by
  intro s w k hs h
  rcases run : p s with fault | ⟨y, m⟩ | ⟨e, committed⟩
  · rw [map2_of_error run] at h
    cases h
  · have hm : (s.location.jump m).Valid := (hp s y m hs run).1
    have hrest := h
    rw [map2_of_success hm run] at hrest
    obtain ⟨⟨z, n⟩ | _, run', hpair⟩ := bind_eq_ok_iff.1 hrest
    · obtain ⟨w', hboth, hbare⟩ := exists_map2_of_successes (f := f) hp hq hs run run'
      cases hboth.symm.trans h
      have hend : ((s.jump m).location.jump n).Valid := (hq (s.jump m) z n hm run').1
      exact ⟨by simpa using hend, hbare⟩
    · cases hpair
  · rw [map2_of_failure run] at h
    cases h

/-- A sequence has an answer where its parts have one. -/
theorem exists_map2_eq_ok (hp : p.Stays) (hq : q.Stays) (hs : s.location.Valid)
    (hanswer : ∃ o, p s = .ok o)
    (hanswer' : ∀ y m, p s = .ok (.success y m) → ∃ o, q (s.jump m) = .ok o) :
    ∃ o, p.map2 q f s = .ok o := by
  obtain ⟨⟨y, m⟩ | ⟨e, committed⟩, run⟩ := hanswer
  · obtain ⟨⟨z, n⟩ | ⟨e, committed⟩, run'⟩ := hanswer' y m run
    · obtain ⟨w, hboth, -⟩ := exists_map2_of_successes (f := f) hp hq hs run run'
      exact ⟨_, hboth⟩
    · exact ⟨_, (map2_eq_failure_iff hp hs).2 (Or.inr ⟨y, m, run, run'⟩)⟩
  · exact ⟨_, map2_of_failure run⟩

end Map2

end Descent.Parser
