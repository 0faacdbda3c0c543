import Descent.Proofs.Safe

/-!
# Counting the runs of a repetition

A repetition counts its runs in a machine word. Wherever its loop has come to, the count is one that
may grow (`Progress.Counted`): with an upper bound it grows with the turns that are left of it, and
without one it is at most the number of bytes consumed, since every run but the last consumes
something. So no count overflows before the input ends, and a run can be added.
-/

namespace Descent

/-- An upper bound is a machine word. -/
def Bounds.Fits (b : Bounds) : Prop :=
  ∀ n, b.most? = some n → n < wordLimit

/-- Without an upper bound, an empty run is the last one. With one, it is like any other. -/
theorem Bounds.stalls_iff {b : Bounds} {n : Nat} : b.stalls n = true ↔ b.most? = none ∧ n = 0 := by
  simp [stalls]

theorem Bounds.ne_zero_of_stalls {b : Bounds} {n : Nat} (hnone : b.most? = none)
    (h : b.stalls n = false) : n ≠ 0 := by
  simpa [stalls, hnone] using h

namespace Progress

variable {α : Type} {b : Bounds} {budget n : Nat} {done : Progress α}

/-- What has been matched after one more run, which gave the values `newest`. -/
def next (done : Progress α) (newest : List α) (n : Nat) : Progress α where
  values := newest ++ done.values
  count := done.count + 1
  consumed := done.consumed + n

@[simp]
theorem count_next (newest : List α) : (done.next newest n).count = done.count + 1 :=
  rfl

@[simp]
theorem consumed_next (newest : List α) :
    (done.next newest n).consumed = done.consumed + n :=
  rfl

@[simp]
theorem values_next (newest : List α) : (done.next newest n).values = newest ++ done.values :=
  rfl

/-- The count of runs may grow: it stays below the upper bound, or else below the bytes consumed. -/
structure Counted (done : Progress α) (b : Bounds) (budget : Nat) : Prop where
  /-- With an upper bound, the turns left lead up to it. -/
  bounded : ∀ k, b.most? = some k → done.count + budget ≤ k
  /-- Without one, every run so far has consumed something. -/
  unbounded : b.most? = none → done.count ≤ done.consumed

theorem counted_start (b : Bounds) (r : Nat) : (start : Progress α).Counted b (b.allowance r) where
  bounded k hk := by simp [start, Bounds.allowance, hk]
  unbounded _ := Nat.le_refl 0

namespace Counted

theorem next (h : done.Counted b (budget + 1)) (hstall : b.stalls n = false)
    (newest : List α) : (done.next newest n).Counted b budget where
  bounded k hk := by
    have := h.bounded k hk
    simp only [count_next]
    omega
  unbounded hnone := by
    have := h.unbounded hnone
    have hn : n ≠ 0 := Bounds.ne_zero_of_stalls hnone hstall
    simp only [count_next, consumed_next]
    omega

/-- One more run can be counted. -/
theorem addCounts_eq (h : done.Counted b (budget + 1)) (hb : b.Fits) {l : Location}
    (hinside : (l.jump done.consumed).Inside) : addCounts done.count 1 = .ok (done.count + 1) := by
  refine addCounts_of_lt ?_
  -- The count is at most that of the bytes consumed, or it is below the upper bound.
  rcases hmost : b.most? with - | k
  · have hle : l.offset + done.consumed ≤ l.input.utf8ByteSize := hinside.offset_le
    have hfits : l.input.utf8ByteSize < textLimit := hinside.fits
    have := h.unbounded hmost
    unfold wordLimit
    unfold textLimit at hfits
    omega
  · have := h.bounded k hmost
    have := hb k hmost
    omega

end Counted

section Add

variable {here : State} {y : Yield α} {l : Location}

/-- With slicing on, a run is counted. -/
theorem add_eq_of_sliced (h : done.Counted b (budget + 1)) (hb : b.Fits)
    (hinside : (l.jump done.consumed).Inside) (hnext : (l.jump (done.consumed + n)).Inside)
    (hsliced : here.sliced = true) : done.add here y n = .ok (done.next [] n) := by
  simp only [add, hsliced, if_true, pure_eq_ok, ok_bind, h.addCounts_eq hb hinside,
    Outcome.addCounts_eq_of_inside hnext]
  rfl

/-- With slicing off, a run is counted and its value is put in front. -/
theorem add_eq_of_read (h : done.Counted b (budget + 1)) (hb : b.Fits)
    (hinside : (l.jump done.consumed).Inside) (hnext : (l.jump (done.consumed + n)).Inside)
    (hsliced : here.sliced = false) {a : α} (ha : y.read here n = .ok a) :
    done.add here y n = .ok (done.next [a] n) := by
  simp only [add, hsliced, ha, pure_eq_ok, ok_bind, h.addCounts_eq hb hinside,
    Outcome.addCounts_eq_of_inside hnext]
  rfl

/-- A run that has been added is counted, whatever its values are. -/
theorem ensures_add : Ensures (fun d ↦ ∃ newest, d = done.next newest n) (done.add here y n) := by
  have hsum : ∀ i j, Ensures (· = i + j) (addCounts i j) := fun i j k hk ↦
    (addCounts_eq_ok_iff.1 hk).2
  have hcount : ∀ newest : List α,
      Ensures (fun d ↦ ∃ newest, d = done.next newest n) (do
        let count ← addCounts done.count 1
        let consumed ← addCounts done.consumed n
        return ({ values := newest ++ done.values, count, consumed } : Progress α)) := by
    intro newest
    refine (hsum done.count 1).bind fun count hone ↦ ?_
    refine (hsum done.consumed n).bind fun consumed hmore ↦ ?_
    subst hone hmore
    exact Ensures.ok ⟨newest, rfl⟩
  unfold add
  split
  · exact hcount []
  · exact Ensures.bind_any fun a ↦ hcount [a]

end Add

end Progress

end Descent
