import Descent.CharSet.Basic

/-!
# Sets of code points as ranges

A property of characters is given by the ranges of code points that have it, each by its first and
last member, in ascending order. Looking a code point up stops at the first range that begins behind
it, so the characters at the front of a table, ASCII among them, are found in a few steps.
-/

namespace Descent.Unicode

/-- Ranges of code points, first and last member, in ascending order. -/
abbrev Ranges := List (Nat × Nat)

namespace Ranges

/-- Whether a code point lies in one of the ranges. -/
def has : Ranges → Nat → Bool
  | [], _ => false
  | (first, last) :: more, n =>
    if n < first then false else if n ≤ last then true else has more n

/-- Whether the ranges are in ascending order, as looking up supposes: each begins behind `bound`
and behind the one before it. -/
def ascendsFrom (bound : Nat) : Ranges → Bool
  | [] => true
  | (first, last) :: more => bound ≤ first && first ≤ last && ascendsFrom (last + 1) more

theorem le_of_ascendsFrom {rs : Ranges} {bound : Nat} (h : rs.ascendsFrom bound = true)
    {r : Nat × Nat} (hr : r ∈ rs) : bound ≤ r.1 := by
  induction rs generalizing bound with
  | nil => simp at hr
  | cons head rs ih =>
    simp only [ascendsFrom, Bool.and_eq_true, decide_eq_true_eq] at h
    obtain ⟨⟨hbound, hle⟩, hmore⟩ := h
    rcases List.mem_cons.1 hr with rfl | hr
    · exact hbound
    · have := ih hmore hr
      omega

/-- In an ascending table, stopping early misses nothing. -/
theorem has_eq_true_iff {rs : Ranges} {bound n : Nat} (h : rs.ascendsFrom bound = true) :
    rs.has n = true ↔ ∃ r ∈ rs, r.1 ≤ n ∧ n ≤ r.2 := by
  induction rs generalizing bound with
  | nil => simp [has]
  | cons head rs ih =>
    obtain ⟨first, last⟩ := head
    simp only [ascendsFrom, Bool.and_eq_true, decide_eq_true_eq] at h
    obtain ⟨⟨-, hle⟩, hmore⟩ := h
    rw [has]
    split
    · rename_i hlt
      simp only [Bool.false_eq_true, false_iff, not_exists, not_and]
      rintro r hr hfirst
      rcases List.mem_cons.1 hr with rfl | hr
      · exact absurd hfirst (by simpa using hlt)
      · have := le_of_ascendsFrom hmore hr
        omega
    · split
      · exact ⟨fun _ ↦ ⟨_, List.mem_cons_self, by omega, by assumption⟩, fun _ ↦ rfl⟩
      · rw [ih hmore]
        simp only [List.mem_cons, exists_eq_or_imp]
        constructor
        · exact Or.inr
        · rintro (⟨-, hn⟩ | hr)
          · exact absurd hn (by assumption)
          · exact hr

/-- The characters whose code points lie in the ranges. -/
def toSet (rs : Ranges) : CharSet :=
  .ofRanges (rs.map fun r ↦ (.ofNat r.1, .ofNat r.2))

end Ranges

/-- The characters of some tables. -/
def setOfTables (tables : List Ranges) : CharSet :=
  tables.foldr (fun t s ↦ .union t.toSet s) .empty

end Descent.Unicode
