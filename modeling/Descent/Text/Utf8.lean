/-!
# Cutting text at byte counts

Positions in an input are byte offsets, while the text itself is a list of characters. This module
is the bridge: `byteLength` measures characters in bytes of their UTF-8 form, and `takeBytes?` and
`dropBytes?` cut a list after a number of bytes, with `none` where the cut would fall inside a
character or behind the end. Both are pinned down by one statement each: the cut succeeds exactly
when the list splits there (`takeBytes?_eq_some_iff`, `dropBytes?_eq_some_iff`).
-/

namespace Descent.Text

/-! ### Measuring -/

/-- The number of bytes that the characters take in UTF-8. -/
def byteLength : List Char → Nat
  | [] => 0
  | c :: cs => c.utf8Size + byteLength cs

@[simp] theorem byteLength_nil : byteLength [] = 0 := rfl

@[simp] theorem byteLength_cons (c : Char) (cs : List Char) :
    byteLength (c :: cs) = c.utf8Size + byteLength cs := rfl

@[simp] theorem byteLength_append (as bs : List Char) :
    byteLength (as ++ bs) = byteLength as + byteLength bs := by
  induction as with
  | nil => simp
  | cons c cs ih => simp [ih, Nat.add_assoc]

theorem byteLength_replicate (n : Nat) (c : Char) :
    byteLength (List.replicate n c) = n * c.utf8Size := by
  induction n with
  | zero => simp
  | succ n ih => rw [List.replicate_succ, byteLength_cons, ih, Nat.succ_mul, Nat.add_comm]

theorem byteLength_eq_zero_iff {cs : List Char} : byteLength cs = 0 ↔ cs = [] := by
  cases cs with
  | nil => simp
  | cons c cs =>
    have := Char.utf8Size_pos c
    simp only [byteLength_cons, reduceCtorEq, iff_false]
    omega

/-- A string built from characters has their length in bytes. -/
@[simp] theorem utf8ByteSize_ofList (cs : List Char) :
    (String.ofList cs).utf8ByteSize = byteLength cs := by
  induction cs with
  | nil => simp
  | cons c cs ih => simp [String.ofList_cons, ih]

@[simp] theorem byteLength_toList (s : String) : byteLength s.toList = s.utf8ByteSize := by
  conv => rhs; rw [← String.ofList_toList (s := s)]
  exact (utf8ByteSize_ofList s.toList).symm

/-! ### Cutting -/

/-- The characters behind the first `n` bytes, if the cut falls between two characters. -/
def dropBytes? : List Char → Nat → Option (List Char)
  | cs, 0 => some cs
  | [], _ + 1 => none
  | c :: cs, n + 1 => if c.utf8Size ≤ n + 1 then dropBytes? cs (n + 1 - c.utf8Size) else none

/-- The characters that make up the first `n` bytes, if the cut falls between two characters. -/
def takeBytes? : List Char → Nat → Option (List Char)
  | _, 0 => some []
  | [], _ + 1 => none
  | c :: cs, n + 1 =>
    if c.utf8Size ≤ n + 1 then (takeBytes? cs (n + 1 - c.utf8Size)).map (c :: ·) else none

@[simp] theorem dropBytes?_zero (cs : List Char) : dropBytes? cs 0 = some cs := by
  cases cs <;> rfl

@[simp] theorem takeBytes?_zero (cs : List Char) : takeBytes? cs 0 = some [] := by
  cases cs <;> rfl

/-- A character at the front is dropped as a whole. -/
theorem dropBytes?_cons_add (c : Char) (cs : List Char) (n : Nat) :
    dropBytes? (c :: cs) (c.utf8Size + n) = dropBytes? cs n := by
  obtain ⟨k, hk⟩ : ∃ k, c.utf8Size + n = k + 1 :=
    ⟨c.utf8Size + n - 1, by have := Char.utf8Size_pos c; omega⟩
  rw [hk, dropBytes?, if_pos (by omega)]
  congr 1
  omega

/-- A character at the front is taken as a whole. -/
theorem takeBytes?_cons_add (c : Char) (cs : List Char) (n : Nat) :
    takeBytes? (c :: cs) (c.utf8Size + n) = (takeBytes? cs n).map (c :: ·) := by
  obtain ⟨k, hk⟩ : ∃ k, c.utf8Size + n = k + 1 :=
    ⟨c.utf8Size + n - 1, by have := Char.utf8Size_pos c; omega⟩
  rw [hk, takeBytes?, if_pos (by omega)]
  congr 2
  omega

/-- Dropping the bytes of a known front leaves what stands behind it. -/
@[simp] theorem dropBytes?_append (as bs : List Char) :
    dropBytes? (as ++ bs) (byteLength as) = some bs := by
  induction as with
  | nil => simp
  | cons c cs ih => rw [List.cons_append, byteLength_cons, dropBytes?_cons_add, ih]

/-- Taking the bytes of a known front gives that front. -/
@[simp] theorem takeBytes?_append (as bs : List Char) :
    takeBytes? (as ++ bs) (byteLength as) = some as := by
  induction as with
  | nil => simp
  | cons c cs ih => simp [takeBytes?_cons_add, ih]

theorem exists_of_takeBytes? {cs as : List Char} {n : Nat} (h : takeBytes? cs n = some as) :
    ∃ bs, cs = as ++ bs ∧ byteLength as = n := by
  fun_induction takeBytes? cs n generalizing as with
  | case1 cs => simp only [Option.some.injEq] at h; subst h; exact ⟨cs, rfl, rfl⟩
  | case2 => simp at h
  | case3 c cs n hle ih =>
    obtain ⟨as, has, rfl⟩ := Option.map_eq_some_iff.1 h
    obtain ⟨bs, rfl, hlen⟩ := ih has
    exact ⟨bs, rfl, by simp only [byteLength_cons]; omega⟩
  | case4 => simp at h

theorem exists_of_dropBytes? {cs bs : List Char} {n : Nat} (h : dropBytes? cs n = some bs) :
    ∃ as, cs = as ++ bs ∧ byteLength as = n := by
  fun_induction dropBytes? cs n generalizing bs with
  | case1 cs => simp only [Option.some.injEq] at h; subst h; exact ⟨[], rfl, rfl⟩
  | case2 => simp at h
  | case3 c cs n hle ih =>
    obtain ⟨as, rfl, hlen⟩ := ih h
    exact ⟨c :: as, rfl, by simp only [byteLength_cons]; omega⟩
  | case4 => simp at h

/-- Taking `n` bytes gives `as` exactly when the text starts with `as` and `as` has `n` bytes. -/
theorem takeBytes?_eq_some_iff {cs as : List Char} {n : Nat} :
    takeBytes? cs n = some as ↔ ∃ bs, cs = as ++ bs ∧ byteLength as = n :=
  ⟨exists_of_takeBytes?, by rintro ⟨bs, rfl, rfl⟩; exact takeBytes?_append as bs⟩

/-- Dropping `n` bytes leaves `bs` exactly when the text is `n` bytes followed by `bs`. -/
theorem dropBytes?_eq_some_iff {cs bs : List Char} {n : Nat} :
    dropBytes? cs n = some bs ↔ ∃ as, cs = as ++ bs ∧ byteLength as = n :=
  ⟨exists_of_dropBytes?, by rintro ⟨as, rfl, rfl⟩; exact dropBytes?_append as bs⟩

/-- Dropping in two steps is dropping the sum, if the first step ends between two characters. -/
theorem dropBytes?_add {cs bs : List Char} {m : Nat} (h : dropBytes? cs m = some bs) (n : Nat) :
    dropBytes? cs (m + n) = dropBytes? bs n := by
  obtain ⟨as, rfl, rfl⟩ := exists_of_dropBytes? h
  clear h
  induction as with
  | nil => simp
  | cons c cs ih => rw [List.cons_append, byteLength_cons, Nat.add_assoc, dropBytes?_cons_add, ih]

end Descent.Text
