/-!
# Sets of characters

A set of characters is kept as the characters at which membership changes, in ascending order: from
the first of them on characters belong to the set, from the second on they do not, and so on. Every
set that is made of ranges has one such list and no other, so that two sets with the same members
are equal, and all the operations of sets are one walk along two lists.
-/

namespace Descent

/-! ### The next character -/

/-- The character that follows in the order of code points, if there is one. -/
def nextChar? (c : Char) : Option Char :=
  if c.toNat = 0x10ffff then none
  else if c.toNat = 0xd7ff then some '\ue000'
  else some (Char.ofNat (c.toNat + 1))

theorem toNat_lt_iff {c d : Char} : c.toNat < d.toNat ↔ c < d := by
  rw [Char.lt_def, UInt32.lt_iff_toNat_lt]
  rfl

/-- A character is no surrogate, and not beyond the last code point. -/
theorem toNat_char_lt (c : Char) : c.toNat < 0xd800 ∨ 0xdfff < c.toNat ∧ c.toNat < 0x110000 :=
  c.valid

theorem le_of_nextChar?_eq_none {c : Char} (h : nextChar? c = none) (d : Char) : d ≤ c := by
  have hd := toNat_char_lt d
  rw [← Char.not_lt, ← toNat_lt_iff]
  simp only [nextChar?] at h
  split at h
  · omega
  · split at h <;> simp at h

/-- There is nothing between a character and the next one. -/
theorem lt_nextChar?_iff {c n : Char} (h : nextChar? c = some n) (d : Char) : d < n ↔ d ≤ c := by
  have hc := toNat_char_lt c
  have hd := toNat_char_lt d
  rw [← Char.not_lt, ← toNat_lt_iff, ← toNat_lt_iff]
  simp only [nextChar?] at h
  split at h
  · simp at h
  · split at h
    · simp only [Option.some.injEq] at h
      subst h
      have : ('\ue000' : Char).toNat = 0xe000 := rfl
      omega
    · simp only [Option.some.injEq] at h
      subst h
      have hv : (c.toNat + 1).isValidChar := by
        simp only [Nat.isValidChar]
        omega
      rw [show (Char.ofNat (c.toNat + 1)).toNat = c.toNat + 1 by
        rw [Char.ofNat, dif_pos hv]
        rfl]
      omega

/-! ### Walking along bounds -/

/-- Whether a character lies inside, where `inside` says what holds before the first bound. -/
def liesInside (inside : Bool) : List Char → Char → Bool
  | [], _ => inside
  | b :: bs, c => if c < b then inside else liesInside (!inside) bs c

theorem liesInside_of_forall_lt {inside : Bool} {bs : List Char} {c : Char}
    (h : ∀ b ∈ bs, c < b) : liesInside inside bs c = inside := by
  cases bs with
  | nil => rfl
  | cons b bs => rw [liesInside, if_pos (h b List.mem_cons_self)]

/-- Puts a bound in front of others if membership changes there. -/
def putBound (before behind : Bool) (b : Char) (bs : List Char) : List Char :=
  if before = behind then bs else b :: bs

/-- Joins the bounds below `a` to those that `next` makes of the bounds from there on. -/
def boundsUpTo (op : Bool → Bool → Bool) (a : Char) (next : Bool → List Char → List Char)
    (x y : Bool) : List Char → List Char
  | [] => putBound (op x y) (op (!x) y) a (next y [])
  | b :: bs =>
    if b < a then putBound (op x y) (op x !y) b (boundsUpTo op a next x (!y) bs)
    else if a < b then putBound (op x y) (op (!x) y) a (next y (b :: bs))
    else putBound (op x y) (op (!x) !y) a (next (!y) bs)

/-- The bounds of what an operation on membership makes of two sets, where `x` and `y` say what
holds of them before their first bounds. -/
def joinBounds (op : Bool → Bool → Bool) (x : Bool) :
    List Char → Bool → List Char → List Char
  | [], _, bs => if op x false = op x true then [] else bs
  | a :: as, y, bs => boundsUpTo op a (joinBounds op (!x) as) x y bs

/-- What is to be known of joined bounds: they are in order, they are among those that were joined,
and the operation says what lies inside of them. -/
structure JoinsTo (op : Bool → Bool → Bool) (x : Bool) (as : List Char) (y : Bool)
    (bs result : List Char) : Prop where
  ascending : result.Pairwise (· < ·)
  mem : ∀ c ∈ result, c ∈ as ∨ c ∈ bs
  lies : ∀ c, liesInside (op x y) result c = op (liesInside x as c) (liesInside y bs c)

theorem liesInside_putBound {u v : Bool} {b : Char} {bs : List Char} (h : ∀ c ∈ bs, b < c)
    (c : Char) : liesInside u (putBound u v b bs) c = if c < b then u else liesInside v bs c := by
  rw [putBound]
  split
  · rename_i huv
    subst huv
    split
    · rename_i hc
      exact liesInside_of_forall_lt fun d hd ↦ Char.lt_trans hc (h d hd)
    · rfl
  · rename_i huv
    have : v = !u := by cases u <;> cases v <;> simp_all
    rw [liesInside, this]

theorem pairwise_putBound {u v : Bool} {b : Char} {bs : List Char} (h : ∀ c ∈ bs, b < c)
    (hbs : bs.Pairwise (· < ·)) : (putBound u v b bs).Pairwise (· < ·) := by
  rw [putBound]
  split
  · exact hbs
  · exact List.pairwise_cons.2 ⟨h, hbs⟩

theorem mem_of_mem_putBound {u v : Bool} {b c : Char} {bs : List Char}
    (h : c ∈ putBound u v b bs) : c = b ∨ c ∈ bs := by
  rw [putBound] at h
  split at h
  · exact .inr h
  · exact List.mem_cons.1 h

theorem liesInside_not (inside : Bool) (bs : List Char) (c : Char) :
    liesInside (!inside) bs c = !liesInside inside bs c := by
  induction bs generalizing inside with
  | nil => rfl
  | cons b bs ih =>
    rw [liesInside, liesInside]
    split
    · rfl
    · rw [ih, ih]

theorem joinsTo_nil (op : Bool → Bool → Bool) (x y : Bool) {bs : List Char}
    (hbs : bs.Pairwise (· < ·)) : JoinsTo op x [] y bs (joinBounds op x [] y bs) := by
  rw [joinBounds]
  split
  · rename_i h
    refine ⟨.nil, by simp, fun c ↦ ?_⟩
    simp only [liesInside]
    cases y <;> cases liesInside _ bs c <;> simp_all
  · rename_i h
    refine ⟨hbs, fun c hc ↦ .inr hc, fun c ↦ ?_⟩
    have hnot := liesInside_not y bs c
    simp only [liesInside]
    cases y <;> cases hf : op x false <;> cases ht : op x true <;> simp_all
    all_goals cases liesInside _ bs c <;> simp_all

theorem joinsTo_boundsUpTo {op : Bool → Bool → Bool} {x y : Bool} {a : Char} {as bs : List Char}
    {next : Bool → List Char → List Char} (has : (a :: as).Pairwise (· < ·))
    (hbs : bs.Pairwise (· < ·))
    (hnext : ∀ y bs, bs.Pairwise (· < ·) → JoinsTo op (!x) as y bs (next y bs)) :
    JoinsTo op x (a :: as) y bs (boundsUpTo op a next x y bs) := by
  have hlt : ∀ c ∈ as, a < c := fun c hc ↦ List.rel_of_pairwise_cons has hc
  induction bs generalizing y with
  | nil =>
    have hn := hnext y [] .nil
    have hr : ∀ c ∈ next y [], a < c := fun c hc ↦ hlt c ((hn.mem c hc).resolve_right (by simp))
    refine ⟨pairwise_putBound hr hn.ascending, fun c hc ↦ ?_, fun c ↦ ?_⟩
    · rcases mem_of_mem_putBound hc with rfl | hc
      · simp
      · exact .inl (List.mem_cons_of_mem _ ((hn.mem c hc).resolve_right (by simp)))
    · rw [boundsUpTo, liesInside_putBound hr]
      simp only [liesInside]
      split
      · rfl
      · rw [hn.lies, liesInside]
  | cons b bs ih =>
    have hb : ∀ c ∈ bs, b < c := fun c hc ↦ List.rel_of_pairwise_cons hbs hc
    rw [boundsUpTo]
    split
    · rename_i hba
      have ih := ih (y := !y) hbs.tail
      have hr : ∀ c ∈ boundsUpTo op a next x (!y) bs, b < c := fun c hc ↦ by
        rcases ih.mem c hc with hc | hc
        · rcases List.mem_cons.1 hc with rfl | hc
          · exact hba
          · exact Char.lt_trans hba (hlt c hc)
        · exact hb c hc
      refine ⟨pairwise_putBound hr ih.ascending, fun c hc ↦ ?_, fun c ↦ ?_⟩
      · rcases mem_of_mem_putBound hc with rfl | hc
        · simp
        · exact (ih.mem c hc).imp_right (List.mem_cons_of_mem _)
      · rw [liesInside_putBound hr]
        split
        · rename_i hcb
          rw [liesInside, if_pos (Char.lt_trans hcb hba), liesInside, if_pos hcb]
        · rename_i hcb
          rw [ih.lies, liesInside.eq_2 y, if_neg hcb]
    · rename_i hba
      split
      · rename_i hab
        have hn := hnext y (b :: bs) hbs
        have hr : ∀ c ∈ next y (b :: bs), a < c := fun c hc ↦ by
          rcases hn.mem c hc with hc | hc
          · exact hlt c hc
          · rcases List.mem_cons.1 hc with rfl | hc
            · exact hab
            · exact Char.lt_trans hab (hb c hc)
        refine ⟨pairwise_putBound hr hn.ascending, fun c hc ↦ ?_, fun c ↦ ?_⟩
        · rcases mem_of_mem_putBound hc with rfl | hc
          · simp
          · exact (hn.mem c hc).imp_left (List.mem_cons_of_mem _)
        · rw [liesInside_putBound hr]
          split
          · rename_i hca
            rw [liesInside, if_pos hca, liesInside, if_pos (Char.lt_trans hca hab)]
          · rename_i hca
            rw [hn.lies, liesInside.eq_2 x, if_neg hca]
      · rename_i hab
        obtain rfl : a = b := Char.le_antisymm (Char.not_lt.1 hba) (Char.not_lt.1 hab)
        have hn := hnext (!y) bs hbs.tail
        have hr : ∀ c ∈ next (!y) bs, a < c := fun c hc ↦ (hn.mem c hc).elim (hlt c) (hb c)
        refine ⟨pairwise_putBound hr hn.ascending, fun c hc ↦ ?_, fun c ↦ ?_⟩
        · rcases mem_of_mem_putBound hc with rfl | hc
          · simp
          · exact (hn.mem c hc).imp (List.mem_cons_of_mem _) (List.mem_cons_of_mem _)
        · rw [liesInside_putBound hr]
          simp only [liesInside]
          split
          · rfl
          · exact hn.lies c

theorem joinsTo_joinBounds (op : Bool → Bool → Bool) (x y : Bool) {as bs : List Char}
    (has : as.Pairwise (· < ·)) (hbs : bs.Pairwise (· < ·)) :
    JoinsTo op x as y bs (joinBounds op x as y bs) := by
  induction as generalizing x y bs with
  | nil => exact joinsTo_nil op x y hbs
  | cons a as ih => exact joinsTo_boundsUpTo has hbs fun y bs hbs ↦ ih (!x) y has.tail hbs

/-! ### Sets -/

/-- A set of characters, as the ends of its ranges. -/
structure CharSet where
  /-- The characters at which membership changes. -/
  bounds : List Char
  ascending : bounds.Pairwise (· < ·)
deriving DecidableEq

namespace CharSet

/-- Whether a character belongs to the set. -/
def contains (s : CharSet) (c : Char) : Bool :=
  liesInside false s.bounds c

/-- No character. -/
def empty : CharSet :=
  ⟨[], .nil⟩

/-- The characters that an operation on membership in two sets admits. It must not admit what is in
neither of them. -/
def combine (op : Bool → Bool → Bool) (s t : CharSet) : CharSet :=
  ⟨joinBounds op false s.bounds false t.bounds,
    (joinsTo_joinBounds op false false s.ascending t.ascending).ascending⟩

theorem contains_combine {op : Bool → Bool → Bool} (h : op false false = false) (s t : CharSet)
    (c : Char) : (combine op s t).contains c = op (s.contains c) (t.contains c) := by
  have := (joinsTo_joinBounds op false false s.ascending t.ascending).lies c
  rwa [h] at this

/-- The characters of either set. -/
def union (s t : CharSet) : CharSet :=
  combine (· || ·) s t

/-- The characters of both sets. -/
def inter (s t : CharSet) : CharSet :=
  combine (· && ·) s t

/-- The characters of the first set that are not in the second. -/
def diff (s t : CharSet) : CharSet :=
  combine (fun x y ↦ x && !y) s t

/-- The characters of exactly one of two sets. -/
def symmDiff (s t : CharSet) : CharSet :=
  combine (fun x y ↦ x ^^ y) s t

@[simp] theorem contains_empty (c : Char) : empty.contains c = false := rfl

@[simp] theorem contains_union (s t : CharSet) (c : Char) :
    (union s t).contains c = (s.contains c || t.contains c) :=
  contains_combine rfl s t c

@[simp] theorem contains_inter (s t : CharSet) (c : Char) :
    (inter s t).contains c = (s.contains c && t.contains c) :=
  contains_combine rfl s t c

@[simp] theorem contains_diff (s t : CharSet) (c : Char) :
    (diff s t).contains c = (s.contains c && !t.contains c) :=
  contains_combine rfl s t c

@[simp] theorem contains_symmDiff (s t : CharSet) (c : Char) :
    (symmDiff s t).contains c = (s.contains c ^^ t.contains c) :=
  contains_combine rfl s t c

/-- The characters from `first` to `last`, both among them. -/
def range (first last : Char) : CharSet :=
  if h : first ≤ last then
    match hn : nextChar? last with
    | none => ⟨[first], .cons (by simp) .nil⟩
    | some stop => ⟨[first, stop], by simpa using (lt_nextChar?_iff hn first).2 h⟩
  else empty

@[simp] theorem contains_range (first last c : Char) :
    (range first last).contains c = (first ≤ c && c ≤ last) := by
  rw [range]
  split
  · split
    · rename_i hn
      have := le_of_nextChar?_eq_none hn c
      by_cases hc : c < first <;> simp [contains, liesInside, this, hc, ← Char.not_lt]
    · rename_i hn
      have := lt_nextChar?_iff hn c
      by_cases hc : c < first <;> by_cases hs : c ≤ last <;>
        simp [contains, liesInside, this, hs, hc, ← Char.not_lt]
  · rename_i h
    simp only [contains_empty]
    symm
    rw [Bool.and_eq_false_iff, decide_eq_false_iff_not, decide_eq_false_iff_not]
    by_cases hc : first ≤ c
    · exact .inr fun hl ↦ h (Char.le_trans hc hl)
    · exact .inl hc

/-- The set of one character. -/
def single (c : Char) : CharSet :=
  range c c

@[simp] theorem contains_single (c d : Char) : (single c).contains d = true ↔ d = c := by
  simp only [single, contains_range, Bool.and_eq_true, decide_eq_true_eq]
  constructor
  · exact fun h ↦ Char.le_antisymm h.2 h.1
  · rintro rfl
    exact ⟨Char.le_refl d, Char.le_refl d⟩

/-- All characters. -/
def all : CharSet :=
  ⟨['\x00'], .cons (by simp) .nil⟩

@[simp] theorem contains_all (c : Char) : all.contains c = true := by
  have : ¬c < '\x00' := by simp [← toNat_lt_iff]
  simp [contains, all, liesInside, this]

/-- The characters outside a set. -/
def compl (s : CharSet) : CharSet :=
  diff all s

@[simp] theorem contains_compl (s : CharSet) (c : Char) : (compl s).contains c = !s.contains c := by
  simp [compl]

/-! ### Lists of characters and of ranges -/

/-- The characters of a list of ranges, each by its first and last member. -/
def ofRanges (rs : List (Char × Char)) : CharSet :=
  rs.foldr (fun r s ↦ union (range r.1 r.2) s) empty

@[simp] theorem contains_ofRanges (rs : List (Char × Char)) (c : Char) :
    (ofRanges rs).contains c = rs.any fun r ↦ r.1 ≤ c && c ≤ r.2 := by
  induction rs with
  | nil => rfl
  | cons r rs ih =>
    rw [ofRanges] at ih ⊢
    simp [ih]

/-- The characters of a list. -/
def ofList (cs : List Char) : CharSet :=
  cs.foldr (fun c s ↦ union (single c) s) empty

@[simp] theorem contains_ofList (cs : List Char) (c : Char) :
    (ofList cs).contains c = true ↔ c ∈ cs := by
  induction cs with
  | nil => simp [ofList]
  | cons d cs ih =>
    rw [ofList] at ih ⊢
    simp only [List.foldr_cons, contains_union, Bool.or_eq_true, contains_single, ih,
      List.mem_cons]

/-- The only member of a set, if it has just one. -/
def only? (s : CharSet) : Option Char :=
  match s.bounds with
  | [c] => if nextChar? c = none then some c else none
  | [c, stop] => if nextChar? c = some stop then some c else none
  | _ => none

/-- Whether a set has no members. -/
def isEmpty (s : CharSet) : Bool :=
  s.bounds.isEmpty

theorem contains_eq_false_of_isEmpty {s : CharSet} (h : s.isEmpty = true) (c : Char) :
    s.contains c = false := by
  rw [contains, List.isEmpty_iff.1 h, liesInside]

end CharSet

end Descent
