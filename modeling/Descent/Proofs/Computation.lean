import Descent.Fault

/-!
# Computations that may be cut off

A run of rules that call each other may be cut off (`Fault.unfinished`); every other fault is one
that a parser should not have. This module says what it is for a computation to have no such fault,
alone or together with another one, and how these properties pass through a sequence of steps:

* `Settles φ x`: the computation `x` is cut off, or gives something that satisfies `φ`;
* `Lockstep R x y`: two computations are cut off together, or give things that `R` relates;
* `Follows R x m`: the same for a computation and what it should give, which may be missing;
* `CutFrom y x`: the computation `x` does what `y` does, as far as it gets;
* `Mirrors f x y`: the computation `y` gives what `x` gives, changed by `f`.

Three more ask for one thing only: that the computation is not cut off (`Finishes x`), that its
fault, if any, is one of moving, counting or reading (`StepFaults x`), and that what it gives, if
anything, satisfies `φ` (`Ensures φ x`).

Each has one lemma for `>>=`. What holds of a parser is proved through these, and no proof looks
into a computation.
-/

namespace Descent

variable {α β γ δ : Type}

/-- The computation is cut off, or gives something that satisfies `φ`. -/
def Settles (φ : α → Prop) (x : Except Fault α) : Prop :=
  x = .error .unfinished ∨ ∃ a, x = .ok a ∧ φ a

/-- The computations are cut off together, or give things that `R` relates. -/
def Lockstep (R : α → β → Prop) (x : Except Fault α) (y : Except Fault β) : Prop :=
  (x = .error .unfinished ∧ y = .error .unfinished) ∨ ∃ a b, x = .ok a ∧ y = .ok b ∧ R a b

/-- The computation is cut off and nothing is expected, or it gives what `R` relates to what is. -/
def Follows (R : α → β → Prop) (x : Except Fault α) (m : Option β) : Prop :=
  (x = .error .unfinished ∧ m = none) ∨ ∃ a b, x = .ok a ∧ m = some b ∧ R a b

/-- The computation `x` is cut off, or it is `y`. -/
def CutFrom (y x : Except Fault α) : Prop :=
  x = .error .unfinished ∨ x = y

/-- The computation `y` gives what `x` gives, changed by `f`. They are cut off together, and if one
has another fault, then so does the other, but perhaps not the same. -/
inductive Mirrors (f : α → β) : Except Fault α → Except Fault β → Prop where
  /-- Both give something. -/
  | ok (a : α) : Mirrors f (.ok a) (.ok (f a))
  /-- Both are cut off. -/
  | cut : Mirrors f (.error .unfinished) (.error .unfinished)
  /-- Both have a fault. -/
  | fault {x y : Fault} (hx : x ≠ .unfinished) (hy : y ≠ .unfinished) :
      Mirrors f (.error x) (.error y)

/-- The computation is not cut off. -/
def Finishes (x : Except Fault α) : Prop :=
  x ≠ .error .unfinished

/-- The faults of moving, counting and reading. -/
def Fault.ofSteps : List Fault :=
  [.pastEnd, .overflow, .unreadable, .bareSuccess]

/-- The computation's fault, if it has one, is one of moving, counting or reading. -/
def StepFaults (x : Except Fault α) : Prop :=
  ∀ fault, x = .error fault → fault ∈ Fault.ofSteps

/-- What the computation gives, if anything, satisfies `φ`. -/
def Ensures (φ : α → Prop) (x : Except Fault α) : Prop :=
  ∀ a, x = .ok a → φ a

@[simp]
theorem ok_bind (a : α) (k : α → Except Fault β) : (Except.ok a >>= k) = k a :=
  rfl

@[simp]
theorem pure_eq_ok (a : α) : (pure a : Except Fault α) = .ok a :=
  rfl

/-- After a computation, only what it gives matters. -/
theorem bind_congr_of_ok {x : Except Fault α} {k l : α → Except Fault β}
    (h : ∀ a, x = .ok a → k a = l a) : (x >>= k) = (x >>= l) := by
  rcases x with fault | a
  · rfl
  · exact h a rfl

/-- A sequence of steps gives something if each of them does. -/
theorem bind_eq_ok_iff {x : Except Fault α} {k : α → Except Fault β} {b : β} :
    (x >>= k) = .ok b ↔ ∃ a, x = .ok a ∧ k a = .ok b := by
  rcases x with fault | a
  · exact ⟨nofun, nofun⟩
  · simp

/-- A sequence of steps has the fault of the first step that has one. -/
theorem bind_eq_error_iff {x : Except Fault α} {k : α → Except Fault β} {fault : Fault} :
    (x >>= k) = .error fault ↔ x = .error fault ∨ ∃ a, x = .ok a ∧ k a = .error fault := by
  rcases x with fault' | a
  · exact ⟨fun h ↦ Or.inl (congrArg Except.error (Except.error.inj h)), by
      rintro (h | ⟨a, h, -⟩)
      · exact congrArg Except.error (Except.error.inj h)
      · cases h⟩
  · simp

/-- Steps that all give something give a list together. -/
theorem mapM_eq_ok {as : List α} {f : α → Except Fault β} {g : α → β}
    (h : ∀ a ∈ as, f a = .ok (g a)) : as.mapM f = .ok (as.map g) := by
  induction as with
  | nil => rfl
  | cons a as ih =>
    rw [List.mapM_cons, h a List.mem_cons_self, ok_bind,
      ih fun b hb ↦ h b (List.mem_cons_of_mem _ hb)]
    rfl

/-! ### One computation -/

namespace Settles

variable {φ : α → Prop} {ψ : β → Prop} {x : Except Fault α}

theorem ok {a : α} (h : φ a) : Settles φ (.ok a) :=
  Or.inr ⟨a, rfl, h⟩

theorem bind {k : α → Except Fault β} (hx : Settles φ x) (hk : ∀ a, φ a → Settles ψ (k a)) :
    Settles ψ (x >>= k) := by
  rcases hx with rfl | ⟨a, rfl, ha⟩
  · exact Or.inl rfl
  · exact hk a ha

theorem of_ok {a : α} (hx : Settles φ x) (h : x = .ok a) : φ a := by
  rcases hx with hcut | ⟨a', hok, ha⟩
  · rw [hcut] at h
    cases h
  · rw [hok] at h
    cases h
    exact ha

/-- A computation without a result says nothing about what that would be. -/
theorem of_error {fault : Fault} (h : Settles φ (.error fault)) : Settles ψ (.error fault) := by
  rcases h with hcut | ⟨a, hok, -⟩
  · cases hcut
    exact Or.inl rfl
  · cases hok

end Settles

/-! ### Two computations -/

namespace Lockstep

variable {R : α → β → Prop} {S : γ → δ → Prop} {x : Except Fault α} {y : Except Fault β}

theorem ok {a : α} {b : β} (h : R a b) : Lockstep R (.ok a) (.ok b) :=
  Or.inr ⟨a, b, rfl, rfl, h⟩

theorem bind {k : α → Except Fault γ} {l : β → Except Fault δ} (h : Lockstep R x y)
    (hk : ∀ a b, R a b → Lockstep S (k a) (l b)) : Lockstep S (x >>= k) (y >>= l) := by
  rcases h with ⟨rfl, rfl⟩ | ⟨a, b, rfl, rfl, hab⟩
  · exact Or.inl ⟨rfl, rfl⟩
  · exact hk a b hab

/-- The things that are given may be related in other words. -/
theorem imp {R' : α → β → Prop} (h : Lockstep R x y) (hR : ∀ a b, R a b → R' a b) :
    Lockstep R' x y := by
  rcases h with hcut | ⟨a, b, ha, hb, hab⟩
  · exact Or.inl hcut
  · exact Or.inr ⟨a, b, ha, hb, hR a b hab⟩

/-- What the first computation gives by itself may be used beside the relation. -/
theorem and_settles {φ : α → Prop} (h : Lockstep R x y) (hx : Settles φ x) :
    Lockstep (fun a b ↦ φ a ∧ R a b) x y := by
  rcases h with hcut | ⟨a, b, ha, hb, hab⟩
  · exact Or.inl hcut
  · exact Or.inr ⟨a, b, ha, hb, hx.of_ok ha, hab⟩

end Lockstep

/-! ### A computation and what it should give -/

namespace Follows

variable {R : α → β → Prop} {S : γ → δ → Prop} {x : Except Fault α} {m : Option β}

theorem ok {a : α} {b : β} (h : R a b) : Follows R (.ok a) (some b) :=
  Or.inr ⟨a, b, rfl, rfl, h⟩

theorem bind {k : α → Except Fault γ} {l : β → Option δ} (h : Follows R x m)
    (hk : ∀ a b, R a b → Follows S (k a) (l b)) : Follows S (x >>= k) (m >>= l) := by
  rcases h with ⟨rfl, rfl⟩ | ⟨a, b, rfl, rfl, hab⟩
  · exact Or.inl ⟨rfl, rfl⟩
  · exact hk a b hab

/-- What is expected may be put in other words. -/
theorem map {R' : α → δ → Prop} {f : β → δ} (h : Follows R x m)
    (hf : ∀ a b, R a b → R' a (f b)) : Follows R' x (m.map f) := by
  rcases h with ⟨hx, rfl⟩ | ⟨a, b, hx, rfl, hab⟩
  · exact Or.inl ⟨hx, rfl⟩
  · exact Or.inr ⟨a, f b, hx, rfl, hf a b hab⟩

/-- A computation in lockstep with one that gives what it should. -/
theorem of_lockstep {S : α → γ → Prop} {y : Except Fault γ} (h : Follows R x m)
    (hy : Lockstep S x y) : Follows (fun c b ↦ ∃ a, S a c ∧ R a b) y m := by
  rcases h with ⟨rfl, hm⟩ | ⟨a, b, rfl, hm, hab⟩
  · rcases hy with ⟨-, hcut⟩ | ⟨a, c, ha, -⟩
    · exact Or.inl ⟨hcut, hm⟩
    · cases ha
  · rcases hy with ⟨ha, -⟩ | ⟨a', c, ha, hc, hac⟩
    · cases ha
    · cases ha
      exact Or.inr ⟨c, b, hc, hm, a, hac, hab⟩

end Follows

/-! ### A computation and a longer one -/

namespace CutFrom

variable {x y : Except Fault α}

theorem refl (x : Except Fault α) : CutFrom x x :=
  Or.inr rfl

theorem bind {k l : α → Except Fault β} (hx : CutFrom y x) (hk : ∀ a, CutFrom (l a) (k a)) :
    CutFrom (y >>= l) (x >>= k) := by
  rcases hx with rfl | rfl
  · exact Or.inl rfl
  · rcases x with f | a
    · exact Or.inr rfl
    · exact hk a

theorem eq_of_ne (hx : CutFrom y x) (h : x ≠ .error .unfinished) : x = y :=
  hx.resolve_left h

end CutFrom

/-! ### A computation and its image -/

namespace Mirrors

variable {f : α → β} {x : Except Fault α} {y : Except Fault β}

/-- The same computation first, and then one that mirrors the other. -/
theorem bind_same {g : γ → δ} {x : Except Fault α} {k : α → Except Fault γ}
    {l : α → Except Fault δ} (hk : ∀ a, Mirrors g (k a) (l a)) :
    Mirrors g (x >>= k) (x >>= l) := by
  rcases x with fault | a
  · by_cases h : fault = .unfinished
    · subst h
      exact .cut
    · exact .fault h h
  · exact hk a

theorem bind {g : γ → δ} {k : α → Except Fault γ} {l : β → Except Fault δ} (h : Mirrors f x y)
    (hk : ∀ a, x = .ok a → Mirrors g (k a) (l (f a))) : Mirrors g (x >>= k) (y >>= l) := by
  cases h with
  | ok a => exact hk a rfl
  | cut => exact .cut
  | fault hx hy => exact .fault hx hy

theorem eq_ok {a : α} (h : Mirrors f (.ok a) y) : y = .ok (f a) := by
  cases h
  rfl

theorem exists_of_ok {b : β} (h : Mirrors f x (.ok b)) : ∃ a, x = .ok a ∧ f a = b := by
  cases h with
  | ok a => exact ⟨a, rfl, rfl⟩

theorem finishes_iff (h : Mirrors f x y) : x ≠ .error .unfinished ↔ y ≠ .error .unfinished := by
  cases h with
  | ok a => simp
  | cut => simp
  | fault hx hy => simp [hx, hy]

end Mirrors

/-! ### One half of a judgement -/

theorem finishes_ok (a : α) : Finishes (.ok a : Except Fault α) :=
  nofun

theorem Finishes.bind {x : Except Fault α} {k : α → Except Fault β} (hx : Finishes x)
    (hk : ∀ a, x = .ok a → Finishes (k a)) : Finishes (x >>= k) := by
  rcases x with fault | a
  · intro hcut
    exact hx (congrArg Except.error (Except.error.inj hcut))
  · exact hk a rfl

namespace StepFaults

theorem ok (a : α) : StepFaults (.ok a : Except Fault α) :=
  nofun

theorem error {fault : Fault} (h : fault ∈ Fault.ofSteps) :
    StepFaults (.error fault : Except Fault α) := by
  rintro _ ⟨⟩
  exact h

theorem bind {x : Except Fault α} {k : α → Except Fault β} (hx : StepFaults x)
    (hk : ∀ a, StepFaults (k a)) : StepFaults (x >>= k) := by
  intro fault h
  rcases bind_eq_error_iff.1 h with hfault | ⟨a, -, hfault⟩
  · exact hx fault hfault
  · exact hk a fault hfault

/-- Steps are not cut off. -/
theorem finishes {x : Except Fault α} (h : StepFaults x) : Finishes x := fun hcut ↦
  absurd (h _ hcut) (by decide)

end StepFaults

namespace Ensures

variable {φ : α → Prop} {ψ : β → Prop}

theorem ok {a : α} (h : φ a) : Ensures φ (.ok a) := by
  rintro _ ⟨⟩
  exact h

theorem error (fault : Fault) : Ensures φ (.error fault) := fun _ h ↦ by
  cases h

theorem of_forall (h : ∀ a, φ a) (x : Except Fault α) : Ensures φ x := fun a _ ↦
  h a

theorem bind {x : Except Fault α} {k : α → Except Fault β} (hx : Ensures φ x)
    (hk : ∀ a, φ a → Ensures ψ (k a)) : Ensures ψ (x >>= k) := by
  rcases x with fault | a
  · exact nofun
  · exact hk a (hx a rfl)

/-- A computation of which nothing needs to be known. -/
theorem bind_any {x : Except Fault α} {k : α → Except Fault β} (hk : ∀ a, Ensures ψ (k a)) :
    Ensures ψ (x >>= k) :=
  (of_forall (fun _ ↦ trivial) x).bind fun a _ ↦ hk a

end Ensures

end Descent
