import Descent.Grammar
import Descent.Proofs.Iteration

/-!
# Plans by their parts

Most theorems are about the plans that are made of certain parts. `Plan.Every φ` says that `φ` holds
of a plan and of everything it is made of, continuations after any value included; what a rule
stands for is not a part of a plan that refers to it, so a grammar is asked for the same of all its
rules.

The largest fragment is that of the **lawful** plans: all primitives, all combinators and all rules,
with counts that are machine words. A parser from outside may be a part of it if it is safe and does
not look at the mode. The **plain** parts are those whose values are what one expects; two kinds of
parts are not among them.

Lawful plans are safe parsers, at every depth of calls (`Grammar.Lawful.safe`). The induction does
without one thing that is lawful, not to look at the mode, and is about **harmless** parts.
-/

namespace Descent

variable {ι : Type} {ρ : ι → Type} {α : Type}

namespace Plan

/-- `φ` holds of the plan and of all its parts. -/
def Every (φ : {α : Type} → Plan ρ α → Prop) : {α : Type} → Plan ρ α → Prop
  | _, orElse p q => φ (orElse p q) ∧ p.Every φ ∧ q.Every φ
  | _, flatMap p f => φ (flatMap p f) ∧ p.Every φ ∧ ∀ a, (f a).Every φ
  | _, map p f => φ (map p f) ∧ p.Every φ
  | _, map2 p q f => φ (map2 p q f) ∧ p.Every φ ∧ q.Every φ
  | _, repeated p b => φ (repeated p b) ∧ p.Every φ
  | _, slice p => φ (slice p) ∧ p.Every φ
  | _, attempt p => φ (attempt p) ∧ p.Every φ
  | _, scope p message => φ (scope p message) ∧ p.Every φ
  | _, label p message => φ (label p message) ∧ p.Every φ
  | _, optional p => φ (optional p) ∧ p.Every φ
  | _, retype p f => φ (retype p f) ∧ p.Every φ
  | _, inMode p sliced => φ (inMode p sliced) ∧ p.Every φ
  | _, p => φ p

section Every

variable {φ ψ : {α : Type} → Plan ρ α → Prop}

theorem Every.imp (hφ : ∀ {α : Type} (p : Plan ρ α), φ p → ψ p) {p : Plan ρ α}
    (h : p.Every φ) : p.Every ψ := by
  induction p with
  | orElse p q ihp ihq => exact ⟨hφ _ h.1, ihp h.2.1, ihq h.2.2⟩
  | flatMap p f ihp ihf => exact ⟨hφ _ h.1, ihp h.2.1, fun a ↦ ihf a (h.2.2 a)⟩
  | map2 p q f ihp ihq => exact ⟨hφ _ h.1, ihp h.2.1, ihq h.2.2⟩
  | map p _ ih | repeated p _ ih | slice p ih | attempt p ih | scope p _ ih | label p _ ih
  | optional p ih | retype p _ ih | inMode p _ ih => exact ⟨hφ _ h.1, ih h.2⟩
  | _ => exact hφ _ h

theorem Every.and {p : Plan ρ α} (h : p.Every φ) (h' : p.Every ψ) :
    p.Every fun q ↦ φ q ∧ ψ q := by
  induction p with
  | orElse p q ihp ihq => exact ⟨⟨h.1, h'.1⟩, ihp h.2.1 h'.2.1, ihq h.2.2 h'.2.2⟩
  | flatMap p f ihp ihf =>
    exact ⟨⟨h.1, h'.1⟩, ihp h.2.1 h'.2.1, fun a ↦ ihf a (h.2.2 a) (h'.2.2 a)⟩
  | map2 p q f ihp ihq => exact ⟨⟨h.1, h'.1⟩, ihp h.2.1 h'.2.1, ihq h.2.2 h'.2.2⟩
  | map p _ ih | repeated p _ ih | slice p ih | attempt p ih | scope p _ ih | label p _ ih
  | optional p ih | retype p _ ih | inMode p _ ih => exact ⟨⟨h.1, h'.1⟩, ih h.2 h'.2⟩
  | _ => exact ⟨h, h'⟩

/-- What holds of all parts does so of all parts of each part. -/
theorem Every.every {p : Plan ρ α} (h : p.Every φ) : p.Every fun q ↦ q.Every φ := by
  induction p with
  | orElse p q ihp ihq => exact ⟨h, ihp h.2.1, ihq h.2.2⟩
  | flatMap p f ihp ihf => exact ⟨h, ihp h.2.1, fun a ↦ ihf a (h.2.2 a)⟩
  | map2 p q f ihp ihq => exact ⟨h, ihp h.2.1, ihq h.2.2⟩
  | map p _ ih | repeated p _ ih | slice p ih | attempt p ih | scope p _ ih | label p _ ih
  | optional p ih | retype p _ ih | inMode p _ ih => exact ⟨h, ih h.2⟩
  | _ => exact h

end Every

/-! ### Lawful plans and plain ones -/

/-- A part that keeps to the rules: whatever it is given from outside is safe and does not look at
the mode, an upper bound is a machine word, and the mode is not meddled with. -/
def Proper : {α : Type} → Plan ρ α → Prop
  | _, ofParser p => p.Safe ∧ ∀ s b, p (s.withSlicing b) = p s
  | _, repeated _ b => b.Fits
  | _, inMode _ _ => False
  | _, _ => True

/-- A part that is safe if its own parts are, at either mode: it may look at the mode. -/
def Harmless : {α : Type} → Plan ρ α → Prop
  | _, ofParser p => p.Safe
  | _, repeated _ b => b.Fits
  | _, inMode _ _ => False
  | _, _ => True

theorem Proper.harmless {p : Plan ρ α} (h : p.Proper) : p.Harmless := by
  cases p with
  | ofParser p => exact h.1
  | repeated p b => exact h
  | inMode p sliced => exact h.elim
  | _ => trivial

/-- All parts of the plan keep to the rules. -/
def Lawful (p : Plan ρ α) : Prop :=
  p.Every Proper

/-- A part of the common kind: no `flatMap`, and no pattern that is found further on than it is
looked for. -/
def Plain : {α : Type} → Plan ρ α → Prop
  | _, pattern p => p.Anchored
  | _, flatMap _ _ => False
  | _, _ => True

end Plan

/-- All rules are lawful plans. -/
def Grammar.Lawful (g : Grammar ρ) : Prop :=
  ∀ r, (g.body r).Lawful

/-- All parts of all rules are plain. -/
def Grammar.Plain (g : Grammar ρ) : Prop :=
  ∀ r, (g.body r).Every Plan.Plain

/-- Brackets in brackets around an `x`. The value is how many there are. -/
def nested : Grammar fun _ : Unit ↦ Nat where
  body _ :=
    (((Plan.rule ()).surroundedBy (.literal "(") (.literal ")")).map (· + 1)).orElse
      ((Plan.literal "x").giving 0)

theorem nested_lawful : nested.Lawful := fun _ ↦
  ⟨trivial, ⟨trivial, trivial, ⟨trivial, trivial, trivial⟩, trivial⟩, trivial, trivial, trivial⟩

theorem nested_plain : nested.Plain := fun _ ↦
  ⟨trivial, ⟨trivial, trivial, ⟨trivial, trivial, trivial⟩, trivial⟩, trivial, trivial, trivial⟩

/-! ### Safety -/

open Descent.Parser in
/-- A plan of harmless parts is safe if what its rules do is. -/
theorem Plan.safe_of_harmless {call : ∀ r, Parser (ρ r)} (hcall : ∀ r, (call r).Safe)
    {p : Plan ρ α} (hp : p.Every Harmless) : (p.parser call).Safe := by
  induction p with
  | succeed a => exact Safe.succeed a
  | fail message => exact Safe.fail message
  | literal word => exact Safe.literal word
  | pattern p => exact Safe.pattern p
  | eof => exact Safe.eof
  | anyChar => exact Safe.anyChar
  | ofParser p => exact hp
  | rule r => exact hcall r
  | orElse p q ihp ihq => exact (ihp hp.2.1).orElse (ihq hp.2.2)
  | flatMap p f ihp ihf => exact (ihp hp.2.1).flatMap fun a ↦ ihf a (hp.2.2 a)
  | map p f ih => exact (ih hp.2).map f
  | map2 p q f ihp ihq => exact (ihp hp.2.1).map2 (ihq hp.2.2) f
  | repeated p b ih => exact (ih hp.2).repeated hp.1
  | slice p ih => exact (ih hp.2).slice
  | attempt p ih => exact (ih hp.2).attempt
  | scope p message ih => exact (ih hp.2).scope message
  | label p message ih => exact (ih hp.2).label message
  | optional p ih => exact (ih hp.2).optional
  | retype p f ih => exact (ih hp.2).retype f
  | inMode p sliced ih => exact hp.1.elim

theorem Plan.Lawful.harmless {p : Plan ρ α} (hp : p.Lawful) : p.Every Harmless :=
  hp.imp fun _ ↦ Proper.harmless

/-- A lawful plan is safe if what its rules do is. -/
theorem Plan.Lawful.safe {call : ∀ r, Parser (ρ r)} (hcall : ∀ r, (call r).Safe) {p : Plan ρ α}
    (hp : p.Lawful) : (p.parser call).Safe :=
  Plan.safe_of_harmless hcall hp.harmless

namespace Grammar

variable {g : Grammar ρ}

/-- Rules of harmless parts are safe, however deep their calls may go. -/
theorem safe_call_of_harmless (hg : ∀ r, (g.body r).Every Plan.Harmless) (depth : Nat) (r : ι) :
    (g.call depth r).Safe := by
  induction depth generalizing r with
  | zero => exact fun s _ ↦ Or.inl rfl
  | succ depth ih => exact Plan.safe_of_harmless ih (hg r)

/-- Plans of harmless parts are safe, however deep calls may go. -/
theorem safe_of_harmless (hg : ∀ r, (g.body r).Every Plan.Harmless) (depth : Nat) {p : Plan ρ α}
    (hp : p.Every Plan.Harmless) : (g.parserAt depth p).Safe :=
  Plan.safe_of_harmless (safe_call_of_harmless hg depth) hp

/-- Rules that are lawful plans are safe, however deep their calls may go. -/
theorem Lawful.safe_call (hg : g.Lawful) (depth : Nat) (r : ι) : (g.call depth r).Safe :=
  safe_call_of_harmless (fun r ↦ (hg r).harmless) depth r

theorem Lawful.safe (hg : g.Lawful) (depth : Nat) {p : Plan ρ α} (hp : p.Lawful) :
    (g.parserAt depth p).Safe :=
  hp.safe (hg.safe_call depth)

end Grammar

end Descent
