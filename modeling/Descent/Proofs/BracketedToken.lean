import Descent.Proofs.BracketedClass

/-!
# Tokens with a bracket behind

The readers of a token behind its first character, on a text and on the same text with a closing
bracket behind it: marks and bounds of repetitions, the openings of groups, and all else that a
pattern is made of (`Token.keeps_read`).

A token that is there with the bracket only has taken the bracket, so that nothing is left behind
it. There is one exception. A brace behind the edge of a word begins the name of another edge if a
letter follows, and is not a valid pattern if nothing does; with a bracket behind it, the brace is
left to the next token instead (`Token.Beyond`).
-/

namespace Descent.Regex

namespace Token

variable {cs cs' : List Char}

theorem keeps_repetitionMark (h : Bracketed cs cs') (f : Flags) (least : Nat)
    (most? : Option Nat) :
    Keeps Never cs.length (some (repetitionMark f least most? cs))
      (some (repetitionMark f least most? cs')) := by
  rcases h.cons_or (d := '?') (by decide) with
    ⟨rest, rest', rfl, rfl, hrest⟩ | ⟨hplain, hplain'⟩
  · exact .some hrest (Nat.le_succ _)
  · rw [repetitionMark.eq_2 f least most? cs hplain, repetitionMark.eq_2 f least most? cs' hplain']
    exact .some h (Nat.le_refl _)

theorem readDigits_nil (f : Flags) (fuel : Nat) (value? : Option Nat) :
    readDigits f fuel value? [] = (value?, []) := by
  cases fuel <;> rfl

theorem keeps_readDigits (h : Bracketed cs cs') (f : Flags) (value? : Option Nat)
    {fuel fuel' : Nat} (hfuel : cs.length ≤ fuel) (hfuel' : cs'.length ≤ fuel') :
    Keeps Never cs.length (some (readDigits f fuel value? cs))
      (some (readDigits f fuel' value? cs')) := by
  refine Bracketed.loop f (motive := fun fuel fuel' cs cs' ↦ ∀ value?, Keeps Never cs.length
    (some (readDigits f fuel value? cs)) (some (readDigits f fuel' value? cs'))) ?_ ?_ ?_
    h hfuel hfuel' value?
  · intro fuel fuel' value?
    rw [readDigits_nil, readDigits_nil]
    exact .some .nil (Nat.le_refl _)
  · intro fuel fuel' value?
    rw [readDigits_nil]
    exact .some .close (Nat.le_refl _)
  · intro fuel fuel' c cs cs' h hboth ih value?
    simp only [readDigits]
    split
    · exact (ih _).within (Nat.le_succ_of_le (f.length_skip_le cs))
    · exact .some hboth (Nat.le_refl _)

theorem skipAround_nil (f : Flags) (fuel : Nat) : skipAround f fuel [] = [] := by
  cases fuel <;> rfl

theorem bracketed_skipAround (h : Bracketed cs cs') (f : Flags) {fuel fuel' : Nat}
    (hfuel : cs.length ≤ fuel) (hfuel' : cs'.length ≤ fuel') :
    Bracketed (skipAround f fuel cs) (skipAround f fuel' cs') := by
  refine Bracketed.loop f (motive := fun fuel fuel' cs cs' ↦
    Bracketed (skipAround f fuel cs) (skipAround f fuel' cs')) ?_ ?_ ?_ h hfuel hfuel'
  · intro fuel fuel'
    rw [skipAround_nil, skipAround_nil]
    exact .nil
  · intro fuel fuel'
    rw [skipAround_nil]
    exact .close
  · intro fuel fuel' c cs cs' h hboth ih
    simp only [skipAround]
    split
    · exact ih
    · exact hboth

theorem length_skipAround_le (f : Flags) (fuel : Nat) (cs : List Char) :
    (skipAround f fuel cs).length ≤ cs.length := by
  induction fuel generalizing cs with
  | zero => exact Nat.le_refl _
  | succ fuel ih =>
    rcases cs with - | ⟨c, cs⟩
    · exact Nat.le_refl _
    · simp only [skipAround]
      split
      · exact Nat.le_succ_of_le (Nat.le_trans (ih _) (f.length_skip_le cs))
      · exact Nat.le_refl _

theorem keeps_readBound (h : Bracketed cs cs') (f : Flags) :
    Keeps Never cs.length (readBound f cs) (readBound f cs') := by
  have hdrop := h.dropWhile Unicode.isBlank
  have hless := (List.dropWhile_suffix (l := cs) Unicode.isBlank).length_le
  obtain ⟨value?, rest, rest', hread, hread', hrest, hlength⟩ :=
    (keeps_readDigits hdrop f none (Nat.le_succ _) (Nat.le_succ _)).exists_of_some
  simp only [readBound]
  rw [hread, hread']
  rcases value? with - | value
  · exact .none
  · simp only [Option.bind_eq_bind, Option.bind_some]
    split
    · have hleft := length_skipAround_le f (rest.length + 1) rest
      exact .some (bracketed_skipAround hrest f (Nat.le_succ _) (Nat.le_succ _)) (by omega)
    · exact .none

theorem keeps_readBounds (h : Bracketed cs cs') (f : Flags) :
    Keeps Never cs.length (readBounds f cs) (readBounds f cs') := by
  have hless := f.length_skip_le cs
  refine (keeps_readBound (h.skip f) f).bind (fun least rest rest' hrest hlength ↦ ?_) nofun
  have hmark : ∀ {ds ds' : List Char}, Bracketed ds ds' → ds.length ≤ rest.length → ∀ most?,
      Keeps Never cs.length (some (repetitionMark f least most? (f.skip ds)))
        (some (repetitionMark f least most? (f.skip ds'))) := by
    intro ds ds' h hds _
    have hroom := f.length_skip_le ds
    exact (keeps_repetitionMark (h.skip f) f least _).within (by omega)
  simp only
  rcases hrest.cons_or (d := '\x7d') (by decide) with
    ⟨ds, ds', rfl, rfl, hds⟩ | ⟨hclose, hclose'⟩
  · exact hmark hds (Nat.le_succ _) _
  rcases hrest.cons_or (d := ',') (by decide) with ⟨ds, ds', rfl, rfl, hds⟩ | ⟨hcomma, hcomma'⟩
  · have hskip := hds.skip f
    have hroom := f.length_skip_le ds
    simp only [List.length_cons] at hlength hmark ⊢
    generalize f.skip ds = es at hskip hroom
    generalize f.skip ds' = es' at hskip
    rcases hskip.cons_or (d := '\x7d') (by decide) with
      ⟨gs, gs', rfl, rfl, hgs⟩ | ⟨hopen, hopen'⟩
    · rw [List.length_cons] at hroom
      exact hmark hgs (by omega) _
    · simp only
      refine (keeps_readBound hskip f).bind (fun most rest rest' hrest hend ↦ ?_) nofun
      simp only
      rcases hrest.cons_or (d := '\x7d') (by decide) with
        ⟨gs, gs', rfl, rfl, hgs⟩ | ⟨hopen, hopen'⟩
      · rw [List.length_cons] at hend
        simp only
        split
        · exact hmark hgs (by omega) _
        · exact .none
      · simp only
        exact .none
  · simp only
    exact .none

/-- The angle bracket at the end of a name is not the bracket behind the text. -/
theorem keeps_readName (h : Bracketed cs cs') (f : Flags) :
    Keeps AtEnd cs.length (readName f cs) (readName f cs') := by
  have hdrop := h.dropWhile (· ≠ '>')
  have htake := h.takeWhile_eq (φ := (· ≠ '>'))
  have hless := (List.dropWhile_suffix (l := cs) (· ≠ '>')).length_le
  unfold readName
  generalize cs.dropWhile (· ≠ '>') = ds at hdrop htake hless
  generalize cs'.dropWhile (· ≠ '>') = ds' at hdrop
  cases hdrop with
  | nil =>
    rcases cs.takeWhile (· ≠ '>') with - | ⟨c, name⟩ <;>
      rcases cs'.takeWhile (· ≠ '>') with - | ⟨c, name⟩ <;> exact .none
  | close =>
    have hbracket : ∀ (t : Token) (valid : Bool),
        Keeps AtEnd cs.length none (if valid then some (t, []) else none) := by
      rintro t (- | -)
      · exact .none
      · exact .beyond rfl
    rcases cs.takeWhile (· ≠ '>') with - | ⟨c, name⟩ <;>
      rcases cs'.takeWhile (· ≠ '>') with - | ⟨c, name⟩
    · exact .none
    · exact hbracket _ _
    · exact .none
    · exact hbracket _ _
  | @cons d ds ds' hds hbracket =>
    rw [htake (List.cons_ne_nil _ _)]
    rcases cs.takeWhile (· ≠ '>') with - | ⟨c, name⟩
    · exact .none
    · simp only
      split
      · exact .some hds (Nat.le_of_succ_le hless)
      · exact .none

/-- There is no flag `P`. -/
theorem readFlags_name (f : Flags) (cs : List Char) : f.read true [] false ('P' :: cs) = none :=
  rfl

theorem keeps_readOpening (h : Bracketed cs cs') (f : Flags) :
    Keeps AtEnd cs.length (readOpening f cs) (readOpening f cs') := by
  have hskip := h.skip f
  have hless := f.length_skip_le cs
  unfold readOpening
  generalize f.skip cs = ds at hskip hless
  generalize f.skip cs' = ds' at hskip
  obtain - | - | ⟨q, hes, hfirst⟩ := hskip
  · exact .some .nil hless
  · exact .some .close hless
  by_cases hmark : q = '?'
  · subst hmark
    -- Behind a question mark, at most two characters tell what is to be read.
    obtain - | - | ⟨c, hmore, hsecond⟩ := hes
    · exact .none
    · exact .none
    simp only [List.length_cons] at hless
    by_cases hangle : c = '<'
    · subst hangle
      obtain - | - | ⟨d, hname, hthird⟩ := hmore
      · exact .none
      · exact .none
      by_cases hlook : d = '=' ∨ d = '!'
      · rcases hlook with rfl | rfl <;> exact .none
      · obtain ⟨hequal, hbang⟩ := not_or.1 hlook
        simp only [List.length_cons] at hless
        have hread := (keeps_readName (.cons d hname hthird) f).within (m := cs.length) (by
          simp only [List.length_cons]; omega)
        simpa [hequal, hbang] using hread
    by_cases hletter : c = 'P'
    · subst hletter
      obtain - | - | ⟨d, hname, hthird⟩ := hmore
      · exact .none
      · exact .none
      by_cases hopen : d = '<'
      · subst hopen
        simp only [List.length_cons] at hless
        exact (keeps_readName hname f).within (by omega)
      · simpa [hopen, readFlags_name] using Keeps.none
    by_cases hlook : c = '=' ∨ c = '!' ∨ c = ')'
    · rcases hlook with rfl | rfl | rfl <;> exact .none
    · have hflags := (Bracketed.cons c hmore hsecond).readFlags f true [] false
      simp only [not_or] at hlook
      simp only [List.cons.injEq, hlook, false_and, imp_self, implies_true, hangle, hletter]
      rcases hflags.outcomes with
        ⟨hread, hread'⟩ | ⟨hread, inner, rest', hread', rfl⟩ |
          ⟨inner, rest, rest', hread, hread', hrest, hlength⟩
      · simp only [hread, hread']
        exact .none
      · -- The bracket ends the flags.
        simp only [hread, hread']
        exact .beyond rfl
      · simp only [hread, hread']
        simp only [List.length_cons] at hlength
        obtain - | - | ⟨d, hend, -⟩ := hrest
        · exact .none
        · exact .beyond rfl
        simp only [List.length_cons] at hlength
        by_cases hcolon : d = ':'
        · subst hcolon
          exact .some hend (by omega)
        · simpa [hcolon] using Keeps.some hend (by omega)
  · simpa [hmark] using Keeps.some (.cons q hes hfirst) hless

/-- What a token may be with the bracket only. It takes the bracket, or it is an item with nothing
but the bracket in braces behind it, which are left. -/
def Beyond (f : Flags) (t : Token) (rest' : List Char) : Prop :=
  rest' = [] ∨ (∃ r depth, t = .item r depth) ∧
    ∃ inner, rest' = '\x7b' :: inner ∧ f.skip inner = [')']

theorem Beyond.of_ofEscape? {f : Flags} {e : Escape} {t : Token} {rest' : List Char}
    (h : e.Beyond f rest') (ht : ofEscape? f e = some t) : t.Beyond f rest' := by
  rcases h with hnothing | ⟨⟨a, rfl⟩, hbraces⟩
  · exact Or.inl hnothing
  · exact Or.inr ⟨⟨_, _, (Option.some.inj ht).symm⟩, hbraces⟩

theorem keeps_read (h : Bracketed cs cs') (f : Flags) (c : Char) :
    Keeps (Beyond f) cs.length (read f c cs) (read f c cs') := by
  have hatEnd : ∀ (t : Token) rest', AtEnd t rest' → Beyond f t rest' := fun _ _ ↦ Or.inl
  have hsame : ∀ t : Token, Keeps (Beyond f) cs.length (some (t, cs)) (some (t, cs')) := fun t ↦
    .some h (Nat.le_refl _)
  unfold read
  split
  · exact (keeps_readOpening h f).mono (Nat.le_refl _) hatEnd
  · exact hsame _
  · exact hsame _
  · exact ((keeps_readClass h f).map (χ := Never) (fun s : NestedSet ↦
      Token.item (.ofSet s.set) s.depth) fun _ _ hφ ↦ hφ).of_never
  · exact (keeps_repetitionMark h f _ _).of_never
  · exact (keeps_repetitionMark h f _ _).of_never
  · exact (keeps_repetitionMark h f _ _).of_never
  · exact (keeps_readBounds h f).of_never
  · rcases (Escape.keeps_read h f).outcomes with
      ⟨hread, hread'⟩ | ⟨hread, e, rest', hread', hbeyond⟩ |
        ⟨e, rest, rest', hread, hread', hrest, hlength⟩
    · simp only [hread, hread']
      exact .none
    · simp only [hread, hread']
      rcases ht : ofEscape? f e with - | t
      · exact .none
      · exact .beyond (Beyond.of_ofEscape? hbeyond ht)
    · simp only [hread, hread']
      exact .map_rest hrest (Nat.le_trans hlength (Nat.sub_le _ _))
  · exact .map_rest h (Nat.le_refl _)
  · exact hsame _
  · exact hsame _
  · exact hsame _

/-! ### Closing brackets -/

section Closing

variable {f : Flags} {c : Char} {rest : List Char}

theorem repetitionMark_ne_closing (f : Flags) (least : Nat) (most? : Option Nat) (cs : List Char) :
    some (repetitionMark f least most? cs) ≠ some (.closing, rest) := by
  unfold repetitionMark
  split <;> nofun

theorem readName_ne_closing (f : Flags) (cs : List Char) :
    readName f cs ≠ some (.closing, rest) := by
  unfold readName
  split
  · split <;> nofun
  · nofun

theorem readOpening_ne_closing (f : Flags) (cs : List Char) :
    readOpening f cs ≠ some (.closing, rest) := by
  intro h
  unfold readOpening at h
  split at h
  · cases h
  · cases h
  · cases h
  · cases h
  · exact readName_ne_closing f _ h
  · exact readName_ne_closing f _ h
  · cases h
  · split at h <;> cases h
  · cases h

theorem readBounds_ne_closing (f : Flags) (cs : List Char) :
    readBounds f cs ≠ some (.closing, rest) := by
  intro h
  obtain ⟨⟨least, ds⟩, -, h⟩ := Option.bind_eq_some_iff.1 h
  simp only at h
  split at h
  · exact repetitionMark_ne_closing f _ _ _ h
  · split at h
    · exact repetitionMark_ne_closing f _ _ _ h
    · obtain ⟨⟨most, es⟩, -, h⟩ := Option.bind_eq_some_iff.1 h
      simp only at h
      split at h
      · split at h
        · exact repetitionMark_ne_closing f _ _ _ h
        · cases h
      · cases h
  · cases h

/-- Only a bracket closes a group. -/
theorem eq_of_read_closing (h : read f c cs = some (.closing, rest)) : c = ')' ∧ rest = cs := by
  unfold read at h
  split at h
  · exact absurd h (readOpening_ne_closing f cs)
  · exact ⟨rfl, (Prod.mk.inj (Option.some.inj h)).2.symm⟩
  · cases h
  · obtain ⟨s, -, h⟩ := Option.map_eq_some_iff.1 h
    cases h
  · exact absurd h (repetitionMark_ne_closing f _ _ cs)
  · exact absurd h (repetitionMark_ne_closing f _ _ cs)
  · exact absurd h (repetitionMark_ne_closing f _ _ cs)
  · exact absurd h (readBounds_ne_closing f cs)
  · split at h
    · rename_i e rest he
      obtain ⟨t, ht, h⟩ := Option.map_eq_some_iff.1 h
      cases e with
      | char a => cases ht; cases h
      | set s negated =>
        obtain ⟨s, -, rfl⟩ := Option.map_eq_some_iff.1 ht
        cases h
      | anchor a => cases ht; cases h
    · cases h
  · obtain ⟨t, ht, h⟩ := Option.map_eq_some_iff.1 h
    unfold dot? at ht
    simp only at ht
    split at ht
    · cases ht; cases h
    · cases ht
  · cases h
  · cases h
  · cases h

end Closing

end Token

end Descent.Regex
