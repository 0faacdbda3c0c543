import Descent.Proofs.Bracketed

/-!
# Classes with a bracket behind

The readers of a class in brackets, on a text and on the same text with a closing round bracket
behind it. A class that ends in the text by itself has ended before the bracket, so it is the same
class. A class that does not end there does not end with the bracket either, which is no more than
another item of it; so the readers succeed on both texts or on neither (`keeps_readClass`).
-/

namespace Descent.Regex

variable {cs cs' : List Char}

theorem keeps_readClassItem (h : Bracketed cs cs') (f : Flags) :
    Keeps (Escape.Beyond f) (cs.length - 1) (readClassItem f cs) (readClassItem f cs') := by
  cases h with
  | nil => exact .none
  | close => exact .beyond (Or.inl rfl)
  | @cons c ds ds' h hbracket =>
    by_cases hback : c = '\\'
    · subst hback
      exact (Escape.keeps_read h f).within (Nat.sub_le _ _)
    · rw [readClassItem.eq_3 f c ds hback, readClassItem.eq_3 f c ds' hback]
      exact .some h (Nat.le_refl _)

theorem Bracketed.head?_eq_some_iff (h : Bracketed cs cs') {d : Char} (hd : d ≠ ')') :
    cs'.head? = some d ↔ cs.head? = some d := by
  cases h with
  | nil => rfl
  | close => simp [Ne.symm hd]
  | cons c h hbracket => rfl

theorem Bracketed.peekIgnoring_eq_some_iff (h : Bracketed cs cs') (f : Flags) {d : Char}
    (hd : d ≠ ')') : peekIgnoring f cs' = some d ↔ peekIgnoring f cs = some d := by
  unfold peekIgnoring
  split
  · have hdrop := h.dropWhile Unicode.isBlank
    generalize cs.dropWhile Unicode.isBlank = ds at hdrop
    generalize cs'.dropWhile Unicode.isBlank = ds' at hdrop
    rcases hdrop.cons_or (d := '#') (by decide) with
      ⟨more, more', rfl, rfl, hmore⟩ | ⟨hplain, hplain'⟩
    · exact (hmore.dropWhile Unicode.isBlank).head?_eq_some_iff hd
    · simp only
      exact hdrop.head?_eq_some_iff hd
  · exact h.head?_eq_some_iff hd

/-- A blank or a comment does not begin with the bracket or a brace. -/
theorem Flags.skip_close (f : Flags) : f.skip [')'] = [')'] := by
  unfold skip
  split <;> rfl

theorem Flags.skip_brace (f : Flags) (cs : List Char) : f.skip ('\x7b' :: cs) = '\x7b' :: cs := by
  unfold skip
  split <;> rfl

/-- Behind an item that is there with the bracket only, no range comes to its end. -/
theorem readRange_of_beyond {f : Flags} {e : Escape} {rest' : List Char} (h : e.Beyond f rest')
    (hread : readClassItem f cs' = some (e, rest')) : readRange f cs' = none := by
  rcases h with rfl | ⟨⟨a, rfl⟩, inner, rfl, -⟩
  · simp only [readRange, hread, Option.bind_eq_bind, Option.bind_some, f.skip_nil]
  · simp [readRange, hread, f.skip_brace]

/-- A range needs another character behind it, which may be the bracket. -/
theorem keeps_readRange (h : Bracketed cs cs') (f : Flags) :
    Keeps (fun _ rest' ↦ rest' = [] ∨ rest' = [')']) (cs.length - 1) (readRange f cs)
      (readRange f cs') := by
  rcases (keeps_readClassItem h f).outcomes with
    ⟨hread, hread'⟩ | ⟨hread, e, rest', hread', hbeyond⟩ |
      ⟨first, rest, rest', hread, hread', hrest, hlength⟩
  · simp only [readRange, hread, hread']
    exact .none
  · rw [readRange_of_beyond hbeyond hread', readRange, hread]
    exact .none
  have hskip := hrest.skip f
  have hless := f.length_skip_le rest
  simp only [readRange, hread, hread', Option.bind_eq_bind, Option.bind_some]
  generalize f.skip rest = ds at hskip hless
  generalize f.skip rest' = ds' at hskip
  cases hskip with
  | nil => exact .none
  | close =>
    simp only [ne_eq, Char.reduceEq, not_false_eq_true, true_or, if_true]
    cases first with
    | char a =>
      simp only
      split
      · exact .beyond (Or.inr rfl)
      · exact .none
    | set s negated =>
      rcases hset : f.complement? negated s with - | s
      · simp only [hset]
        exact .none
      · simp only [hset]
        exact .beyond (Or.inr rfl)
    | anchor a => exact .none
  | @cons c ds ds' hds hbehind =>
    have hbracket := hds.peekIgnoring_eq_some_iff f (d := ']') (by decide)
    have hminus := hds.peekIgnoring_eq_some_iff f (d := '-') (by decide)
    have hleft : (c :: ds).length ≤ cs.length - 1 := Nat.le_trans hless hlength
    simp only [hbracket, hminus]
    split
    · cases first with
      | char a =>
        simp only
        split
        · exact .some (.cons c hds hbehind) hleft
        · exact .none
      | set s negated =>
        rcases hset : f.complement? negated s with - | s
        · simp only [hset]
          exact .none
        · simp only [hset]
          exact .some (.cons c hds hbehind) hleft
      | anchor a => exact .none
    · have hroom := f.length_skip_le ds
      rw [List.length_cons] at hleft
      refine (keeps_readClassItem (hds.skip f) f).bind (fun last rest rest' hrest hlast ↦ ?_)
        fun last rest' hbeyond ↦ ?_
      · have hend : rest.length ≤ cs.length - 1 := by omega
        cases first <;> cases last
        case char.char a b =>
          simp only
          split
          · exact .some hrest hend
          · exact .none
        all_goals exact .none
      · rcases hbeyond with rfl | ⟨⟨a, rfl⟩, -⟩
        · cases first <;> cases last
          case char.char a b =>
            simp only
            split
            · exact .beyond (Or.inl rfl)
            · exact .none
          all_goals exact .none
        · cases first <;> exact .none

/-- The set named up to the next colon, if a bracket follows that. -/
def setNamed? (f : Flags) (negated : Bool) (cs : List Char) :
    Option (Option CharSet × List Char) :=
  match cs.dropWhile (· ≠ ':') with
  | ':' :: ']' :: rest =>
    (CharSet.named? (String.ofList (cs.takeWhile (· ≠ ':')))).map fun s ↦
      (f.complement? negated (f.close s), rest)
  | _ => none

theorem readNamedSet_colon (f : Flags) {cs : List Char} (h : ∀ more, cs = '^' :: more → False) :
    readNamedSet f (':' :: cs) = setNamed? f false cs :=
  readNamedSet.eq_2 f cs h

theorem readNamedSet_colon_sign (f : Flags) (cs : List Char) :
    readNamedSet f (':' :: '^' :: cs) = setNamed? f true cs :=
  readNamedSet.eq_1 f cs

theorem keeps_setNamed? (h : Bracketed cs cs') (f : Flags) (negated : Bool) :
    Keeps Never cs.length (setNamed? f negated cs) (setNamed? f negated cs') := by
  have hdrop := h.dropWhile (· ≠ ':')
  have htake := h.takeWhile_eq (φ := (· ≠ ':'))
  have hless := (List.dropWhile_suffix (l := cs) (· ≠ ':')).length_le
  unfold setNamed?
  generalize cs.dropWhile (· ≠ ':') = ds at hdrop htake hless
  generalize cs'.dropWhile (· ≠ ':') = ds' at hdrop
  rcases hdrop.cons_or (d := ':') (by decide) with
    ⟨es, es', rfl, rfl, hes⟩ | ⟨hplain, hplain'⟩
  · rw [htake (List.cons_ne_nil _ _)]
    rcases hes.cons_or (d := ']') (by decide) with
      ⟨rest, rest', rfl, rfl, hrest⟩ | ⟨hopen, hopen'⟩
    · simp only [List.length_cons] at hless
      exact .map_rest hrest (by omega)
    · split
      · exact (hopen _ (List.cons.inj ‹_›).2).elim
      · split
        · exact (hopen' _ (List.cons.inj ‹_›).2).elim
        · exact .none
  · split
    · exact (hplain _ rfl).elim
    · split
      · exact (hplain' _ rfl).elim
      · exact .none

theorem keeps_readNamedSet (h : Bracketed cs cs') (f : Flags) :
    Keeps Never cs.length (readNamedSet f cs) (readNamedSet f cs') := by
  rcases h.cons_or (d := ':') (by decide) with ⟨ds, ds', rfl, rfl, hds⟩ | ⟨hplain, hplain'⟩
  · rcases hds.cons_or (d := '^') (by decide) with
      ⟨es, es', rfl, rfl, hes⟩ | ⟨hplain, hplain'⟩
    · rw [readNamedSet_colon_sign, readNamedSet_colon_sign]
      exact (keeps_setNamed? hes f true).within (Nat.le_add_right _ 2)
    · rw [readNamedSet_colon f hplain, readNamedSet_colon f hplain']
      exact (keeps_setNamed? hds f false).within (Nat.le_succ _)
  · rw [readNamedSet.eq_3 f cs hplain, readNamedSet.eq_3 f cs' hplain']
    exact .none

namespace OpenClass

theorem readSigns_nil (f : Flags) (fuel : Nat) (c : OpenClass) :
    readSigns f fuel c [] = (c, []) := by
  cases fuel <;> rfl

theorem keeps_readSigns (h : Bracketed cs cs') (f : Flags) (c : OpenClass) {fuel fuel' : Nat}
    (hfuel : cs.length ≤ fuel) (hfuel' : cs'.length ≤ fuel') :
    Keeps Never cs.length (some (readSigns f fuel c cs)) (some (readSigns f fuel' c cs')) := by
  refine Bracketed.loop f (motive := fun fuel fuel' cs cs' ↦ ∀ c : OpenClass, Keeps Never cs.length
    (some (c.readSigns f fuel cs)) (some (c.readSigns f fuel' cs'))) ?_ ?_ ?_ h hfuel hfuel' c
  · intro fuel fuel' c
    rw [readSigns_nil, readSigns_nil]
    exact .some .nil (Nat.le_refl _)
  · intro fuel fuel' c
    rw [readSigns_nil]
    exact .some .close (Nat.le_refl _)
  · intro fuel fuel' d cs cs' h hboth ih c
    by_cases hsign : d = '-'
    · subst hsign
      exact (ih _).within (Nat.le_succ_of_le (f.length_skip_le cs))
    · have hstop : ∀ (fuel : Nat) (more : List Char),
          readSigns f (fuel + 1) c (d :: more) = (c, d :: more) := fun fuel more ↦
        readSigns.eq_2 _ _ _ _ fun _ _ _ heq ↦ hsign (List.cons.inj heq).1
      rw [hstop, hstop]
      exact .some hboth (Nat.le_refl _)

/-- Reads the start of a class behind the sign of a complement. -/
def readFront (f : Flags) (negated : Bool) : List Char → OpenClass × List Char
  | ']' :: cs => (OpenClass.addChar { negated } ']', f.skip cs)
  | cs => readSigns f (cs.length + 1) { negated } cs

theorem keeps_readFront (h : Bracketed cs cs') (f : Flags) (negated : Bool) :
    Keeps Never cs.length (some (readFront f negated cs)) (some (readFront f negated cs')) := by
  rcases h.cons_or (d := ']') (by decide) with
    ⟨more, more', rfl, rfl, hmore⟩ | ⟨hplain, hplain'⟩
  · exact .some (hmore.skip f) (Nat.le_succ_of_le (f.length_skip_le more))
  · rw [readFront.eq_2 f negated cs hplain, readFront.eq_2 f negated cs' hplain']
    exact keeps_readSigns h f _ (Nat.le_succ _) (Nat.le_succ _)

theorem keeps_read (h : Bracketed cs cs') (f : Flags) :
    Keeps Never cs.length (some (OpenClass.read f cs)) (some (OpenClass.read f cs')) := by
  have hskip := h.skip f
  have hless := f.length_skip_le cs
  unfold read
  generalize f.skip cs = ds at hskip hless
  generalize f.skip cs' = ds' at hskip
  rcases hskip.cons_or (d := '^') (by decide) with
    ⟨more, more', rfl, rfl, hmore⟩ | ⟨hplain, hplain'⟩
  · have hroom := f.length_skip_le more
    rw [List.length_cons] at hless
    exact (keeps_readFront (hmore.skip f) f true).within (by omega)
  · simp only
    exact (keeps_readFront hskip f false).within hless

end OpenClass

theorem readRange_close (f : Flags) : readRange f [')'] = none := by
  simp [readRange, readClassItem, f.skip_nil]

/-- No class ends with the bracket. -/
theorem readClassItems_close (f : Flags) (fuel : Nat) (here : OpenClass) (outer : List OpenClass) :
    readClassItems f fuel here outer [')'] = none := by
  cases fuel with
  | zero => rfl
  | succ fuel => simp [readClassItems, f.skip_close, readRange_close]

theorem readClassItems_nil (f : Flags) (fuel : Nat) (here : OpenClass) (outer : List OpenClass) :
    readClassItems f fuel here outer [] = none := by
  cases fuel with
  | zero => rfl
  | succ fuel => simp only [readClassItems, f.skip_nil]

theorem keeps_readClassItems (h : Bracketed cs cs') (f : Flags) {fuel fuel' : Nat}
    (hfuel : cs.length < fuel) (hfuel' : cs.length + 1 < fuel') (here : OpenClass)
    (outer : List OpenClass) :
    Keeps Never cs.length (readClassItems f fuel here outer cs)
      (readClassItems f fuel' here outer cs') := by
  induction fuel generalizing cs cs' fuel' here outer with
  | zero => exact absurd hfuel (Nat.not_lt_zero _)
  | succ fuel ih =>
    obtain ⟨fuel', rfl⟩ := Nat.exists_eq_add_of_le' (Nat.zero_lt_of_lt hfuel')
    have hskip := h.skip f
    have hless := f.length_skip_le cs
    simp only [readClassItems]
    generalize f.skip cs = ds at hskip hless
    generalize f.skip cs' = ds' at hskip
    -- All that is left behind an item is less than before it, and the fuel is enough for it.
    have hrest : ∀ {rest rest' : List Char} (next : OpenClass) (around : List OpenClass),
        Bracketed rest rest' → rest.length < ds.length →
        Keeps Never cs.length (readClassItems f fuel next around rest)
          (readClassItems f fuel' next around rest') := fun next around hrest hlength ↦
      (ih hrest (by omega) (by omega) next around).within (by omega)
    rcases hskip.cons_or (d := '[') (by decide) with
      ⟨es, es', rfl, rfl, hes⟩ | ⟨hopen, hopen'⟩
    · rcases (keeps_readNamedSet hes f).outcomes with
        ⟨hname, hname'⟩ | ⟨-, -, -, -, ⟨⟩⟩ | ⟨_ | set, rest, rest', hname, hname', hmore, hlength⟩
      · obtain ⟨inner, rest, rest', hread, hread', hmore, hlength⟩ :=
          (OpenClass.keeps_read hes f).exists_of_some
        simp only [hname, hname', hread, hread']
        exact hrest inner _ hmore (Nat.lt_succ_of_le hlength)
      · simp only [hname, hname']
        exact .none
      · simp only [hname, hname']
        exact hrest _ outer hmore (Nat.lt_succ_of_le hlength)
    rcases hskip.cons_or (d := ']') (by decide) with
      ⟨rest, rest', rfl, rfl, hmore⟩ | ⟨hclose, hclose'⟩
    · rcases here.set? f with - | set
      · exact .none
      · rcases outer with - | ⟨up, outer⟩
        · exact .some hmore (Nat.le_of_succ_le hless)
        · exact hrest _ outer hmore (Nat.lt_succ_self _)
    rcases hskip.cons_cons_or (d := '&') (by decide) with
      ⟨rest, rest', rfl, rfl, hmore⟩ | ⟨hand, hand'⟩
    · exact hrest _ outer hmore (Nat.lt_add_of_pos_right Nat.two_pos)
    rcases hskip.cons_cons_or (d := '-') (by decide) with
      ⟨rest, rest', rfl, rfl, hmore⟩ | ⟨hminus, hminus'⟩
    · exact hrest _ outer hmore (Nat.lt_add_of_pos_right Nat.two_pos)
    rcases hskip.cons_cons_or (d := '~') (by decide) with
      ⟨rest, rest', rfl, rfl, hmore⟩ | ⟨htilde, htilde'⟩
    · exact hrest _ outer hmore (Nat.lt_add_of_pos_right Nat.two_pos)
    cases hskip with
    | nil => exact .none
    | close =>
      simp only [readRange_close]
      exact .none
    | @cons c ds ds' hds hbracket =>
      rcases (keeps_readRange (.cons c hds hbracket) f).outcomes with
        ⟨hread, hread'⟩ | ⟨hread, set, rest', hread', rfl | rfl⟩ |
          ⟨set, rest, rest', hread, hread', hmore, hlength⟩
      · simp only [hread, hread']
        exact .none
      · simp only [hread, hread', readClassItems_nil]
        exact .none
      · simp only [hread, hread', readClassItems_close]
        exact .none
      · simp only [hread, hread']
        exact hrest _ outer hmore (Nat.lt_succ_of_le hlength)

theorem readClass_nil (f : Flags) : readClass f [] = none := by
  simp [readClass, OpenClass.read, f.skip_nil, OpenClass.readSigns_nil, readClassItems_nil]

/-- A class is read on both texts or on neither. -/
theorem keeps_readClass (h : Bracketed cs cs') (f : Flags) :
    Keeps Never cs.length (readClass f cs) (readClass f cs') := by
  rcases h.eq_or with rfl | ⟨rfl, rfl⟩
  · obtain ⟨c, rest, rest', hread, hread', hrest, hlength⟩ :=
      (OpenClass.keeps_read h f).exists_of_some
    simp only [readClass, hread, hread', List.length_append, List.length_singleton]
    exact (keeps_readClassItems hrest f (by omega) (by omega) c []).within hlength
  · rw [readClass_nil]
    exact .none

end Descent.Regex
