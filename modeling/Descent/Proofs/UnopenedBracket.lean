import Descent.Proofs.BracketedToken

/-!
# Brackets that close nothing

Reading goes token by token over a draft. Tokens look at the innermost open group, so a draft with
one more group around all others takes the same tokens (`Draft.push_spec`), but for one: a closing
bracket where nothing is open. By itself a text with such a bracket cannot be read, and it is
`Draft.Unopened` that says where the bracket stands. With a group around, the bracket closes that
group, and reading goes on behind it. So what a draft with a group around comes to is decided by the
first bracket that closes nothing: `Draft.expression?_within_eq_some_iff`.

A pattern is read with such a bracket behind it. If the pattern can be read by itself, then this is
the one that closes nothing, or it is swallowed by a comment (`Draft.unopened_of_readAll`).
Conversely, if nothing stands behind the bracket that closes nothing, then the pattern in front of
it can be read by itself (`Draft.Unopened.readAll_front`): whatever it breaks off would have taken
the bracket.
-/

namespace Descent.Regex

namespace Draft

variable {p q : Draft} {t : Token} {cs cs' rest : List Char} {around : OpenGroup}

/-! ### Groups around -/

/-- The draft, with another open group around all that is open. -/
def within (p : Draft) (around : OpenGroup) : Draft :=
  { p with outer := p.outer ++ [around] }

/-- The draft behind a bracket that closes its only group, in a group around. -/
def closeInto (p : Draft) (around : OpenGroup) : Draft :=
  { p with flags := p.here.outside, here := around.add (some p.here.close), outer := [] }

/-- The numbers of the groups that are open, from the inside out. -/
def numbers (p : Draft) : List (Option Nat) :=
  p.here.number? :: p.outer.map (·.number?)

/-- What a token does to the open groups. It leaves them as they are, opens one more or closes the
innermost one; and it does the same with another group around all of them. -/
theorem push_spec (h : p.push t = some q) :
    (∀ around, (p.within around).push t = some (q.within around)) ∧
      (q.numbers = p.numbers ∨ (∃ n, q.numbers = n :: p.numbers) ∨
        ∃ n m more, p.numbers = n :: m :: more ∧ q.numbers = m :: more) := by
  obtain ⟨flags, groups, names, ⟨number?, outside, branches, items⟩, outer⟩ := p
  cases t with
  | item regex depth =>
    cases h
    exact ⟨fun _ ↦ rfl, Or.inl rfl⟩
  | repetition least most? greedy =>
    rcases items with - | ⟨_ | r, items⟩
    · cases h
    · cases h
    · cases h
      exact ⟨fun _ ↦ rfl, Or.inl rfl⟩
  | bar =>
    cases h
    exact ⟨fun _ ↦ rfl, Or.inl rfl⟩
  | opening brackets inner =>
    rcases brackets with - | _ | name
    · cases h
      exact ⟨fun _ ↦ rfl, Or.inr (Or.inl ⟨_, rfl⟩)⟩
    · cases h
      exact ⟨fun _ ↦ rfl, Or.inr (Or.inl ⟨_, rfl⟩)⟩
    · simp only [push, openGroup, within] at h ⊢
      split at h
      · cases h
      · rename_i hnew
        cases h
        exact ⟨fun _ ↦ if_neg hnew, Or.inr (Or.inl ⟨_, rfl⟩)⟩
  | closing =>
    rcases outer with - | ⟨up, outer⟩
    · cases h
    · cases h
      exact ⟨fun _ ↦ rfl, Or.inr (Or.inr ⟨_, _, _, rfl, rfl⟩)⟩
  | flags inner =>
    cases h
    exact ⟨fun _ ↦ rfl, Or.inl rfl⟩

/-- A token that does not fit does not fit with a group around either, unless it closes that. -/
theorem push_within_of_none (h : p.push t = none) (around : OpenGroup) :
    (p.within around).push t = none ∨ t = .closing ∧ p.outer = [] := by
  obtain ⟨flags, groups, names, ⟨number?, outside, branches, items⟩, outer⟩ := p
  cases t with
  | item regex depth => cases h
  | repetition least most? greedy =>
    rcases items with - | ⟨_ | r, items⟩
    · exact Or.inl rfl
    · exact Or.inl rfl
    · cases h
  | bar => cases h
  | opening brackets inner =>
    rcases brackets with - | _ | name
    · cases h
    · cases h
    · simp only [push, openGroup, within] at h ⊢
      split at h
      · exact Or.inl (if_pos ‹_›)
      · cases h
  | closing =>
    rcases outer with - | ⟨up, outer⟩
    · exact Or.inr ⟨rfl, rfl⟩
    · cases h
  | flags inner => cases h

theorem push_closing_eq_none (hopen : p.outer = []) : p.push .closing = none := by
  simp only [push, hopen]

theorem push_closing_within (hopen : p.outer = []) (around : OpenGroup) :
    (p.within around).push .closing = some (p.closeInto around) := by
  simp only [push, within, closeInto, hopen]
  rfl

/-- So the group around all others stays the same. -/
theorem getLast?_numbers_push (h : p.push t = some q) :
    q.numbers.getLast? = p.numbers.getLast? := by
  rcases (push_spec h).2 with hsame | ⟨n, hmore⟩ | ⟨n, m, more, hless, hrest⟩
  · rw [hsame]
  · rw [hmore, numbers, List.getLast?_cons_cons]
  · rw [hless, hrest, List.getLast?_cons_cons]

/-! ### From token to token -/

/-- The next token of the text, and what is left behind it. -/
def Takes (p : Draft) (cs : List Char) (t : Token) (rest : List Char) : Prop :=
  ∃ c more, p.flags.skip cs = c :: more ∧ Token.read p.flags c more = some (t, rest)

/-- The tokens of a text do not depend on the groups around. -/
theorem Takes.within (h : p.Takes cs t rest) (around : OpenGroup) :
    (p.within around).Takes cs t rest :=
  h

theorem Takes.length_lt (h : p.Takes cs t rest) : rest.length < cs.length := by
  obtain ⟨c, more, hskip, htoken⟩ := h
  have hless : (c :: more).length ≤ cs.length := hskip ▸ p.flags.length_skip_le cs
  have hrest : rest.length ≤ more.length :=
    (htoken ▸ Token.keeps_read (.concat more) p.flags c).length_le
  exact Nat.lt_of_le_of_lt hrest hless

/-- Fuel that is more than the characters of the text does not run out. -/
theorem readTokens_congr {fuel fuel' : Nat} (hfuel : cs.length < fuel)
    (hfuel' : cs.length < fuel') : readTokens fuel p cs = readTokens fuel' p cs := by
  induction fuel generalizing p cs fuel' with
  | zero => exact absurd hfuel (Nat.not_lt_zero _)
  | succ fuel ih =>
    obtain ⟨fuel', rfl⟩ := Nat.exists_eq_add_of_le' (Nat.zero_lt_of_lt hfuel')
    simp only [readTokens]
    rcases hskip : p.flags.skip cs with - | ⟨c, more⟩
    · rfl
    · rcases htoken : Token.read p.flags c more with - | ⟨t, rest⟩
      · simp only [htoken]
      · have hless : rest.length < cs.length := Takes.length_lt ⟨c, more, hskip, htoken⟩
        rcases hpush : p.push t with - | q
        · simp only [htoken, hpush]
        · simp only [htoken, hpush]
          exact ih (by omega) (by omega)

/-- Reads all tokens of the text. -/
def readAll (p : Draft) (cs : List Char) : Option Draft :=
  readTokens (cs.length + 1) p cs

/-- The expression that the draft becomes with the text, if all groups are closed then. -/
def expression? (p : Draft) (cs : List Char) : Option Nested :=
  (p.readAll cs).bind finish

theorem readAll_of_end (h : p.flags.skip cs = []) : p.readAll cs = some p := by
  simp only [readAll, readTokens, h]

theorem readAll_of_stuck (hskip : p.flags.skip cs ≠ []) (h : ∀ t rest, ¬ p.Takes cs t rest) :
    p.readAll cs = none := by
  rcases hnext : p.flags.skip cs with - | ⟨c, more⟩
  · exact absurd hnext hskip
  · rcases htoken : Token.read p.flags c more with - | ⟨t, rest⟩
    · simp only [readAll, readTokens, hnext, htoken]
    · exact absurd ⟨c, more, hnext, htoken⟩ (h t rest)

theorem Takes.readAll_of_none (h : p.Takes cs t rest) (hpush : p.push t = none) :
    p.readAll cs = none := by
  obtain ⟨c, more, hskip, htoken⟩ := h
  simp only [readAll, readTokens, hskip, htoken, hpush]

theorem Takes.readAll (h : p.Takes cs t rest) (hpush : p.push t = some q) :
    p.readAll cs = q.readAll rest := by
  have hless := h.length_lt
  obtain ⟨c, more, hskip, htoken⟩ := h
  rw [Draft.readAll, readTokens]
  simp only [hskip, htoken, hpush]
  exact readTokens_congr hless (Nat.lt_succ_self _)

/-- To show something of a draft and a text, follow the reading from token to token. -/
theorem reading_induction {motive : Draft → List Char → Prop}
    (ended : ∀ p cs, p.flags.skip cs = [] → motive p cs)
    (stuck : ∀ p cs, p.flags.skip cs ≠ [] → (∀ t rest, ¬ p.Takes cs t rest) → motive p cs)
    (refused : ∀ p cs t rest, p.Takes cs t rest → p.push t = none → motive p cs)
    (taken : ∀ p cs t rest q, p.Takes cs t rest → p.push t = some q → motive q rest → motive p cs)
    (p : Draft) (cs : List Char) : motive p cs := by
  induction hn : cs.length using Nat.strongRecOn generalizing p cs with
  | _ n ih =>
    by_cases hskip : p.flags.skip cs = []
    · exact ended p cs hskip
    · by_cases htoken : ∃ t rest, p.Takes cs t rest
      · obtain ⟨t, rest, htakes⟩ := htoken
        rcases hpush : p.push t with - | q
        · exact refused p cs t rest htakes hpush
        · exact taken p cs t rest q htakes hpush (ih _ (hn ▸ htakes.length_lt) q rest rfl)
      · exact stuck p cs hskip fun t rest h ↦ htoken ⟨t, rest, h⟩

theorem getLast?_numbers_readAll (h : p.readAll cs = some q) :
    q.numbers.getLast? = p.numbers.getLast? := by
  induction p, cs using reading_induction with
  | ended p cs hskip =>
    cases (readAll_of_end hskip).symm.trans h
    rfl
  | stuck p cs hskip hstuck => cases (readAll_of_stuck hskip hstuck).symm.trans h
  | refused p cs t rest htakes hpush => cases (htakes.readAll_of_none hpush).symm.trans h
  | taken p cs t rest next htakes hpush ih =>
    rw [htakes.readAll hpush] at h
    rw [ih h, getLast?_numbers_push hpush]

/-! ### The first bracket that closes nothing -/

/-- Reading comes to a closing bracket that closes nothing. The third and fourth argument are the
draft there, and what stands behind the bracket. -/
inductive Unopened : Draft → List Char → Draft → List Char → Prop where
  /-- The bracket comes next. -/
  | here {p : Draft} {cs rest : List Char} (hskip : p.flags.skip cs = ')' :: rest)
    (hopen : p.outer = []) : Unopened p cs p rest
  /-- Another token comes before. -/
  | behind {p next q : Draft} {cs more rest : List Char} {t : Token} (htakes : p.Takes cs t more)
    (hpush : p.push t = some next) (h : Unopened next more q rest) : Unopened p cs q rest

theorem takes_closing (hskip : p.flags.skip cs = ')' :: rest) : p.Takes cs .closing rest :=
  ⟨')', rest, hskip, rfl⟩

theorem Takes.unique {t' : Token} {rest' : List Char} (h : p.Takes cs t rest)
    (h' : p.Takes cs t' rest') : t = t' ∧ rest = rest' := by
  obtain ⟨c, more, hskip, htoken⟩ := h
  obtain ⟨c', more', hskip', htoken'⟩ := h'
  cases hskip.symm.trans hskip'
  cases htoken.symm.trans htoken'
  exact ⟨rfl, rfl⟩

theorem Takes.skip_eq (h : p.Takes cs .closing rest) : p.flags.skip cs = ')' :: rest := by
  obtain ⟨c, more, hskip, htoken⟩ := h
  obtain ⟨rfl, rfl⟩ := Token.eq_of_read_closing htoken
  exact hskip

theorem not_takes_nil (p : Draft) (t : Token) (rest : List Char) : ¬ p.Takes [] t rest := by
  rintro ⟨c, more, hskip, -⟩
  cases p.flags.skip_nil.symm.trans hskip

/-- Braces that begin with the bracket are no bounds. -/
theorem not_takes_braces {inner : List Char} (hinner : p.flags.skip inner = [')']) :
    ¬ p.Takes ('\x7b' :: inner) t rest := by
  rintro ⟨c, more, hskip, htoken⟩
  cases (p.flags.skip_brace inner).symm.trans hskip
  have hbounds : Token.readBounds p.flags inner = none := by
    rw [Token.readBounds, hinner]
    rfl
  cases hbounds.symm.trans htoken

namespace Unopened

theorem exists_takes (h : p.Unopened cs q rest) : ∃ t more, p.Takes cs t more := by
  cases h with
  | here hskip _ => exact ⟨_, _, takes_closing hskip⟩
  | behind htakes _ _ => exact ⟨_, _, htakes⟩

theorem outer_eq_nil (h : p.Unopened cs q rest) : q.outer = [] := by
  induction h with
  | here hskip hopen => exact hopen
  | behind htakes hpush h ih => exact ih

/-- A text with such a bracket cannot be read by itself. -/
theorem readAll_eq_none (h : p.Unopened cs q rest) : p.readAll cs = none := by
  induction h with
  | here hskip hopen => exact (takes_closing hskip).readAll_of_none (push_closing_eq_none hopen)
  | behind htakes hpush h ih => rw [htakes.readAll hpush, ih]

theorem unique {q' : Draft} {rest' : List Char} (h : p.Unopened cs q rest)
    (h' : p.Unopened cs q' rest') : q = q' ∧ rest = rest' := by
  induction h with
  | here hskip hopen =>
    cases h' with
    | here hskip' _ =>
      cases hskip.symm.trans hskip'
      exact ⟨rfl, rfl⟩
    | behind htakes hpush h =>
      obtain ⟨rfl, rfl⟩ := (takes_closing hskip).unique htakes
      cases (push_closing_eq_none hopen).symm.trans hpush
  | behind htakes hpush h ih =>
    cases h' with
    | here hskip hopen =>
      obtain ⟨rfl, rfl⟩ := htakes.unique (takes_closing hskip)
      cases (push_closing_eq_none hopen).symm.trans hpush
    | behind htakes' hpush' h' =>
      obtain ⟨rfl, rfl⟩ := htakes.unique htakes'
      cases hpush.symm.trans hpush'
      exact ih h'

/-- With a group around, the bracket closes it. -/
theorem readAll_within (h : p.Unopened cs q rest) (around : OpenGroup) :
    (p.within around).readAll cs = (q.closeInto around).readAll rest := by
  induction h with
  | here hskip hopen =>
    exact ((takes_closing hskip).within around).readAll (push_closing_within hopen around)
  | behind htakes hpush h ih =>
    rw [(htakes.within around).readAll ((push_spec hpush).1 around), ih]

end Unopened

/-- **What a group around makes of a text.** All is decided by the first bracket that closes nothing
in the text by itself: it closes the group around, and an expression is read if one can be read from
there on. Without such a bracket, the group stays open. -/
theorem expression?_within_eq_some_iff {r : Nested} :
    (p.within around).expression? cs = some r ↔
      ∃ q rest, p.Unopened cs q rest ∧ (q.closeInto around).expression? rest = some r := by
  constructor
  · intro h
    induction p, cs using reading_induction with
    | ended p cs hskip =>
      have hall : (p.within around).readAll cs = some (p.within around) := readAll_of_end hskip
      rw [expression?, hall, Option.bind_some, finish] at h
      split at h
      · exact absurd ‹_› (List.append_ne_nil_of_right_ne_nil _ (List.cons_ne_nil _ _))
      · cases h
    | stuck p cs hskip hstuck =>
      have hall : (p.within around).readAll cs = none := readAll_of_stuck hskip hstuck
      rw [expression?, hall] at h
      cases h
    | refused p cs t rest htakes hpush =>
      rcases push_within_of_none hpush around with hnone | ⟨rfl, hopen⟩
      · rw [expression?, (htakes.within around).readAll_of_none hnone] at h
        cases h
      · rw [expression?, (htakes.within around).readAll (push_closing_within hopen around)] at h
        exact ⟨p, rest, .here htakes.skip_eq hopen, h⟩
    | taken p cs t rest next htakes hpush ih =>
      rw [expression?, (htakes.within around).readAll ((push_spec hpush).1 around)] at h
      obtain ⟨q, more, hunopened, hmore⟩ := ih h
      exact ⟨q, more, .behind htakes hpush hunopened, hmore⟩
  · rintro ⟨q, rest, h, hrest⟩
    rw [expression?, h.readAll_within around]
    exact hrest

/-! ### A bracket behind the text -/

/-- If a text can be read by itself, then a bracket behind it closes nothing, or it belongs to a
comment. -/
theorem unopened_of_readAll (h : Bracketed cs cs') (hread : p.readAll cs = some q)
    (hclosed : q.outer = []) : p.Unopened cs' q [] ∨ p.readAll cs' = some q := by
  induction p, cs using reading_induction generalizing cs' with
  | ended p cs hskip =>
    obtain rfl : p = q := Option.some.inj ((readAll_of_end hskip).symm.trans hread)
    have hskip' := h.skip p.flags
    rw [hskip] at hskip'
    generalize hrest : p.flags.skip cs' = ds' at hskip'
    cases hskip' with
    | nil => exact Or.inr (readAll_of_end hrest)
    | close => exact Or.inl (.here hrest hclosed)
  | stuck p cs hskip hstuck => cases (readAll_of_stuck hskip hstuck).symm.trans hread
  | refused p cs t rest htakes hpush => cases (htakes.readAll_of_none hpush).symm.trans hread
  | taken p cs t rest next htakes hpush ih =>
    rw [htakes.readAll hpush] at hread
    obtain ⟨c, more, hskip, htoken⟩ := htakes
    have hskip' := h.skip p.flags
    rw [hskip] at hskip'
    generalize hnext : p.flags.skip cs' = ds' at hskip'
    obtain - | - | ⟨_, hmore, _⟩ := hskip'
    obtain ⟨rest', htoken', hrest⟩ : ∃ rest', Token.read p.flags c _ = some (t, rest') ∧
        Bracketed rest rest' := (htoken ▸ Token.keeps_read hmore p.flags c).exists_right
    have htakes' : p.Takes cs' t rest' := ⟨c, _, hnext, htoken'⟩
    rw [htakes'.readAll hpush]
    rcases ih hrest hread with hunopened | hall
    · exact Or.inl (.behind htakes' hpush hunopened)
    · exact Or.inr hall

/-- If the bracket that closes nothing is the one behind the text, then the text can be read by
itself. -/
theorem Unopened.readAll_front (h : p.Unopened cs' q []) (hbracket : Bracketed cs cs') :
    p.readAll cs = some q := by
  generalize hrest : ([] : List Char) = rest at h
  induction h generalizing cs with
  | @here p cs' rest hskip hopen =>
    subst hrest
    have hskip' := hbracket.skip p.flags
    rw [hskip] at hskip'
    generalize hnext : p.flags.skip cs = ds at hskip'
    cases hskip' with
    | close => exact readAll_of_end hnext
    | cons c h hbehind => exact absurd rfl hbehind
  | @behind p next q cs' more rest t htakes hpush h ih =>
    subst hrest
    obtain ⟨c, ds', hskip, htoken⟩ := htakes
    obtain ⟨_, _, hsecond⟩ := h.exists_takes
    have hskip' := hbracket.skip p.flags
    rw [hskip] at hskip'
    generalize hnext : p.flags.skip cs = ds at hskip'
    cases hskip' with
    | close =>
      -- No token comes behind the bracket.
      cases htoken
      exact absurd hsecond (not_takes_nil _ _ _)
    | cons c hmore hbehind =>
      -- A token that the text breaks off has taken the bracket, so no other one comes behind it.
      rcases (Token.keeps_read hmore p.flags c).outcomes with
        ⟨-, htoken'⟩ | ⟨-, t', more', htoken', hbeyond⟩ |
          ⟨t', front, more', hfront, htoken', hmore', -⟩
      · cases htoken'.symm.trans htoken
      · cases htoken'.symm.trans htoken
        rcases hbeyond with rfl | ⟨⟨r, depth, rfl⟩, inner, rfl, hinner⟩
        · exact absurd hsecond (not_takes_nil _ _ _)
        · cases hpush
          exact absurd hsecond (not_takes_braces hinner)
      · cases htoken'.symm.trans htoken
        have htakes : p.Takes cs t front := ⟨c, _, hnext, hfront⟩
        rw [htakes.readAll hpush]
        exact ih hmore' rfl

end Draft

end Descent.Regex
