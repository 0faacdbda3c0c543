import Descent.CharSet.Ascii
import Descent.Unicode.Blank
import Descent.Unicode.Folding

/-!
# Flags of a pattern

A pattern switches flags on and off as it goes, as in `(?i)` or `(?s-x:…)`. They say how the
characters behind them are read (`verbose`) and what the items behind them mean (all others).
What they mean for sets of characters is said here, too.
-/

namespace Descent.Regex

/-- How a pattern is read at some place in it. -/
structure Flags where
  /-- `i`: letters match in either case. -/
  ignoreCase : Bool := false
  /-- `m`: `^` and `$` hold at every line's ends. -/
  multiLine : Bool := false
  /-- `s`: the dot matches line ends too. -/
  dotAll : Bool := false
  /-- `U`: repetitions prefer fewer turns, and a `?` behind them makes them prefer more. -/
  swapGreed : Bool := false
  /-- `R`: carriage returns end lines too. -/
  returns : Bool := false
  /-- `x`: blanks and comments between the items are ignored. -/
  verbose : Bool := false
  /-- `u`: classes and cases are those of Unicode, not of ASCII. -/
  unicode : Bool := true
deriving DecidableEq

namespace Flags

/-- Switches the flag with the given letter, if there is one. -/
def set? (f : Flags) (letter : Char) (on : Bool) : Option Flags :=
  match letter with
  | 'i' => some { f with ignoreCase := on }
  | 'm' => some { f with multiLine := on }
  | 's' => some { f with dotAll := on }
  | 'U' => some { f with swapGreed := on }
  | 'R' => some { f with returns := on }
  | 'x' => some { f with verbose := on }
  | 'u' => some { f with unicode := on }
  | _ => none

/-- Reads flag letters up to the `:` or `)` behind them, which is left in place. Letters behind a
minus sign are switched off. A letter or the sign must not come twice, and a letter has to follow
the sign. -/
def read (f : Flags) (on : Bool) (used : List Char) (signLast : Bool) :
    List Char → Option (Flags × List Char)
  | [] => none
  | c :: cs =>
    if c = ':' ∨ c = ')' then if signLast then none else some (f, c :: cs)
    else if c = '-' then if on then f.read false used true cs else none
    else if c ∈ used then none
    else
      match f.set? c on with
      | some f => f.read on (c :: used) false cs
      | none => none

end Flags

/-! ### Blanks -/

/-- Skips blanks, and comments from a `#` to the end of its line. -/
def skipComments (inComment : Bool) : List Char → List Char
  | [] => []
  | c :: cs =>
    if inComment then skipComments (c ≠ '\n') cs
    else if Unicode.isBlank c then skipComments false cs
    else if c = '#' then skipComments true cs
    else c :: cs

/-- Skips what is ignored between the items of a pattern. -/
def Flags.skip (f : Flags) (cs : List Char) : List Char :=
  if f.verbose then skipComments false cs else cs

@[simp] theorem Flags.skip_of_not_verbose {f : Flags} (h : f.verbose = false) (cs : List Char) :
    f.skip cs = cs := by
  simp [skip, h]

/-! ### Sets -/

namespace Flags

/-- Closes a set under change of case, where case is ignored. -/
def close (f : Flags) (s : CharSet) : CharSet :=
  if f.ignoreCase then if f.unicode then Unicode.caseClosure s else s.asciiClosure else s

/-- The characters that a single one stands for: all that agree with it up to case, where case is
ignored. Without Unicode only the letters of ASCII have a case. -/
def variants (f : Flags) (c : Char) : CharSet :=
  if f.ignoreCase then
    if f.unicode then .ofList (Unicode.caseVariants c) else .ofList [c, CharSet.swapAsciiCase c]
  else .single c

/-- The complement of a set, if `negated` holds. Without Unicode there is none: it would hold bytes
that are no characters. -/
def complement? (f : Flags) (negated : Bool) (s : CharSet) : Option CharSet :=
  if negated then if f.unicode then some s.compl else none else some s

/-- Whether a class may name the character: without Unicode, those of ASCII only. -/
def admits (f : Flags) (c : Char) : Bool :=
  f.unicode || c.toNat < 128

/-- A character stands for itself at least. -/
theorem contains_variants_self (f : Flags) (c : Char) : (f.variants c).contains c = true := by
  simp only [variants]
  split
  · split
    · simp [Unicode.mem_caseVariants_self]
    · simp
  · simp

end Flags

end Descent.Regex
