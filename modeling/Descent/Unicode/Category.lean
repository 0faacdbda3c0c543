import Descent.Unicode.Category.Cased
import Descent.Unicode.Category.Caseless
import Descent.Unicode.Category.Control
import Descent.Unicode.Category.Mark
import Descent.Unicode.Category.Number
import Descent.Unicode.Category.Sign
import Descent.Unicode.NamedRanges

/-!
# General categories

Every character belongs to one general category; one that no table lists is not assigned. Groups of
categories, such as all letters, have names of their own.
-/

namespace Descent.Unicode

/-! ### Groups of categories -/

/-- Letters that have an upper, a lower or a title case. -/
def casedLetters : CharSet :=
  setOfTables [uppercaseLetters, lowercaseLetters, titlecaseLetters]

/-- Letters. -/
def letters : CharSet :=
  .union casedLetters (setOfTables [modifierLetters, otherLetters])

/-- Marks that belong to the character before them. -/
def marks : CharSet :=
  setOfTables [nonspacingMarks, spacingMarks, enclosingMarks]

/-- Digits, and signs such as `½` or `²`. -/
def numbers : CharSet :=
  setOfTables [decimalDigits, letterNumbers, otherNumbers]

/-- Punctuation. -/
def punctuation : CharSet :=
  setOfTables [connectorPunctuation, dashPunctuation, openPunctuation, closePunctuation,
    initialPunctuation, finalPunctuation, otherPunctuation]

/-- Symbols. -/
def symbols : CharSet :=
  setOfTables [mathSymbols, currencySymbols, modifierSymbols, otherSymbols]

/-- Spaces, and what separates lines and paragraphs. -/
def separators : CharSet :=
  setOfTables [spaceSeparators, lineSeparators, paragraphSeparators]

/-- Controls, and characters for private use. -/
def controlGroup : CharSet :=
  setOfTables [controls, formatControls, privateUse]

/-- The characters that are assigned. -/
def assigned : CharSet :=
  [letters, marks, numbers, punctuation, symbols, separators, controlGroup].foldr .union .empty

/-- The characters that are not assigned. -/
def unassigned : CharSet :=
  .compl assigned

/-! ### Names -/

/-- The categories and their groups by name. The code points called surrogates are no characters,
so that their category has no set here. -/
def categories : List NamedSet := [
  ⟨["any"], .all⟩,
  ⟨["ascii"], .range '\x00' '\x7f'⟩,
  ⟨["assigned"], assigned⟩,
  ⟨["l", "letter"], letters⟩,
  ⟨["lc", "casedletter"], casedLetters⟩,
  ⟨["lu", "uppercaseletter"], uppercaseLetters.toSet⟩,
  ⟨["ll", "lowercaseletter"], lowercaseLetters.toSet⟩,
  ⟨["lt", "titlecaseletter"], titlecaseLetters.toSet⟩,
  ⟨["lm", "modifierletter"], modifierLetters.toSet⟩,
  ⟨["lo", "otherletter"], otherLetters.toSet⟩,
  ⟨["m", "mark", "combiningmark"], marks⟩,
  ⟨["mn", "nonspacingmark"], nonspacingMarks.toSet⟩,
  ⟨["mc", "spacingmark"], spacingMarks.toSet⟩,
  ⟨["me", "enclosingmark"], enclosingMarks.toSet⟩,
  ⟨["n", "number"], numbers⟩,
  ⟨["nd", "decimalnumber", "digit"], decimalDigits.toSet⟩,
  ⟨["nl", "letternumber"], letterNumbers.toSet⟩,
  ⟨["no", "othernumber"], otherNumbers.toSet⟩,
  ⟨["p", "punctuation", "punct"], punctuation⟩,
  ⟨["pc", "connectorpunctuation"], connectorPunctuation.toSet⟩,
  ⟨["pd", "dashpunctuation"], dashPunctuation.toSet⟩,
  ⟨["ps", "openpunctuation"], openPunctuation.toSet⟩,
  ⟨["pe", "closepunctuation"], closePunctuation.toSet⟩,
  ⟨["pi", "initialpunctuation"], initialPunctuation.toSet⟩,
  ⟨["pf", "finalpunctuation"], finalPunctuation.toSet⟩,
  ⟨["po", "otherpunctuation"], otherPunctuation.toSet⟩,
  ⟨["s", "symbol"], symbols⟩,
  ⟨["sm", "mathsymbol"], mathSymbols.toSet⟩,
  ⟨["sc", "currencysymbol"], currencySymbols.toSet⟩,
  ⟨["sk", "modifiersymbol"], modifierSymbols.toSet⟩,
  ⟨["so", "othersymbol"], otherSymbols.toSet⟩,
  ⟨["z", "separator"], separators⟩,
  ⟨["zs", "spaceseparator"], spaceSeparators.toSet⟩,
  ⟨["zl", "lineseparator"], lineSeparators.toSet⟩,
  ⟨["zp", "paragraphseparator"], paragraphSeparators.toSet⟩,
  ⟨["c", "other"], .union controlGroup unassigned⟩,
  ⟨["cc", "control", "cntrl"], controls.toSet⟩,
  ⟨["cf", "format"], formatControls.toSet⟩,
  ⟨["co", "privateuse"], privateUse.toSet⟩,
  ⟨["cn", "unassigned"], unassigned⟩]

end Descent.Unicode
