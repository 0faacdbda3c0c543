import Descent.Unicode.Ranges

/-!
# White space

The characters with the Unicode property `White_Space`: what `\s` stands for in a pattern, and what
a pattern may hold between its items where blanks are ignored.
-/

namespace Descent.Unicode

/-- The code points with the property `White_Space`. -/
def blanks : Ranges := [
  (0x9, 0xd), (0x20, 0x20), (0x85, 0x85), (0xa0, 0xa0), (0x1680, 0x1680), (0x2000, 0x200a),
  (0x2028, 0x2029), (0x202f, 0x202f), (0x205f, 0x205f), (0x3000, 0x3000)]

/-- Whether a character is white space. -/
def isBlank (c : Char) : Bool :=
  blanks.has c.toNat

theorem ascendsFrom_blanks : blanks.ascendsFrom 0 = true := by decide

/-- The blanks of ASCII are among them. -/
theorem isBlank_of_isWhitespace {c : Char} (h : c.isWhitespace = true) : isBlank c = true := by
  simp only [Char.isWhitespace, Bool.or_eq_true, decide_eq_true_eq] at h
  rcases h with ((rfl | rfl) | rfl) | rfl <;> decide

end Descent.Unicode
