import Descent.Unicode.Ranges

/-!
# Separators and controls

The general categories of separators, of characters that are not seen, and of those for private use.
-/

namespace Descent.Unicode

/-- The category `Zs`. -/
def spaceSeparators : Ranges := [
  (0x20, 0x20), (0xa0, 0xa0), (0x1680, 0x1680), (0x2000, 0x200a), (0x202f, 0x202f),
  (0x205f, 0x205f), (0x3000, 0x3000)]

/-- The category `Zl`. -/
def lineSeparators : Ranges := [
  (0x2028, 0x2028)]

/-- The category `Zp`. -/
def paragraphSeparators : Ranges := [
  (0x2029, 0x2029)]

/-- The category `Cc`. -/
def controls : Ranges := [
  (0x0, 0x1f), (0x7f, 0x9f)]

/-- The category `Cf`. -/
def formatControls : Ranges := [
  (0xad, 0xad), (0x600, 0x605), (0x61c, 0x61c), (0x6dd, 0x6dd), (0x70f, 0x70f), (0x890, 0x891),
  (0x8e2, 0x8e2), (0x180e, 0x180e), (0x200b, 0x200f), (0x202a, 0x202e), (0x2060, 0x2064),
  (0x2066, 0x206f), (0xfeff, 0xfeff), (0xfff9, 0xfffb), (0x110bd, 0x110bd), (0x110cd, 0x110cd),
  (0x13430, 0x1343f), (0x1bca0, 0x1bca3), (0x1d173, 0x1d17a), (0xe0001, 0xe0001),
  (0xe0020, 0xe007f)]

/-- The category `Co`. -/
def privateUse : Ranges := [
  (0xe000, 0xf8ff), (0xf0000, 0xffffd), (0x100000, 0x10fffd)]

end Descent.Unicode
