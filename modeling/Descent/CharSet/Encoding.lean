import Descent.CharSet.Basic

/-!
# Sets as sequences of bytes

In UTF-8 a character takes one to four bytes, each of which holds some bits of its code point: the
last ones six bits each, the first one what is left. A range of characters is thus a list of
sequences of ranges of bytes. Each sequence stands for all combinations of bytes from its ranges, in
ascending order.
-/

namespace Descent

/-- The bytes from `first` to `last`. -/
structure ByteRange where
  /-- The first byte. -/
  first : Nat
  /-- The last byte. -/
  last : Nat
deriving DecidableEq

namespace CharSet

/-- The code points between bounds as ranges. A range may include surrogates, which no encoding
has. -/
def codeRangesOf : List Char → List (Nat × Nat)
  | [] => []
  | [first] => [(first.toNat, 0x10ffff)]
  | first :: stop :: bs => (first.toNat, stop.toNat - 1) :: codeRangesOf bs

/-- The code points of a set as ranges. -/
def codeRanges (s : CharSet) : List (Nat × Nat) :=
  codeRangesOf s.bounds

/-- The numbers from `first` to `last`, written with `n` digits of six bits behind a leading one, as
sequences of ranges of digits. -/
def digitRanges : Nat → Nat → Nat → List (List ByteRange)
  | 0, first, last => [[⟨first, last⟩]]
  | n + 1, first, last =>
    let unit := 64 ^ (n + 1)
    let below := first / unit
    let above := last / unit
    if below = above then
      (digitRanges n (first % unit) (last % unit)).map (⟨below, below⟩ :: ·)
    else
      let startsUnit := first % unit = 0
      let endsUnit := last % unit = unit - 1
      let head := if startsUnit then [] else
        (digitRanges n (first % unit) (unit - 1)).map (⟨below, below⟩ :: ·)
      let whole := ⟨if startsUnit then below else below + 1, if endsUnit then above else above - 1⟩
      let middle := if whole.first ≤ whole.last then
        [whole :: List.replicate (n + 1) ⟨0, 63⟩] else []
      let tail := if endsUnit then [] else
        (digitRanges n 0 (last % unit)).map (⟨above, above⟩ :: ·)
      head ++ middle ++ tail

/-- Adds a mark to both ends of a range. -/
def ByteRange.marked (mark : Nat) (r : ByteRange) : ByteRange :=
  ⟨mark + r.first, mark + r.last⟩

/-- The bytes of a sequence of digits: the first one is marked by the number of bytes, the others as
those that follow. -/
def bytesOfDigits (mark : Nat) : List ByteRange → List ByteRange
  | [] => []
  | lead :: rest => ByteRange.marked mark lead :: rest.map (ByteRange.marked 0x80)

/-- The code points that are encoded alike: how many bytes follow the first one, the mark of the
first byte, and the first and last code point. Surrogates are left out. -/
def encodingPlanes : List (Nat × Nat × Nat × Nat) := [
  (0, 0, 0, 0x7f), (1, 0xc0, 0x80, 0x7ff), (2, 0xe0, 0x800, 0xd7ff), (2, 0xe0, 0xe000, 0xffff),
  (3, 0xf0, 0x10000, 0x10ffff)]

/-- The encodings of the code points from `first` to `last`. -/
def encodingsBetween (first last : Nat) : List (List ByteRange) :=
  encodingPlanes.flatMap fun (n, mark, low, high) ↦
    if max first low ≤ min last high then
      (digitRanges n (max first low) (min last high)).map (bytesOfDigits mark)
    else []

/-- The encodings of the characters of a set. -/
def encodings (s : CharSet) : List (List ByteRange) :=
  s.codeRanges.flatMap fun (first, last) ↦ encodingsBetween first last

end CharSet

end Descent
