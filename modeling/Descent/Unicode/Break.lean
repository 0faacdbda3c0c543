import Descent.Unicode.Property
import Descent.Unicode.Script

/-!
# Breaks between clusters, words and sentences

Three properties sort characters by how text may be divided next to them: into clusters that are
seen as one character, into words, and into sentences. Characters without a place of their own in
one of these properties are left out of it.
-/

namespace Descent.Unicode

/-- All that a syllable of Hangul needs as one character, with and without a final consonant. -/
def hangulSyllables : CharSet :=
  .range '\uac00' '\ud7a3'

/-- Syllables of Hangul without a final consonant: every twenty-eighth one. -/
def openSyllables : CharSet :=
  .ofList ((List.range 399).map fun i ↦ .ofNat (0xac00 + 28 * i))

/-- Carriage return. -/
def carriageReturn : CharSet :=
  .single '\r'

/-- Line feed. -/
def lineFeed : CharSet :=
  .single '\n'

/-- Spacing marks. -/
def spacing : CharSet :=
  spacingMarks.toSet

/-! ### Clusters -/

/-- Controls, and unassigned characters that would be ignored. -/
def graphemeControls : CharSet :=
  .diff
    (.union (setOfTables [lineSeparators, paragraphSeparators, controls, formatControls])
      (.inter unassigned defaultIgnorable))
    (.union (.union graphemeExtend (setOfTables [prependedMarks, [(0x200c, 0x200d)]]))
      (.union carriageReturn lineFeed))

/-- Spacing marks that end a cluster. -/
def graphemeSpacing : CharSet :=
  .diff (.union (.diff spacing graphemeExtend) (Ranges.toSet [(0xe33, 0xe33), (0xeb3, 0xeb3)]))
    (Ranges.toSet [(0x102b, 0x102c), (0x1038, 0x1038), (0x1062, 0x1064), (0x1067, 0x106d),
      (0x1083, 0x1083), (0x1087, 0x108c), (0x108f, 0x108f), (0x109a, 0x109c), (0x1a61, 0x1a61),
      (0x1a63, 0x1a64), (0xaa7b, 0xaa7b), (0xaa7d, 0xaa7d), (0x11720, 0x11721)])

/-- The values of `Grapheme_Cluster_Break`. -/
def graphemeBreaks : List NamedSet := [
  ⟨["cn", "control"], graphemeControls⟩,
  ⟨["cr"], carriageReturn⟩,
  ⟨["ex", "extend"], .union graphemeExtend emojiModifiers.toSet⟩,
  ⟨["l"], Ranges.toSet [(0x1100, 0x115f), (0xa960, 0xa97c)]⟩,
  ⟨["lf"], lineFeed⟩,
  ⟨["lv"], openSyllables⟩,
  ⟨["lvt"], .diff hangulSyllables openSyllables⟩,
  ⟨["pp", "prepend"], setOfTables [prependedMarks, [(0xd4e, 0xd4e), (0x111c2, 0x111c3),
    (0x113d1, 0x113d1), (0x1193f, 0x1193f), (0x11941, 0x11941), (0x11a3a, 0x11a3a),
    (0x11a84, 0x11a89), (0x11d46, 0x11d46), (0x11f02, 0x11f02)]]⟩,
  ⟨["ri", "regionalindicator"], regionalIndicators.toSet⟩,
  ⟨["sm", "spacingmark"], graphemeSpacing⟩,
  ⟨["t"], Ranges.toSet [(0x11a8, 0x11ff), (0xd7cb, 0xd7fb)]⟩,
  ⟨["v"], Ranges.toSet [(0x1160, 0x11a7), (0xd7b0, 0xd7c6), (0x16d63, 0x16d63),
    (0x16d67, 0x16d6a)]⟩,
  ⟨["zwj"], .single '\u200d'⟩]

/-! ### Words -/

/-- What extends a word without being a letter of it. -/
def wordExtend : CharSet :=
  .diff (.union (.union graphemeExtend spacing) emojiModifiers.toSet) (.single '\u200d')

/-- Letters of Hebrew. -/
def hebrewLetters : CharSet :=
  Ranges.toSet [(0x5d0, 0x5ea), (0x5ef, 0x5f2), (0xfb1d, 0xfb1d), (0xfb1f, 0xfb28),
    (0xfb2a, 0xfb36), (0xfb38, 0xfb3c), (0xfb3e, 0xfb3e), (0xfb40, 0xfb41), (0xfb43, 0xfb44),
    (0xfb46, 0xfb4f)]

/-- Characters of Katakana and its signs. -/
def katakanaCharacters : CharSet :=
  Ranges.toSet [(0x3031, 0x3035), (0x309b, 0x309c), (0x30a0, 0x30fa), (0x30fc, 0x30ff),
    (0x31f0, 0x31ff), (0x32d0, 0x32fe), (0x3300, 0x3357), (0xff66, 0xff9d), (0x1aff0, 0x1aff3),
    (0x1aff5, 0x1affb), (0x1affd, 0x1affe), (0x1b000, 0x1b000), (0x1b120, 0x1b122),
    (0x1b155, 0x1b155), (0x1b164, 0x1b167)]

/-- The scripts that write words without spaces between them. -/
def spacelessScripts : CharSet :=
  (["hira", "thai", "laoo", "mymr", "khmr", "tale", "talu", "lana", "tavt", "ahom"].filterMap
    script?).foldr .union .empty

/-- Letters that words are divided by. -/
def wordLetters : CharSet :=
  .union
    (.diff alphabetic
      ([ideographs.toSet, katakanaCharacters, wordExtend, hebrewLetters, spacelessScripts].foldr
        .union .empty))
    (Ranges.toSet [(0x2c2, 0x2c5), (0x2d2, 0x2d7), (0x2de, 0x2df), (0x2e5, 0x2eb), (0x2ed, 0x2ed),
      (0x2ef, 0x2ff), (0x55a, 0x55c), (0x55e, 0x55e), (0x58a, 0x58a), (0x5f3, 0x5f3),
      (0xa708, 0xa716), (0xa720, 0xa721), (0xa789, 0xa78a), (0xab5b, 0xab5b)])

/-- Digits, and the decimal separator of Arabic. -/
def wordDigits : CharSet :=
  setOfTables [decimalDigits, [(0x66b, 0x66b)]]

/-- The values of `Word_Break`. -/
def wordBreaks : List NamedSet := [
  ⟨["cr"], carriageReturn⟩,
  ⟨["dq", "doublequote"], .single '"'⟩,
  ⟨["ex", "extendnumlet"], Ranges.toSet [(0x5f, 0x5f), (0x202f, 0x202f), (0x203f, 0x2040),
    (0x2054, 0x2054), (0xfe33, 0xfe34), (0xfe4d, 0xfe4f), (0xff3f, 0xff3f)]⟩,
  ⟨["extend"], wordExtend⟩,
  ⟨["fo", "format"], .diff formatControls.toSet
    (.union wordExtend (Ranges.toSet [(0x200b, 0x200d)]))⟩,
  ⟨["hl", "hebrewletter"], hebrewLetters⟩,
  ⟨["ka", "katakana"], katakanaCharacters⟩,
  ⟨["le", "aletter"], wordLetters⟩,
  ⟨["lf"], lineFeed⟩,
  ⟨["mb", "midnumlet"], Ranges.toSet [(0x2e, 0x2e), (0x2018, 0x2019), (0x2024, 0x2024),
    (0xfe52, 0xfe52), (0xff07, 0xff07), (0xff0e, 0xff0e)]⟩,
  ⟨["ml", "midletter"], Ranges.toSet [(0x3a, 0x3a), (0xb7, 0xb7), (0x387, 0x387), (0x55f, 0x55f),
    (0x5f4, 0x5f4), (0x2027, 0x2027), (0xfe13, 0xfe13), (0xfe55, 0xfe55), (0xff1a, 0xff1a)]⟩,
  ⟨["mn", "midnum"], Ranges.toSet [(0x2c, 0x2c), (0x3b, 0x3b), (0x37e, 0x37e), (0x589, 0x589),
    (0x60c, 0x60d), (0x66c, 0x66c), (0x7f8, 0x7f8), (0x2044, 0x2044), (0xfe10, 0xfe10),
    (0xfe14, 0xfe14), (0xfe50, 0xfe50), (0xfe54, 0xfe54), (0xff0c, 0xff0c), (0xff1b, 0xff1b)]⟩,
  ⟨["nl", "newline"], Ranges.toSet [(0xb, 0xc), (0x85, 0x85), (0x2028, 0x2029)]⟩,
  ⟨["nu", "numeric"], wordDigits⟩,
  ⟨["ri", "regionalindicator"], regionalIndicators.toSet⟩,
  ⟨["sq", "singlequote"], .single '\''⟩,
  ⟨["wsegspace"], Ranges.toSet [(0x20, 0x20), (0x1680, 0x1680), (0x2000, 0x2006),
    (0x2008, 0x200a), (0x205f, 0x205f), (0x3000, 0x3000)]⟩,
  ⟨["zwj"], .single '\u200d'⟩]

/-! ### Sentences -/

/-- What extends a character in a sentence. -/
def sentenceExtend : CharSet :=
  .union (.union graphemeExtend spacing) (.single '\u200d')

/-- Line and paragraph ends of one character. -/
def sentenceSeparators : CharSet :=
  Ranges.toSet [(0x85, 0x85), (0x2028, 0x2029)]

/-- Small letters as sentences see them. -/
def sentenceLower : CharSet :=
  .diff lowercase (Ranges.toSet [(0x345, 0x345), (0x10d0, 0x10fa), (0x10fd, 0x10ff)])

/-- Capital letters as sentences see them. -/
def sentenceUpper : CharSet :=
  .diff (.union uppercase titlecaseLetters.toSet)
    (Ranges.toSet [(0x1c90, 0x1cba), (0x1cbd, 0x1cbf)])

/-- Full stops, which may also stand in an abbreviation or a number. -/
def fullStops : CharSet :=
  Ranges.toSet [(0x2e, 0x2e), (0x2024, 0x2024), (0xfe52, 0xfe52), (0xff0e, 0xff0e)]

/-- Brackets and quotation marks. -/
def closers : CharSet :=
  .union
    (setOfTables [openPunctuation, closePunctuation, initialPunctuation, finalPunctuation,
      [(0x275b, 0x2760), (0x2e00, 0x2e01), (0x2e06, 0x2e08), (0x2e0b, 0x2e0b),
        (0x1f676, 0x1f678)]])
    (.diff (.inter quotationMarks.toSet otherPunctuation.toSet)
      (Ranges.toSet [(0xff02, 0xff02), (0xff07, 0xff07)]))

/-- The values of `Sentence_Break`. -/
def sentenceBreaks : List NamedSet := [
  ⟨["at", "aterm"], fullStops⟩,
  ⟨["cl", "close"], closers⟩,
  ⟨["cr"], carriageReturn⟩,
  ⟨["ex", "extend"], sentenceExtend⟩,
  ⟨["fo", "format"], .diff formatControls.toSet
    (.union sentenceExtend (Ranges.toSet [(0x200c, 0x200d)]))⟩,
  ⟨["le", "oletter"], .diff (.union alphabetic (.single '\u05f3'))
    (.union sentenceExtend (.union sentenceLower sentenceUpper))⟩,
  ⟨["lf"], lineFeed⟩,
  ⟨["lo", "lower"], sentenceLower⟩,
  ⟨["nu", "numeric"], .union wordDigits (.single '\u066c')⟩,
  ⟨["sc", "scontinue"], Ranges.toSet [(0x2c, 0x2d), (0x3a, 0x3a), (0x55d, 0x55d), (0x60c, 0x60d),
    (0x7f8, 0x7f8), (0x1802, 0x1802), (0x1808, 0x1808), (0x2013, 0x2014), (0x3001, 0x3001),
    (0xfe10, 0xfe11), (0xfe13, 0xfe13), (0xfe31, 0xfe32), (0xfe50, 0xfe51), (0xfe55, 0xfe55),
    (0xfe58, 0xfe58), (0xfe63, 0xfe63), (0xff0c, 0xff0d), (0xff1a, 0xff1a), (0xff64, 0xff64)]⟩,
  ⟨["se", "sep"], sentenceSeparators⟩,
  ⟨["sp"], .diff whiteSpace (.union sentenceSeparators (.union carriageReturn lineFeed))⟩,
  ⟨["st", "sterm"], .diff sentenceEnds.toSet fullStops⟩,
  ⟨["up", "upper"], sentenceUpper⟩]

end Descent.Unicode
