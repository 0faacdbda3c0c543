import Descent.Unicode.NamedRanges

/-!
# Listed properties from G to Z

Binary properties that are no more than a list of characters, each under its short and its long
name.
-/

namespace Descent.Unicode

/-- Ideographs. -/
def ideographs : Ranges := [
  (0x3006, 0x3007), (0x3021, 0x3029), (0x3038, 0x303a), (0x3400, 0x4dbf), (0x4e00, 0x9fff),
  (0xf900, 0xfa6d), (0xfa70, 0xfad9), (0x16fe4, 0x16fe4), (0x17000, 0x187f7), (0x18800, 0x18cd5),
  (0x18cff, 0x18d08), (0x1b170, 0x1b2fb), (0x20000, 0x2a6df), (0x2a700, 0x2b739),
  (0x2b740, 0x2b81d), (0x2b820, 0x2cea1), (0x2ceb0, 0x2ebe0), (0x2ebf0, 0x2ee5d),
  (0x2f800, 0x2fa1d), (0x30000, 0x3134a), (0x31350, 0x323af)]

/-- Characters set aside for the syntax of patterns. -/
def patternSyntax : Ranges := [
  (0x21, 0x2f), (0x3a, 0x40), (0x5b, 0x5e), (0x60, 0x60), (0x7b, 0x7e), (0xa1, 0xa7),
  (0xa9, 0xa9), (0xab, 0xac), (0xae, 0xae), (0xb0, 0xb1), (0xb6, 0xb6), (0xbb, 0xbb),
  (0xbf, 0xbf), (0xd7, 0xd7), (0xf7, 0xf7), (0x2010, 0x2027), (0x2030, 0x203e), (0x2041, 0x2053),
  (0x2055, 0x205e), (0x2190, 0x245f), (0x2500, 0x2775), (0x2794, 0x2bff), (0x2e00, 0x2e7f),
  (0x3001, 0x3003), (0x3008, 0x3020), (0x3030, 0x3030), (0xfd3e, 0xfd3f), (0xfe45, 0xfe46)]

/-- White space in patterns. -/
def patternBlanks : Ranges := [
  (0x9, 0xd), (0x20, 0x20), (0x85, 0x85), (0x200e, 0x200f), (0x2028, 0x2029)]

/-- Signs that come before the numbers they enclose. -/
def prependedMarks : Ranges := [
  (0x600, 0x605), (0x6dd, 0x6dd), (0x70f, 0x70f), (0x890, 0x891), (0x8e2, 0x8e2),
  (0x110bd, 0x110bd), (0x110cd, 0x110cd)]

/-- Quotation marks. -/
def quotationMarks : Ranges := [
  (0x22, 0x22), (0x27, 0x27), (0xab, 0xab), (0xbb, 0xbb), (0x2018, 0x201f), (0x2039, 0x203a),
  (0x2e42, 0x2e42), (0x300c, 0x300f), (0x301d, 0x301f), (0xfe41, 0xfe44), (0xff02, 0xff02),
  (0xff07, 0xff07), (0xff62, 0xff63)]

/-- Letters that make flags in pairs. -/
def regionalIndicators : Ranges := [
  (0x1f1e6, 0x1f1ff)]

/-- Signs that end a sentence. -/
def sentenceEnds : Ranges := [
  (0x21, 0x21), (0x2e, 0x2e), (0x3f, 0x3f), (0x589, 0x589), (0x61d, 0x61f), (0x6d4, 0x6d4),
  (0x700, 0x702), (0x7f9, 0x7f9), (0x837, 0x837), (0x839, 0x839), (0x83d, 0x83e), (0x964, 0x965),
  (0x104a, 0x104b), (0x1362, 0x1362), (0x1367, 0x1368), (0x166e, 0x166e), (0x1735, 0x1736),
  (0x1803, 0x1803), (0x1809, 0x1809), (0x1944, 0x1945), (0x1aa8, 0x1aab), (0x1b4e, 0x1b4f),
  (0x1b5a, 0x1b5b), (0x1b5e, 0x1b5f), (0x1b7d, 0x1b7f), (0x1c3b, 0x1c3c), (0x1c7e, 0x1c7f),
  (0x2024, 0x2024), (0x203c, 0x203d), (0x2047, 0x2049), (0x2e2e, 0x2e2e), (0x2e3c, 0x2e3c),
  (0x2e53, 0x2e54), (0x3002, 0x3002), (0xa4ff, 0xa4ff), (0xa60e, 0xa60f), (0xa6f3, 0xa6f3),
  (0xa6f7, 0xa6f7), (0xa876, 0xa877), (0xa8ce, 0xa8cf), (0xa92f, 0xa92f), (0xa9c8, 0xa9c9),
  (0xaa5d, 0xaa5f), (0xaaf0, 0xaaf1), (0xabeb, 0xabeb), (0xfe52, 0xfe52), (0xfe56, 0xfe57),
  (0xff01, 0xff01), (0xff0e, 0xff0e), (0xff1f, 0xff1f), (0xff61, 0xff61), (0x10a56, 0x10a57),
  (0x10f55, 0x10f59), (0x10f86, 0x10f89), (0x11047, 0x11048), (0x110be, 0x110c1),
  (0x11141, 0x11143), (0x111c5, 0x111c6), (0x111cd, 0x111cd), (0x111de, 0x111df),
  (0x11238, 0x11239), (0x1123b, 0x1123c), (0x112a9, 0x112a9), (0x113d4, 0x113d5),
  (0x1144b, 0x1144c), (0x115c2, 0x115c3), (0x115c9, 0x115d7), (0x11641, 0x11642),
  (0x1173c, 0x1173e), (0x11944, 0x11944), (0x11946, 0x11946), (0x11a42, 0x11a43),
  (0x11a9b, 0x11a9c), (0x11c41, 0x11c42), (0x11ef7, 0x11ef8), (0x11f43, 0x11f44),
  (0x16a6e, 0x16a6f), (0x16af5, 0x16af5), (0x16b37, 0x16b38), (0x16b44, 0x16b44),
  (0x16d6e, 0x16d6f), (0x16e98, 0x16e98), (0x1bc9f, 0x1bc9f), (0x1da88, 0x1da88)]

/-- Characters that choose a form of the one before them. -/
def variationSelectors : Ranges := [
  (0x180b, 0x180d), (0x180f, 0x180f), (0xfe00, 0xfe0f), (0xe0100, 0xe01ef)]

/-- The listed properties whose long names begin with a letter from `g` to `z`. -/
def propertiesGToZ : List NamedRanges := [
  ⟨["grlink", "graphemelink"], [
    (0x94d, 0x94d), (0x9cd, 0x9cd), (0xa4d, 0xa4d), (0xacd, 0xacd), (0xb4d, 0xb4d),
    (0xbcd, 0xbcd), (0xc4d, 0xc4d), (0xccd, 0xccd), (0xd3b, 0xd3c), (0xd4d, 0xd4d),
    (0xdca, 0xdca), (0xe3a, 0xe3a), (0xeba, 0xeba), (0xf84, 0xf84), (0x1039, 0x103a),
    (0x1714, 0x1715), (0x1734, 0x1734), (0x17d2, 0x17d2), (0x1a60, 0x1a60), (0x1b44, 0x1b44),
    (0x1baa, 0x1bab), (0x1bf2, 0x1bf3), (0x2d7f, 0x2d7f), (0xa806, 0xa806), (0xa82c, 0xa82c),
    (0xa8c4, 0xa8c4), (0xa953, 0xa953), (0xa9c0, 0xa9c0), (0xaaf6, 0xaaf6), (0xabed, 0xabed),
    (0x10a3f, 0x10a3f), (0x11046, 0x11046), (0x11070, 0x11070), (0x1107f, 0x1107f),
    (0x110b9, 0x110b9), (0x11133, 0x11134), (0x111c0, 0x111c0), (0x11235, 0x11235),
    (0x112ea, 0x112ea), (0x1134d, 0x1134d), (0x113ce, 0x113d0), (0x11442, 0x11442),
    (0x114c2, 0x114c2), (0x115bf, 0x115bf), (0x1163f, 0x1163f), (0x116b6, 0x116b6),
    (0x1172b, 0x1172b), (0x11839, 0x11839), (0x1193d, 0x1193e), (0x119e0, 0x119e0),
    (0x11a34, 0x11a34), (0x11a47, 0x11a47), (0x11a99, 0x11a99), (0x11c3f, 0x11c3f),
    (0x11d44, 0x11d45), (0x11d97, 0x11d97), (0x11f41, 0x11f42), (0x1612f, 0x1612f)]⟩,
  ⟨["hex", "hexdigit"], [
    (0x30, 0x39), (0x41, 0x46), (0x61, 0x66), (0xff10, 0xff19), (0xff21, 0xff26),
    (0xff41, 0xff46)]⟩,
  ⟨["hyphen"], [
    (0x2d, 0x2d), (0xad, 0xad), (0x58a, 0x58a), (0x1806, 0x1806), (0x2010, 0x2011),
    (0x2e17, 0x2e17), (0x30fb, 0x30fb), (0xfe63, 0xfe63), (0xff0d, 0xff0d), (0xff65, 0xff65)]⟩,
  ⟨["idcompatmathcontinue"], [
    (0xb2, 0xb3), (0xb9, 0xb9), (0x2070, 0x2070), (0x2074, 0x207e), (0x2080, 0x208e),
    (0x2202, 0x2202), (0x2207, 0x2207), (0x221e, 0x221e), (0x1d6c1, 0x1d6c1),
    (0x1d6db, 0x1d6db), (0x1d6fb, 0x1d6fb), (0x1d715, 0x1d715), (0x1d735, 0x1d735),
    (0x1d74f, 0x1d74f), (0x1d76f, 0x1d76f), (0x1d789, 0x1d789), (0x1d7a9, 0x1d7a9),
    (0x1d7c3, 0x1d7c3)]⟩,
  ⟨["idcompatmathstart"], [
    (0x2202, 0x2202), (0x2207, 0x2207), (0x221e, 0x221e), (0x1d6c1, 0x1d6c1),
    (0x1d6db, 0x1d6db), (0x1d6fb, 0x1d6fb), (0x1d715, 0x1d715), (0x1d735, 0x1d735),
    (0x1d74f, 0x1d74f), (0x1d76f, 0x1d76f), (0x1d789, 0x1d789), (0x1d7a9, 0x1d7a9),
    (0x1d7c3, 0x1d7c3)]⟩,
  ⟨["ideo", "ideographic"], ideographs⟩,
  ⟨["idsb", "idsbinaryoperator"], [(0x2ff0, 0x2ff1), (0x2ff4, 0x2ffd), (0x31ef, 0x31ef)]⟩,
  ⟨["idst", "idstrinaryoperator"], [(0x2ff2, 0x2ff3)]⟩,
  ⟨["idsu", "idsunaryoperator"], [(0x2ffe, 0x2fff)]⟩,
  ⟨["joinc", "joincontrol"], [(0x200c, 0x200d)]⟩,
  ⟨["loe", "logicalorderexception"], [
    (0xe40, 0xe44), (0xec0, 0xec4), (0x19b5, 0x19b7), (0x19ba, 0x19ba), (0xaab5, 0xaab6),
    (0xaab9, 0xaab9), (0xaabb, 0xaabc)]⟩,
  ⟨["mcm", "modifiercombiningmark"], [
    (0x654, 0x655), (0x658, 0x658), (0x6dc, 0x6dc), (0x6e3, 0x6e3), (0x6e7, 0x6e8),
    (0x8ca, 0x8cb), (0x8cd, 0x8cf), (0x8d3, 0x8d3), (0x8f3, 0x8f3)]⟩,
  ⟨["nchar", "noncharactercodepoint"], [
    (0xfdd0, 0xfdef), (0xfffe, 0xffff), (0x1fffe, 0x1ffff), (0x2fffe, 0x2ffff),
    (0x3fffe, 0x3ffff), (0x4fffe, 0x4ffff), (0x5fffe, 0x5ffff), (0x6fffe, 0x6ffff),
    (0x7fffe, 0x7ffff), (0x8fffe, 0x8ffff), (0x9fffe, 0x9ffff), (0xafffe, 0xaffff),
    (0xbfffe, 0xbffff), (0xcfffe, 0xcffff), (0xdfffe, 0xdffff), (0xefffe, 0xeffff),
    (0xffffe, 0xfffff), (0x10fffe, 0x10ffff)]⟩,
  ⟨["patsyn", "patternsyntax"], patternSyntax⟩,
  ⟨["patws", "patternwhitespace"], patternBlanks⟩,
  ⟨["pcm", "prependedconcatenationmark"], prependedMarks⟩,
  ⟨["qmark", "quotationmark"], quotationMarks⟩,
  ⟨["radical"], [(0x2e80, 0x2e99), (0x2e9b, 0x2ef3), (0x2f00, 0x2fd5)]⟩,
  ⟨["ri", "regionalindicator"], regionalIndicators⟩,
  ⟨["sterm", "sentenceterminal"], sentenceEnds⟩,
  ⟨["sd", "softdotted"], [
    (0x69, 0x6a), (0x12f, 0x12f), (0x249, 0x249), (0x268, 0x268), (0x29d, 0x29d),
    (0x2b2, 0x2b2), (0x3f3, 0x3f3), (0x456, 0x456), (0x458, 0x458), (0x1d62, 0x1d62),
    (0x1d96, 0x1d96), (0x1da4, 0x1da4), (0x1da8, 0x1da8), (0x1e2d, 0x1e2d), (0x1ecb, 0x1ecb),
    (0x2071, 0x2071), (0x2148, 0x2149), (0x2c7c, 0x2c7c), (0x1d422, 0x1d423),
    (0x1d456, 0x1d457), (0x1d48a, 0x1d48b), (0x1d4be, 0x1d4bf), (0x1d4f2, 0x1d4f3),
    (0x1d526, 0x1d527), (0x1d55a, 0x1d55b), (0x1d58e, 0x1d58f), (0x1d5c2, 0x1d5c3),
    (0x1d5f6, 0x1d5f7), (0x1d62a, 0x1d62b), (0x1d65e, 0x1d65f), (0x1d692, 0x1d693),
    (0x1df1a, 0x1df1a), (0x1e04c, 0x1e04d), (0x1e068, 0x1e068)]⟩,
  ⟨["term", "terminalpunctuation"], [
    (0x21, 0x21), (0x2c, 0x2c), (0x2e, 0x2e), (0x3a, 0x3b), (0x3f, 0x3f), (0x37e, 0x37e),
    (0x387, 0x387), (0x589, 0x589), (0x5c3, 0x5c3), (0x60c, 0x60c), (0x61b, 0x61b),
    (0x61d, 0x61f), (0x6d4, 0x6d4), (0x700, 0x70a), (0x70c, 0x70c), (0x7f8, 0x7f9),
    (0x830, 0x83e), (0x85e, 0x85e), (0x964, 0x965), (0xe5a, 0xe5b), (0xf08, 0xf08),
    (0xf0d, 0xf12), (0x104a, 0x104b), (0x1361, 0x1368), (0x166e, 0x166e), (0x16eb, 0x16ed),
    (0x1735, 0x1736), (0x17d4, 0x17d6), (0x17da, 0x17da), (0x1802, 0x1805), (0x1808, 0x1809),
    (0x1944, 0x1945), (0x1aa8, 0x1aab), (0x1b4e, 0x1b4f), (0x1b5a, 0x1b5b), (0x1b5d, 0x1b5f),
    (0x1b7d, 0x1b7f), (0x1c3b, 0x1c3f), (0x1c7e, 0x1c7f), (0x2024, 0x2024), (0x203c, 0x203d),
    (0x2047, 0x2049), (0x2e2e, 0x2e2e), (0x2e3c, 0x2e3c), (0x2e41, 0x2e41), (0x2e4c, 0x2e4c),
    (0x2e4e, 0x2e4f), (0x2e53, 0x2e54), (0x3001, 0x3002), (0xa4fe, 0xa4ff), (0xa60d, 0xa60f),
    (0xa6f3, 0xa6f7), (0xa876, 0xa877), (0xa8ce, 0xa8cf), (0xa92f, 0xa92f), (0xa9c7, 0xa9c9),
    (0xaa5d, 0xaa5f), (0xaadf, 0xaadf), (0xaaf0, 0xaaf1), (0xabeb, 0xabeb), (0xfe50, 0xfe52),
    (0xfe54, 0xfe57), (0xff01, 0xff01), (0xff0c, 0xff0c), (0xff0e, 0xff0e), (0xff1a, 0xff1b),
    (0xff1f, 0xff1f), (0xff61, 0xff61), (0xff64, 0xff64), (0x1039f, 0x1039f),
    (0x103d0, 0x103d0), (0x10857, 0x10857), (0x1091f, 0x1091f), (0x10a56, 0x10a57),
    (0x10af0, 0x10af5), (0x10b3a, 0x10b3f), (0x10b99, 0x10b9c), (0x10f55, 0x10f59),
    (0x10f86, 0x10f89), (0x11047, 0x1104d), (0x110be, 0x110c1), (0x11141, 0x11143),
    (0x111c5, 0x111c6), (0x111cd, 0x111cd), (0x111de, 0x111df), (0x11238, 0x1123c),
    (0x112a9, 0x112a9), (0x113d4, 0x113d5), (0x1144b, 0x1144d), (0x1145a, 0x1145b),
    (0x115c2, 0x115c5), (0x115c9, 0x115d7), (0x11641, 0x11642), (0x1173c, 0x1173e),
    (0x11944, 0x11944), (0x11946, 0x11946), (0x11a42, 0x11a43), (0x11a9b, 0x11a9c),
    (0x11aa1, 0x11aa2), (0x11c41, 0x11c43), (0x11c71, 0x11c71), (0x11ef7, 0x11ef8),
    (0x11f43, 0x11f44), (0x12470, 0x12474), (0x16a6e, 0x16a6f), (0x16af5, 0x16af5),
    (0x16b37, 0x16b39), (0x16b44, 0x16b44), (0x16d6e, 0x16d6f), (0x16e97, 0x16e98),
    (0x1bc9f, 0x1bc9f), (0x1da87, 0x1da8a)]⟩,
  ⟨["uideo", "unifiedideograph"], [
    (0x3400, 0x4dbf), (0x4e00, 0x9fff), (0xfa0e, 0xfa0f), (0xfa11, 0xfa11), (0xfa13, 0xfa14),
    (0xfa1f, 0xfa1f), (0xfa21, 0xfa21), (0xfa23, 0xfa24), (0xfa27, 0xfa29),
    (0x20000, 0x2a6df), (0x2a700, 0x2b739), (0x2b740, 0x2b81d), (0x2b820, 0x2cea1),
    (0x2ceb0, 0x2ebe0), (0x2ebf0, 0x2ee5d), (0x30000, 0x3134a), (0x31350, 0x323af)]⟩,
  ⟨["vs", "variationselector"], variationSelectors⟩]

end Descent.Unicode
