import Descent.Unicode.NamedRanges

/-!
# Scripts from A to C

The characters of each script, under its short and its long name.
-/

namespace Descent.Unicode

/-- The scripts whose long names begin with a letter from `a` to `c`. -/
def scriptsAToC : List NamedRanges := [
  ⟨["adlm", "adlam"], [(0x1e900, 0x1e94b), (0x1e950, 0x1e959), (0x1e95e, 0x1e95f)]⟩,
  ⟨["ahom"], [(0x11700, 0x1171a), (0x1171d, 0x1172b), (0x11730, 0x11746)]⟩,
  ⟨["hluw", "anatolianhieroglyphs"], [(0x14400, 0x14646)]⟩,
  ⟨["arab", "arabic"], [
    (0x600, 0x604), (0x606, 0x60b), (0x60d, 0x61a), (0x61c, 0x61e), (0x620, 0x63f),
    (0x641, 0x64a), (0x656, 0x66f), (0x671, 0x6dc), (0x6de, 0x6ff), (0x750, 0x77f),
    (0x870, 0x88e), (0x890, 0x891), (0x897, 0x8e1), (0x8e3, 0x8ff), (0xfb50, 0xfbc2),
    (0xfbd3, 0xfd3d), (0xfd40, 0xfd8f), (0xfd92, 0xfdc7), (0xfdcf, 0xfdcf), (0xfdf0, 0xfdff),
    (0xfe70, 0xfe74), (0xfe76, 0xfefc), (0x10e60, 0x10e7e), (0x10ec2, 0x10ec4),
    (0x10efc, 0x10eff), (0x1ee00, 0x1ee03), (0x1ee05, 0x1ee1f), (0x1ee21, 0x1ee22),
    (0x1ee24, 0x1ee24), (0x1ee27, 0x1ee27), (0x1ee29, 0x1ee32), (0x1ee34, 0x1ee37),
    (0x1ee39, 0x1ee39), (0x1ee3b, 0x1ee3b), (0x1ee42, 0x1ee42), (0x1ee47, 0x1ee47),
    (0x1ee49, 0x1ee49), (0x1ee4b, 0x1ee4b), (0x1ee4d, 0x1ee4f), (0x1ee51, 0x1ee52),
    (0x1ee54, 0x1ee54), (0x1ee57, 0x1ee57), (0x1ee59, 0x1ee59), (0x1ee5b, 0x1ee5b),
    (0x1ee5d, 0x1ee5d), (0x1ee5f, 0x1ee5f), (0x1ee61, 0x1ee62), (0x1ee64, 0x1ee64),
    (0x1ee67, 0x1ee6a), (0x1ee6c, 0x1ee72), (0x1ee74, 0x1ee77), (0x1ee79, 0x1ee7c),
    (0x1ee7e, 0x1ee7e), (0x1ee80, 0x1ee89), (0x1ee8b, 0x1ee9b), (0x1eea1, 0x1eea3),
    (0x1eea5, 0x1eea9), (0x1eeab, 0x1eebb), (0x1eef0, 0x1eef1)]⟩,
  ⟨["armn", "armenian"], [(0x531, 0x556), (0x559, 0x58a), (0x58d, 0x58f), (0xfb13, 0xfb17)]⟩,
  ⟨["avst", "avestan"], [(0x10b00, 0x10b35), (0x10b39, 0x10b3f)]⟩,
  ⟨["bali", "balinese"], [(0x1b00, 0x1b4c), (0x1b4e, 0x1b7f)]⟩,
  ⟨["bamu", "bamum"], [(0xa6a0, 0xa6f7), (0x16800, 0x16a38)]⟩,
  ⟨["bass", "bassavah"], [(0x16ad0, 0x16aed), (0x16af0, 0x16af5)]⟩,
  ⟨["batk", "batak"], [(0x1bc0, 0x1bf3), (0x1bfc, 0x1bff)]⟩,
  ⟨["beng", "bengali"], [
    (0x980, 0x983), (0x985, 0x98c), (0x98f, 0x990), (0x993, 0x9a8), (0x9aa, 0x9b0),
    (0x9b2, 0x9b2), (0x9b6, 0x9b9), (0x9bc, 0x9c4), (0x9c7, 0x9c8), (0x9cb, 0x9ce),
    (0x9d7, 0x9d7), (0x9dc, 0x9dd), (0x9df, 0x9e3), (0x9e6, 0x9fe)]⟩,
  ⟨["bhks", "bhaiksuki"], [
    (0x11c00, 0x11c08), (0x11c0a, 0x11c36), (0x11c38, 0x11c45), (0x11c50, 0x11c6c)]⟩,
  ⟨["bopo", "bopomofo"], [(0x2ea, 0x2eb), (0x3105, 0x312f), (0x31a0, 0x31bf)]⟩,
  ⟨["brah", "brahmi"], [(0x11000, 0x1104d), (0x11052, 0x11075), (0x1107f, 0x1107f)]⟩,
  ⟨["brai", "braille"], [(0x2800, 0x28ff)]⟩,
  ⟨["bugi", "buginese"], [(0x1a00, 0x1a1b), (0x1a1e, 0x1a1f)]⟩,
  ⟨["buhd", "buhid"], [(0x1740, 0x1753)]⟩,
  ⟨["cans", "canadianaboriginal"], [(0x1400, 0x167f), (0x18b0, 0x18f5), (0x11ab0, 0x11abf)]⟩,
  ⟨["cari", "carian"], [(0x102a0, 0x102d0)]⟩,
  ⟨["aghb", "caucasianalbanian"], [(0x10530, 0x10563), (0x1056f, 0x1056f)]⟩,
  ⟨["cakm", "chakma"], [(0x11100, 0x11134), (0x11136, 0x11147)]⟩,
  ⟨["cham"], [(0xaa00, 0xaa36), (0xaa40, 0xaa4d), (0xaa50, 0xaa59), (0xaa5c, 0xaa5f)]⟩,
  ⟨["cher", "cherokee"], [(0x13a0, 0x13f5), (0x13f8, 0x13fd), (0xab70, 0xabbf)]⟩,
  ⟨["chrs", "chorasmian"], [(0x10fb0, 0x10fcb)]⟩,
  ⟨["zyyy", "common"], [
    (0x0, 0x40), (0x5b, 0x60), (0x7b, 0xa9), (0xab, 0xb9), (0xbb, 0xbf), (0xd7, 0xd7),
    (0xf7, 0xf7), (0x2b9, 0x2df), (0x2e5, 0x2e9), (0x2ec, 0x2ff), (0x374, 0x374),
    (0x37e, 0x37e), (0x385, 0x385), (0x387, 0x387), (0x605, 0x605), (0x60c, 0x60c),
    (0x61b, 0x61b), (0x61f, 0x61f), (0x640, 0x640), (0x6dd, 0x6dd), (0x8e2, 0x8e2),
    (0x964, 0x965), (0xe3f, 0xe3f), (0xfd5, 0xfd8), (0x10fb, 0x10fb), (0x16eb, 0x16ed),
    (0x1735, 0x1736), (0x1802, 0x1803), (0x1805, 0x1805), (0x1cd3, 0x1cd3), (0x1ce1, 0x1ce1),
    (0x1ce9, 0x1cec), (0x1cee, 0x1cf3), (0x1cf5, 0x1cf7), (0x1cfa, 0x1cfa), (0x2000, 0x200b),
    (0x200e, 0x2064), (0x2066, 0x2070), (0x2074, 0x207e), (0x2080, 0x208e), (0x20a0, 0x20c0),
    (0x2100, 0x2125), (0x2127, 0x2129), (0x212c, 0x2131), (0x2133, 0x214d), (0x214f, 0x215f),
    (0x2189, 0x218b), (0x2190, 0x2429), (0x2440, 0x244a), (0x2460, 0x27ff), (0x2900, 0x2b73),
    (0x2b76, 0x2b95), (0x2b97, 0x2bff), (0x2e00, 0x2e5d), (0x2ff0, 0x3004), (0x3006, 0x3006),
    (0x3008, 0x3020), (0x3030, 0x3037), (0x303c, 0x303f), (0x309b, 0x309c), (0x30a0, 0x30a0),
    (0x30fb, 0x30fc), (0x3190, 0x319f), (0x31c0, 0x31e5), (0x31ef, 0x31ef), (0x3220, 0x325f),
    (0x327f, 0x32cf), (0x32ff, 0x32ff), (0x3358, 0x33ff), (0x4dc0, 0x4dff), (0xa700, 0xa721),
    (0xa788, 0xa78a), (0xa830, 0xa839), (0xa92e, 0xa92e), (0xa9cf, 0xa9cf), (0xab5b, 0xab5b),
    (0xab6a, 0xab6b), (0xfd3e, 0xfd3f), (0xfe10, 0xfe19), (0xfe30, 0xfe52), (0xfe54, 0xfe66),
    (0xfe68, 0xfe6b), (0xfeff, 0xfeff), (0xff01, 0xff20), (0xff3b, 0xff40), (0xff5b, 0xff65),
    (0xff70, 0xff70), (0xff9e, 0xff9f), (0xffe0, 0xffe6), (0xffe8, 0xffee), (0xfff9, 0xfffd),
    (0x10100, 0x10102), (0x10107, 0x10133), (0x10137, 0x1013f), (0x10190, 0x1019c),
    (0x101d0, 0x101fc), (0x102e1, 0x102fb), (0x1bca0, 0x1bca3), (0x1cc00, 0x1ccf9),
    (0x1cd00, 0x1ceb3), (0x1cf50, 0x1cfc3), (0x1d000, 0x1d0f5), (0x1d100, 0x1d126),
    (0x1d129, 0x1d166), (0x1d16a, 0x1d17a), (0x1d183, 0x1d184), (0x1d18c, 0x1d1a9),
    (0x1d1ae, 0x1d1ea), (0x1d2c0, 0x1d2d3), (0x1d2e0, 0x1d2f3), (0x1d300, 0x1d356),
    (0x1d360, 0x1d378), (0x1d400, 0x1d454), (0x1d456, 0x1d49c), (0x1d49e, 0x1d49f),
    (0x1d4a2, 0x1d4a2), (0x1d4a5, 0x1d4a6), (0x1d4a9, 0x1d4ac), (0x1d4ae, 0x1d4b9),
    (0x1d4bb, 0x1d4bb), (0x1d4bd, 0x1d4c3), (0x1d4c5, 0x1d505), (0x1d507, 0x1d50a),
    (0x1d50d, 0x1d514), (0x1d516, 0x1d51c), (0x1d51e, 0x1d539), (0x1d53b, 0x1d53e),
    (0x1d540, 0x1d544), (0x1d546, 0x1d546), (0x1d54a, 0x1d550), (0x1d552, 0x1d6a5),
    (0x1d6a8, 0x1d7cb), (0x1d7ce, 0x1d7ff), (0x1ec71, 0x1ecb4), (0x1ed01, 0x1ed3d),
    (0x1f000, 0x1f02b), (0x1f030, 0x1f093), (0x1f0a0, 0x1f0ae), (0x1f0b1, 0x1f0bf),
    (0x1f0c1, 0x1f0cf), (0x1f0d1, 0x1f0f5), (0x1f100, 0x1f1ad), (0x1f1e6, 0x1f1ff),
    (0x1f201, 0x1f202), (0x1f210, 0x1f23b), (0x1f240, 0x1f248), (0x1f250, 0x1f251),
    (0x1f260, 0x1f265), (0x1f300, 0x1f6d7), (0x1f6dc, 0x1f6ec), (0x1f6f0, 0x1f6fc),
    (0x1f700, 0x1f776), (0x1f77b, 0x1f7d9), (0x1f7e0, 0x1f7eb), (0x1f7f0, 0x1f7f0),
    (0x1f800, 0x1f80b), (0x1f810, 0x1f847), (0x1f850, 0x1f859), (0x1f860, 0x1f887),
    (0x1f890, 0x1f8ad), (0x1f8b0, 0x1f8bb), (0x1f8c0, 0x1f8c1), (0x1f900, 0x1fa53),
    (0x1fa60, 0x1fa6d), (0x1fa70, 0x1fa7c), (0x1fa80, 0x1fa89), (0x1fa8f, 0x1fac6),
    (0x1face, 0x1fadc), (0x1fadf, 0x1fae9), (0x1faf0, 0x1faf8), (0x1fb00, 0x1fb92),
    (0x1fb94, 0x1fbf9), (0xe0001, 0xe0001), (0xe0020, 0xe007f)]⟩,
  ⟨["copt", "coptic", "qaac"], [(0x3e2, 0x3ef), (0x2c80, 0x2cf3), (0x2cf9, 0x2cff)]⟩,
  ⟨["xsux", "cuneiform"], [
    (0x12000, 0x12399), (0x12400, 0x1246e), (0x12470, 0x12474), (0x12480, 0x12543)]⟩,
  ⟨["cprt", "cypriot"], [
    (0x10800, 0x10805), (0x10808, 0x10808), (0x1080a, 0x10835), (0x10837, 0x10838),
    (0x1083c, 0x1083c), (0x1083f, 0x1083f)]⟩,
  ⟨["cpmn", "cyprominoan"], [(0x12f90, 0x12ff2)]⟩,
  ⟨["cyrl", "cyrillic"], [
    (0x400, 0x484), (0x487, 0x52f), (0x1c80, 0x1c8a), (0x1d2b, 0x1d2b), (0x1d78, 0x1d78),
    (0x2de0, 0x2dff), (0xa640, 0xa69f), (0xfe2e, 0xfe2f), (0x1e030, 0x1e06d),
    (0x1e08f, 0x1e08f)]⟩]

end Descent.Unicode
