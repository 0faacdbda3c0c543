import Descent.Unicode.NamedRanges

/-!
# Listed properties from A to F

Binary properties that are no more than a list of characters, each under its short and its long
name.
-/

namespace Descent.Unicode

/-- Skin tones. -/
def emojiModifiers : Ranges := [
  (0x1f3fb, 0x1f3ff)]

/-- The listed properties whose long names begin with a letter from `a` to `f`. -/
def propertiesAToF : List NamedRanges := [
  ⟨["ahex", "asciihexdigit"], [(0x30, 0x39), (0x41, 0x46), (0x61, 0x66)]⟩,
  ⟨["bidic", "bidicontrol"], [
    (0x61c, 0x61c), (0x200e, 0x200f), (0x202a, 0x202e), (0x2066, 0x2069)]⟩,
  ⟨["bidim", "bidimirrored"], [
    (0x28, 0x29), (0x3c, 0x3c), (0x3e, 0x3e), (0x5b, 0x5b), (0x5d, 0x5d), (0x7b, 0x7b),
    (0x7d, 0x7d), (0xab, 0xab), (0xbb, 0xbb), (0xf3a, 0xf3d), (0x169b, 0x169c),
    (0x2039, 0x203a), (0x2045, 0x2046), (0x207d, 0x207e), (0x208d, 0x208e), (0x2140, 0x2140),
    (0x2201, 0x2204), (0x2208, 0x220d), (0x2211, 0x2211), (0x2215, 0x2216), (0x221a, 0x221d),
    (0x221f, 0x2222), (0x2224, 0x2224), (0x2226, 0x2226), (0x222b, 0x2233), (0x2239, 0x2239),
    (0x223b, 0x224c), (0x2252, 0x2255), (0x225f, 0x2260), (0x2262, 0x2262), (0x2264, 0x226b),
    (0x226e, 0x228c), (0x228f, 0x2292), (0x2298, 0x2298), (0x22a2, 0x22a3), (0x22a6, 0x22b8),
    (0x22be, 0x22bf), (0x22c9, 0x22cd), (0x22d0, 0x22d1), (0x22d6, 0x22ed), (0x22f0, 0x22ff),
    (0x2308, 0x230b), (0x2320, 0x2321), (0x2329, 0x232a), (0x2768, 0x2775), (0x27c0, 0x27c0),
    (0x27c3, 0x27c6), (0x27c8, 0x27c9), (0x27cb, 0x27cd), (0x27d3, 0x27d6), (0x27dc, 0x27de),
    (0x27e2, 0x27ef), (0x2983, 0x2998), (0x299b, 0x29a0), (0x29a2, 0x29af), (0x29b8, 0x29b8),
    (0x29c0, 0x29c5), (0x29c9, 0x29c9), (0x29ce, 0x29d2), (0x29d4, 0x29d5), (0x29d8, 0x29dc),
    (0x29e1, 0x29e1), (0x29e3, 0x29e5), (0x29e8, 0x29e9), (0x29f4, 0x29f9), (0x29fc, 0x29fd),
    (0x2a0a, 0x2a1c), (0x2a1e, 0x2a21), (0x2a24, 0x2a24), (0x2a26, 0x2a26), (0x2a29, 0x2a29),
    (0x2a2b, 0x2a2e), (0x2a34, 0x2a35), (0x2a3c, 0x2a3e), (0x2a57, 0x2a58), (0x2a64, 0x2a65),
    (0x2a6a, 0x2a6d), (0x2a6f, 0x2a70), (0x2a73, 0x2a74), (0x2a79, 0x2aa3), (0x2aa6, 0x2aad),
    (0x2aaf, 0x2ad6), (0x2adc, 0x2adc), (0x2ade, 0x2ade), (0x2ae2, 0x2ae6), (0x2aec, 0x2aee),
    (0x2af3, 0x2af3), (0x2af7, 0x2afb), (0x2afd, 0x2afd), (0x2bfe, 0x2bfe), (0x2e02, 0x2e05),
    (0x2e09, 0x2e0a), (0x2e0c, 0x2e0d), (0x2e1c, 0x2e1d), (0x2e20, 0x2e29), (0x2e55, 0x2e5c),
    (0x3008, 0x3011), (0x3014, 0x301b), (0xfe59, 0xfe5e), (0xfe64, 0xfe65), (0xff08, 0xff09),
    (0xff1c, 0xff1c), (0xff1e, 0xff1e), (0xff3b, 0xff3b), (0xff3d, 0xff3d), (0xff5b, 0xff5b),
    (0xff5d, 0xff5d), (0xff5f, 0xff60), (0xff62, 0xff63), (0x1d6db, 0x1d6db),
    (0x1d715, 0x1d715), (0x1d74f, 0x1d74f), (0x1d789, 0x1d789), (0x1d7c3, 0x1d7c3)]⟩,
  ⟨["dash"], [
    (0x2d, 0x2d), (0x58a, 0x58a), (0x5be, 0x5be), (0x1400, 0x1400), (0x1806, 0x1806),
    (0x2010, 0x2015), (0x2053, 0x2053), (0x207b, 0x207b), (0x208b, 0x208b), (0x2212, 0x2212),
    (0x2e17, 0x2e17), (0x2e1a, 0x2e1a), (0x2e3a, 0x2e3b), (0x2e40, 0x2e40), (0x2e5d, 0x2e5d),
    (0x301c, 0x301c), (0x3030, 0x3030), (0x30a0, 0x30a0), (0xfe31, 0xfe32), (0xfe58, 0xfe58),
    (0xfe63, 0xfe63), (0xff0d, 0xff0d), (0x10d6e, 0x10d6e), (0x10ead, 0x10ead)]⟩,
  ⟨["dep", "deprecated"], [
    (0x149, 0x149), (0x673, 0x673), (0xf77, 0xf77), (0xf79, 0xf79), (0x17a3, 0x17a4),
    (0x206a, 0x206f), (0x2329, 0x232a), (0xe0001, 0xe0001)]⟩,
  ⟨["dia", "diacritic"], [
    (0x5e, 0x5e), (0x60, 0x60), (0xa8, 0xa8), (0xaf, 0xaf), (0xb4, 0xb4), (0xb7, 0xb8),
    (0x2b0, 0x34e), (0x350, 0x357), (0x35d, 0x362), (0x374, 0x375), (0x37a, 0x37a),
    (0x384, 0x385), (0x483, 0x487), (0x559, 0x559), (0x591, 0x5a1), (0x5a3, 0x5bd),
    (0x5bf, 0x5bf), (0x5c1, 0x5c2), (0x5c4, 0x5c4), (0x64b, 0x652), (0x657, 0x658),
    (0x6df, 0x6e0), (0x6e5, 0x6e6), (0x6ea, 0x6ec), (0x730, 0x74a), (0x7a6, 0x7b0),
    (0x7eb, 0x7f5), (0x818, 0x819), (0x898, 0x89f), (0x8c9, 0x8d2), (0x8e3, 0x8fe),
    (0x93c, 0x93c), (0x94d, 0x94d), (0x951, 0x954), (0x971, 0x971), (0x9bc, 0x9bc),
    (0x9cd, 0x9cd), (0xa3c, 0xa3c), (0xa4d, 0xa4d), (0xabc, 0xabc), (0xacd, 0xacd),
    (0xafd, 0xaff), (0xb3c, 0xb3c), (0xb4d, 0xb4d), (0xb55, 0xb55), (0xbcd, 0xbcd),
    (0xc3c, 0xc3c), (0xc4d, 0xc4d), (0xcbc, 0xcbc), (0xccd, 0xccd), (0xd3b, 0xd3c),
    (0xd4d, 0xd4d), (0xdca, 0xdca), (0xe47, 0xe4c), (0xe4e, 0xe4e), (0xeba, 0xeba),
    (0xec8, 0xecc), (0xf18, 0xf19), (0xf35, 0xf35), (0xf37, 0xf37), (0xf39, 0xf39),
    (0xf3e, 0xf3f), (0xf82, 0xf84), (0xf86, 0xf87), (0xfc6, 0xfc6), (0x1037, 0x1037),
    (0x1039, 0x103a), (0x1063, 0x1064), (0x1069, 0x106d), (0x1087, 0x108d), (0x108f, 0x108f),
    (0x109a, 0x109b), (0x135d, 0x135f), (0x1714, 0x1715), (0x17c9, 0x17d3), (0x17dd, 0x17dd),
    (0x1939, 0x193b), (0x1a75, 0x1a7c), (0x1a7f, 0x1a7f), (0x1ab0, 0x1abe), (0x1ac1, 0x1acb),
    (0x1b34, 0x1b34), (0x1b44, 0x1b44), (0x1b6b, 0x1b73), (0x1baa, 0x1bab), (0x1c36, 0x1c37),
    (0x1c78, 0x1c7d), (0x1cd0, 0x1ce8), (0x1ced, 0x1ced), (0x1cf4, 0x1cf4), (0x1cf7, 0x1cf9),
    (0x1d2c, 0x1d6a), (0x1dc4, 0x1dcf), (0x1df5, 0x1dff), (0x1fbd, 0x1fbd), (0x1fbf, 0x1fc1),
    (0x1fcd, 0x1fcf), (0x1fdd, 0x1fdf), (0x1fed, 0x1fef), (0x1ffd, 0x1ffe), (0x2cef, 0x2cf1),
    (0x2e2f, 0x2e2f), (0x302a, 0x302f), (0x3099, 0x309c), (0x30fc, 0x30fc), (0xa66f, 0xa66f),
    (0xa67c, 0xa67d), (0xa67f, 0xa67f), (0xa69c, 0xa69d), (0xa6f0, 0xa6f1), (0xa700, 0xa721),
    (0xa788, 0xa78a), (0xa7f8, 0xa7f9), (0xa8c4, 0xa8c4), (0xa8e0, 0xa8f1), (0xa92b, 0xa92e),
    (0xa953, 0xa953), (0xa9b3, 0xa9b3), (0xa9c0, 0xa9c0), (0xa9e5, 0xa9e5), (0xaa7b, 0xaa7d),
    (0xaabf, 0xaac2), (0xaaf6, 0xaaf6), (0xab5b, 0xab5f), (0xab69, 0xab6b), (0xabec, 0xabed),
    (0xfb1e, 0xfb1e), (0xfe20, 0xfe2f), (0xff3e, 0xff3e), (0xff40, 0xff40), (0xff70, 0xff70),
    (0xff9e, 0xff9f), (0xffe3, 0xffe3), (0x102e0, 0x102e0), (0x10780, 0x10785),
    (0x10787, 0x107b0), (0x107b2, 0x107ba), (0x10ae5, 0x10ae6), (0x10d22, 0x10d27),
    (0x10d4e, 0x10d4e), (0x10d69, 0x10d6d), (0x10efd, 0x10eff), (0x10f46, 0x10f50),
    (0x10f82, 0x10f85), (0x11046, 0x11046), (0x11070, 0x11070), (0x110b9, 0x110ba),
    (0x11133, 0x11134), (0x11173, 0x11173), (0x111c0, 0x111c0), (0x111ca, 0x111cc),
    (0x11235, 0x11236), (0x112e9, 0x112ea), (0x1133c, 0x1133c), (0x1134d, 0x1134d),
    (0x11366, 0x1136c), (0x11370, 0x11374), (0x113ce, 0x113d0), (0x113d2, 0x113d3),
    (0x113e1, 0x113e2), (0x11442, 0x11442), (0x11446, 0x11446), (0x114c2, 0x114c3),
    (0x115bf, 0x115c0), (0x1163f, 0x1163f), (0x116b6, 0x116b7), (0x1172b, 0x1172b),
    (0x11839, 0x1183a), (0x1193d, 0x1193e), (0x11943, 0x11943), (0x119e0, 0x119e0),
    (0x11a34, 0x11a34), (0x11a47, 0x11a47), (0x11a99, 0x11a99), (0x11c3f, 0x11c3f),
    (0x11d42, 0x11d42), (0x11d44, 0x11d45), (0x11d97, 0x11d97), (0x11f5a, 0x11f5a),
    (0x13447, 0x13455), (0x1612f, 0x1612f), (0x16af0, 0x16af4), (0x16b30, 0x16b36),
    (0x16d6b, 0x16d6c), (0x16f8f, 0x16f9f), (0x16ff0, 0x16ff1), (0x1aff0, 0x1aff3),
    (0x1aff5, 0x1affb), (0x1affd, 0x1affe), (0x1cf00, 0x1cf2d), (0x1cf30, 0x1cf46),
    (0x1d167, 0x1d169), (0x1d16d, 0x1d172), (0x1d17b, 0x1d182), (0x1d185, 0x1d18b),
    (0x1d1aa, 0x1d1ad), (0x1e030, 0x1e06d), (0x1e130, 0x1e136), (0x1e2ae, 0x1e2ae),
    (0x1e2ec, 0x1e2ef), (0x1e5ee, 0x1e5ef), (0x1e8d0, 0x1e8d6), (0x1e944, 0x1e946),
    (0x1e948, 0x1e94a)]⟩,
  ⟨["emoji"], [
    (0x23, 0x23), (0x2a, 0x2a), (0x30, 0x39), (0xa9, 0xa9), (0xae, 0xae), (0x203c, 0x203c),
    (0x2049, 0x2049), (0x2122, 0x2122), (0x2139, 0x2139), (0x2194, 0x2199), (0x21a9, 0x21aa),
    (0x231a, 0x231b), (0x2328, 0x2328), (0x23cf, 0x23cf), (0x23e9, 0x23f3), (0x23f8, 0x23fa),
    (0x24c2, 0x24c2), (0x25aa, 0x25ab), (0x25b6, 0x25b6), (0x25c0, 0x25c0), (0x25fb, 0x25fe),
    (0x2600, 0x2604), (0x260e, 0x260e), (0x2611, 0x2611), (0x2614, 0x2615), (0x2618, 0x2618),
    (0x261d, 0x261d), (0x2620, 0x2620), (0x2622, 0x2623), (0x2626, 0x2626), (0x262a, 0x262a),
    (0x262e, 0x262f), (0x2638, 0x263a), (0x2640, 0x2640), (0x2642, 0x2642), (0x2648, 0x2653),
    (0x265f, 0x2660), (0x2663, 0x2663), (0x2665, 0x2666), (0x2668, 0x2668), (0x267b, 0x267b),
    (0x267e, 0x267f), (0x2692, 0x2697), (0x2699, 0x2699), (0x269b, 0x269c), (0x26a0, 0x26a1),
    (0x26a7, 0x26a7), (0x26aa, 0x26ab), (0x26b0, 0x26b1), (0x26bd, 0x26be), (0x26c4, 0x26c5),
    (0x26c8, 0x26c8), (0x26ce, 0x26cf), (0x26d1, 0x26d1), (0x26d3, 0x26d4), (0x26e9, 0x26ea),
    (0x26f0, 0x26f5), (0x26f7, 0x26fa), (0x26fd, 0x26fd), (0x2702, 0x2702), (0x2705, 0x2705),
    (0x2708, 0x270d), (0x270f, 0x270f), (0x2712, 0x2712), (0x2714, 0x2714), (0x2716, 0x2716),
    (0x271d, 0x271d), (0x2721, 0x2721), (0x2728, 0x2728), (0x2733, 0x2734), (0x2744, 0x2744),
    (0x2747, 0x2747), (0x274c, 0x274c), (0x274e, 0x274e), (0x2753, 0x2755), (0x2757, 0x2757),
    (0x2763, 0x2764), (0x2795, 0x2797), (0x27a1, 0x27a1), (0x27b0, 0x27b0), (0x27bf, 0x27bf),
    (0x2934, 0x2935), (0x2b05, 0x2b07), (0x2b1b, 0x2b1c), (0x2b50, 0x2b50), (0x2b55, 0x2b55),
    (0x3030, 0x3030), (0x303d, 0x303d), (0x3297, 0x3297), (0x3299, 0x3299),
    (0x1f004, 0x1f004), (0x1f0cf, 0x1f0cf), (0x1f170, 0x1f171), (0x1f17e, 0x1f17f),
    (0x1f18e, 0x1f18e), (0x1f191, 0x1f19a), (0x1f1e6, 0x1f1ff), (0x1f201, 0x1f202),
    (0x1f21a, 0x1f21a), (0x1f22f, 0x1f22f), (0x1f232, 0x1f23a), (0x1f250, 0x1f251),
    (0x1f300, 0x1f321), (0x1f324, 0x1f393), (0x1f396, 0x1f397), (0x1f399, 0x1f39b),
    (0x1f39e, 0x1f3f0), (0x1f3f3, 0x1f3f5), (0x1f3f7, 0x1f4fd), (0x1f4ff, 0x1f53d),
    (0x1f549, 0x1f54e), (0x1f550, 0x1f567), (0x1f56f, 0x1f570), (0x1f573, 0x1f57a),
    (0x1f587, 0x1f587), (0x1f58a, 0x1f58d), (0x1f590, 0x1f590), (0x1f595, 0x1f596),
    (0x1f5a4, 0x1f5a5), (0x1f5a8, 0x1f5a8), (0x1f5b1, 0x1f5b2), (0x1f5bc, 0x1f5bc),
    (0x1f5c2, 0x1f5c4), (0x1f5d1, 0x1f5d3), (0x1f5dc, 0x1f5de), (0x1f5e1, 0x1f5e1),
    (0x1f5e3, 0x1f5e3), (0x1f5e8, 0x1f5e8), (0x1f5ef, 0x1f5ef), (0x1f5f3, 0x1f5f3),
    (0x1f5fa, 0x1f64f), (0x1f680, 0x1f6c5), (0x1f6cb, 0x1f6d2), (0x1f6d5, 0x1f6d7),
    (0x1f6dc, 0x1f6e5), (0x1f6e9, 0x1f6e9), (0x1f6eb, 0x1f6ec), (0x1f6f0, 0x1f6f0),
    (0x1f6f3, 0x1f6fc), (0x1f7e0, 0x1f7eb), (0x1f7f0, 0x1f7f0), (0x1f90c, 0x1f93a),
    (0x1f93c, 0x1f945), (0x1f947, 0x1f9ff), (0x1fa70, 0x1fa7c), (0x1fa80, 0x1fa89),
    (0x1fa8f, 0x1fac6), (0x1face, 0x1fadc), (0x1fadf, 0x1fae9), (0x1faf0, 0x1faf8)]⟩,
  ⟨["ecomp", "emojicomponent"], [
    (0x23, 0x23), (0x2a, 0x2a), (0x30, 0x39), (0x200d, 0x200d), (0x20e3, 0x20e3),
    (0xfe0f, 0xfe0f), (0x1f1e6, 0x1f1ff), (0x1f3fb, 0x1f3ff), (0x1f9b0, 0x1f9b3),
    (0xe0020, 0xe007f)]⟩,
  ⟨["emod", "emojimodifier"], emojiModifiers⟩,
  ⟨["ebase", "emojimodifierbase"], [
    (0x261d, 0x261d), (0x26f9, 0x26f9), (0x270a, 0x270d), (0x1f385, 0x1f385),
    (0x1f3c2, 0x1f3c4), (0x1f3c7, 0x1f3c7), (0x1f3ca, 0x1f3cc), (0x1f442, 0x1f443),
    (0x1f446, 0x1f450), (0x1f466, 0x1f478), (0x1f47c, 0x1f47c), (0x1f481, 0x1f483),
    (0x1f485, 0x1f487), (0x1f48f, 0x1f48f), (0x1f491, 0x1f491), (0x1f4aa, 0x1f4aa),
    (0x1f574, 0x1f575), (0x1f57a, 0x1f57a), (0x1f590, 0x1f590), (0x1f595, 0x1f596),
    (0x1f645, 0x1f647), (0x1f64b, 0x1f64f), (0x1f6a3, 0x1f6a3), (0x1f6b4, 0x1f6b6),
    (0x1f6c0, 0x1f6c0), (0x1f6cc, 0x1f6cc), (0x1f90c, 0x1f90c), (0x1f90f, 0x1f90f),
    (0x1f918, 0x1f91f), (0x1f926, 0x1f926), (0x1f930, 0x1f939), (0x1f93c, 0x1f93e),
    (0x1f977, 0x1f977), (0x1f9b5, 0x1f9b6), (0x1f9b8, 0x1f9b9), (0x1f9bb, 0x1f9bb),
    (0x1f9cd, 0x1f9cf), (0x1f9d1, 0x1f9dd), (0x1fac3, 0x1fac5), (0x1faf0, 0x1faf8)]⟩,
  ⟨["epres", "emojipresentation"], [
    (0x231a, 0x231b), (0x23e9, 0x23ec), (0x23f0, 0x23f0), (0x23f3, 0x23f3), (0x25fd, 0x25fe),
    (0x2614, 0x2615), (0x2648, 0x2653), (0x267f, 0x267f), (0x2693, 0x2693), (0x26a1, 0x26a1),
    (0x26aa, 0x26ab), (0x26bd, 0x26be), (0x26c4, 0x26c5), (0x26ce, 0x26ce), (0x26d4, 0x26d4),
    (0x26ea, 0x26ea), (0x26f2, 0x26f3), (0x26f5, 0x26f5), (0x26fa, 0x26fa), (0x26fd, 0x26fd),
    (0x2705, 0x2705), (0x270a, 0x270b), (0x2728, 0x2728), (0x274c, 0x274c), (0x274e, 0x274e),
    (0x2753, 0x2755), (0x2757, 0x2757), (0x2795, 0x2797), (0x27b0, 0x27b0), (0x27bf, 0x27bf),
    (0x2b1b, 0x2b1c), (0x2b50, 0x2b50), (0x2b55, 0x2b55), (0x1f004, 0x1f004),
    (0x1f0cf, 0x1f0cf), (0x1f18e, 0x1f18e), (0x1f191, 0x1f19a), (0x1f1e6, 0x1f1ff),
    (0x1f201, 0x1f201), (0x1f21a, 0x1f21a), (0x1f22f, 0x1f22f), (0x1f232, 0x1f236),
    (0x1f238, 0x1f23a), (0x1f250, 0x1f251), (0x1f300, 0x1f320), (0x1f32d, 0x1f335),
    (0x1f337, 0x1f37c), (0x1f37e, 0x1f393), (0x1f3a0, 0x1f3ca), (0x1f3cf, 0x1f3d3),
    (0x1f3e0, 0x1f3f0), (0x1f3f4, 0x1f3f4), (0x1f3f8, 0x1f43e), (0x1f440, 0x1f440),
    (0x1f442, 0x1f4fc), (0x1f4ff, 0x1f53d), (0x1f54b, 0x1f54e), (0x1f550, 0x1f567),
    (0x1f57a, 0x1f57a), (0x1f595, 0x1f596), (0x1f5a4, 0x1f5a4), (0x1f5fb, 0x1f64f),
    (0x1f680, 0x1f6c5), (0x1f6cc, 0x1f6cc), (0x1f6d0, 0x1f6d2), (0x1f6d5, 0x1f6d7),
    (0x1f6dc, 0x1f6df), (0x1f6eb, 0x1f6ec), (0x1f6f4, 0x1f6fc), (0x1f7e0, 0x1f7eb),
    (0x1f7f0, 0x1f7f0), (0x1f90c, 0x1f93a), (0x1f93c, 0x1f945), (0x1f947, 0x1f9ff),
    (0x1fa70, 0x1fa7c), (0x1fa80, 0x1fa89), (0x1fa8f, 0x1fac6), (0x1face, 0x1fadc),
    (0x1fadf, 0x1fae9), (0x1faf0, 0x1faf8)]⟩,
  ⟨["extpict", "extendedpictographic"], [
    (0xa9, 0xa9), (0xae, 0xae), (0x203c, 0x203c), (0x2049, 0x2049), (0x2122, 0x2122),
    (0x2139, 0x2139), (0x2194, 0x2199), (0x21a9, 0x21aa), (0x231a, 0x231b), (0x2328, 0x2328),
    (0x2388, 0x2388), (0x23cf, 0x23cf), (0x23e9, 0x23f3), (0x23f8, 0x23fa), (0x24c2, 0x24c2),
    (0x25aa, 0x25ab), (0x25b6, 0x25b6), (0x25c0, 0x25c0), (0x25fb, 0x25fe), (0x2600, 0x2605),
    (0x2607, 0x2612), (0x2614, 0x2685), (0x2690, 0x2705), (0x2708, 0x2712), (0x2714, 0x2714),
    (0x2716, 0x2716), (0x271d, 0x271d), (0x2721, 0x2721), (0x2728, 0x2728), (0x2733, 0x2734),
    (0x2744, 0x2744), (0x2747, 0x2747), (0x274c, 0x274c), (0x274e, 0x274e), (0x2753, 0x2755),
    (0x2757, 0x2757), (0x2763, 0x2767), (0x2795, 0x2797), (0x27a1, 0x27a1), (0x27b0, 0x27b0),
    (0x27bf, 0x27bf), (0x2934, 0x2935), (0x2b05, 0x2b07), (0x2b1b, 0x2b1c), (0x2b50, 0x2b50),
    (0x2b55, 0x2b55), (0x3030, 0x3030), (0x303d, 0x303d), (0x3297, 0x3297), (0x3299, 0x3299),
    (0x1f000, 0x1f0ff), (0x1f10d, 0x1f10f), (0x1f12f, 0x1f12f), (0x1f16c, 0x1f171),
    (0x1f17e, 0x1f17f), (0x1f18e, 0x1f18e), (0x1f191, 0x1f19a), (0x1f1ad, 0x1f1e5),
    (0x1f201, 0x1f20f), (0x1f21a, 0x1f21a), (0x1f22f, 0x1f22f), (0x1f232, 0x1f23a),
    (0x1f23c, 0x1f23f), (0x1f249, 0x1f3fa), (0x1f400, 0x1f53d), (0x1f546, 0x1f64f),
    (0x1f680, 0x1f6ff), (0x1f774, 0x1f77f), (0x1f7d5, 0x1f7ff), (0x1f80c, 0x1f80f),
    (0x1f848, 0x1f84f), (0x1f85a, 0x1f85f), (0x1f888, 0x1f88f), (0x1f8ae, 0x1f8ff),
    (0x1f90c, 0x1f93a), (0x1f93c, 0x1f945), (0x1f947, 0x1faff), (0x1fc00, 0x1fffd)]⟩,
  ⟨["ext", "extender"], [
    (0xb7, 0xb7), (0x2d0, 0x2d1), (0x640, 0x640), (0x7fa, 0x7fa), (0xa71, 0xa71),
    (0xafb, 0xafb), (0xb55, 0xb55), (0xe46, 0xe46), (0xec6, 0xec6), (0x180a, 0x180a),
    (0x1843, 0x1843), (0x1aa7, 0x1aa7), (0x1c36, 0x1c36), (0x1c7b, 0x1c7b), (0x3005, 0x3005),
    (0x3031, 0x3035), (0x309d, 0x309e), (0x30fc, 0x30fe), (0xa015, 0xa015), (0xa60c, 0xa60c),
    (0xa9cf, 0xa9cf), (0xa9e6, 0xa9e6), (0xaa70, 0xaa70), (0xaadd, 0xaadd), (0xaaf3, 0xaaf4),
    (0xff70, 0xff70), (0x10781, 0x10782), (0x10d4e, 0x10d4e), (0x10d6a, 0x10d6a),
    (0x10d6f, 0x10d6f), (0x11237, 0x11237), (0x1135d, 0x1135d), (0x113d2, 0x113d3),
    (0x115c6, 0x115c8), (0x11a98, 0x11a98), (0x16b42, 0x16b43), (0x16fe0, 0x16fe1),
    (0x16fe3, 0x16fe3), (0x1e13c, 0x1e13d), (0x1e5ef, 0x1e5ef), (0x1e944, 0x1e946)]⟩]

end Descent.Unicode
