import Descent.Unicode.NamedRanges

/-!
# Scripts from L to O

The characters of each script, under its short and its long name.
-/

namespace Descent.Unicode

/-- The scripts whose long names begin with a letter from `l` to `o`. -/
def scriptsLToO : List NamedRanges := [
  ⟨["laoo", "lao"], [
    (0xe81, 0xe82), (0xe84, 0xe84), (0xe86, 0xe8a), (0xe8c, 0xea3), (0xea5, 0xea5),
    (0xea7, 0xebd), (0xec0, 0xec4), (0xec6, 0xec6), (0xec8, 0xece), (0xed0, 0xed9),
    (0xedc, 0xedf)]⟩,
  ⟨["latn", "latin"], [
    (0x41, 0x5a), (0x61, 0x7a), (0xaa, 0xaa), (0xba, 0xba), (0xc0, 0xd6), (0xd8, 0xf6),
    (0xf8, 0x2b8), (0x2e0, 0x2e4), (0x1d00, 0x1d25), (0x1d2c, 0x1d5c), (0x1d62, 0x1d65),
    (0x1d6b, 0x1d77), (0x1d79, 0x1dbe), (0x1e00, 0x1eff), (0x2071, 0x2071), (0x207f, 0x207f),
    (0x2090, 0x209c), (0x212a, 0x212b), (0x2132, 0x2132), (0x214e, 0x214e), (0x2160, 0x2188),
    (0x2c60, 0x2c7f), (0xa722, 0xa787), (0xa78b, 0xa7cd), (0xa7d0, 0xa7d1), (0xa7d3, 0xa7d3),
    (0xa7d5, 0xa7dc), (0xa7f2, 0xa7ff), (0xab30, 0xab5a), (0xab5c, 0xab64), (0xab66, 0xab69),
    (0xfb00, 0xfb06), (0xff21, 0xff3a), (0xff41, 0xff5a), (0x10780, 0x10785),
    (0x10787, 0x107b0), (0x107b2, 0x107ba), (0x1df00, 0x1df1e), (0x1df25, 0x1df2a)]⟩,
  ⟨["lepc", "lepcha"], [(0x1c00, 0x1c37), (0x1c3b, 0x1c49), (0x1c4d, 0x1c4f)]⟩,
  ⟨["limb", "limbu"], [
    (0x1900, 0x191e), (0x1920, 0x192b), (0x1930, 0x193b), (0x1940, 0x1940), (0x1944, 0x194f)]⟩,
  ⟨["lina", "lineara"], [(0x10600, 0x10736), (0x10740, 0x10755), (0x10760, 0x10767)]⟩,
  ⟨["linb", "linearb"], [
    (0x10000, 0x1000b), (0x1000d, 0x10026), (0x10028, 0x1003a), (0x1003c, 0x1003d),
    (0x1003f, 0x1004d), (0x10050, 0x1005d), (0x10080, 0x100fa)]⟩,
  ⟨["lisu"], [(0xa4d0, 0xa4ff), (0x11fb0, 0x11fb0)]⟩,
  ⟨["lyci", "lycian"], [(0x10280, 0x1029c)]⟩,
  ⟨["lydi", "lydian"], [(0x10920, 0x10939), (0x1093f, 0x1093f)]⟩,
  ⟨["mahj", "mahajani"], [(0x11150, 0x11176)]⟩,
  ⟨["maka", "makasar"], [(0x11ee0, 0x11ef8)]⟩,
  ⟨["mlym", "malayalam"], [
    (0xd00, 0xd0c), (0xd0e, 0xd10), (0xd12, 0xd44), (0xd46, 0xd48), (0xd4a, 0xd4f),
    (0xd54, 0xd63), (0xd66, 0xd7f)]⟩,
  ⟨["mand", "mandaic"], [(0x840, 0x85b), (0x85e, 0x85e)]⟩,
  ⟨["mani", "manichaean"], [(0x10ac0, 0x10ae6), (0x10aeb, 0x10af6)]⟩,
  ⟨["marc", "marchen"], [(0x11c70, 0x11c8f), (0x11c92, 0x11ca7), (0x11ca9, 0x11cb6)]⟩,
  ⟨["gonm", "masaramgondi"], [
    (0x11d00, 0x11d06), (0x11d08, 0x11d09), (0x11d0b, 0x11d36), (0x11d3a, 0x11d3a),
    (0x11d3c, 0x11d3d), (0x11d3f, 0x11d47), (0x11d50, 0x11d59)]⟩,
  ⟨["medf", "medefaidrin"], [(0x16e40, 0x16e9a)]⟩,
  ⟨["mtei", "meeteimayek"], [(0xaae0, 0xaaf6), (0xabc0, 0xabed), (0xabf0, 0xabf9)]⟩,
  ⟨["mend", "mendekikakui"], [(0x1e800, 0x1e8c4), (0x1e8c7, 0x1e8d6)]⟩,
  ⟨["merc", "meroiticcursive"], [(0x109a0, 0x109b7), (0x109bc, 0x109cf), (0x109d2, 0x109ff)]⟩,
  ⟨["mero", "meroitichieroglyphs"], [(0x10980, 0x1099f)]⟩,
  ⟨["plrd", "miao"], [(0x16f00, 0x16f4a), (0x16f4f, 0x16f87), (0x16f8f, 0x16f9f)]⟩,
  ⟨["modi"], [(0x11600, 0x11644), (0x11650, 0x11659)]⟩,
  ⟨["mong", "mongolian"], [
    (0x1800, 0x1801), (0x1804, 0x1804), (0x1806, 0x1819), (0x1820, 0x1878), (0x1880, 0x18aa),
    (0x11660, 0x1166c)]⟩,
  ⟨["mroo", "mro"], [(0x16a40, 0x16a5e), (0x16a60, 0x16a69), (0x16a6e, 0x16a6f)]⟩,
  ⟨["mult", "multani"], [
    (0x11280, 0x11286), (0x11288, 0x11288), (0x1128a, 0x1128d), (0x1128f, 0x1129d),
    (0x1129f, 0x112a9)]⟩,
  ⟨["mymr", "myanmar"], [
    (0x1000, 0x109f), (0xa9e0, 0xa9fe), (0xaa60, 0xaa7f), (0x116d0, 0x116e3)]⟩,
  ⟨["nbat", "nabataean"], [(0x10880, 0x1089e), (0x108a7, 0x108af)]⟩,
  ⟨["nagm", "nagmundari"], [(0x1e4d0, 0x1e4f9)]⟩,
  ⟨["nand", "nandinagari"], [(0x119a0, 0x119a7), (0x119aa, 0x119d7), (0x119da, 0x119e4)]⟩,
  ⟨["talu", "newtailue"], [
    (0x1980, 0x19ab), (0x19b0, 0x19c9), (0x19d0, 0x19da), (0x19de, 0x19df)]⟩,
  ⟨["newa"], [(0x11400, 0x1145b), (0x1145d, 0x11461)]⟩,
  ⟨["nkoo", "nko"], [(0x7c0, 0x7fa), (0x7fd, 0x7ff)]⟩,
  ⟨["nshu", "nushu"], [(0x16fe1, 0x16fe1), (0x1b170, 0x1b2fb)]⟩,
  ⟨["hmnp", "nyiakengpuachuehmong"], [
    (0x1e100, 0x1e12c), (0x1e130, 0x1e13d), (0x1e140, 0x1e149), (0x1e14e, 0x1e14f)]⟩,
  ⟨["ogam", "ogham"], [(0x1680, 0x169c)]⟩,
  ⟨["olck", "olchiki"], [(0x1c50, 0x1c7f)]⟩,
  ⟨["onao", "olonal"], [(0x1e5d0, 0x1e5fa), (0x1e5ff, 0x1e5ff)]⟩,
  ⟨["hung", "oldhungarian"], [(0x10c80, 0x10cb2), (0x10cc0, 0x10cf2), (0x10cfa, 0x10cff)]⟩,
  ⟨["ital", "olditalic"], [(0x10300, 0x10323), (0x1032d, 0x1032f)]⟩,
  ⟨["narb", "oldnortharabian"], [(0x10a80, 0x10a9f)]⟩,
  ⟨["perm", "oldpermic"], [(0x10350, 0x1037a)]⟩,
  ⟨["xpeo", "oldpersian"], [(0x103a0, 0x103c3), (0x103c8, 0x103d5)]⟩,
  ⟨["sogo", "oldsogdian"], [(0x10f00, 0x10f27)]⟩,
  ⟨["sarb", "oldsoutharabian"], [(0x10a60, 0x10a7f)]⟩,
  ⟨["orkh", "oldturkic"], [(0x10c00, 0x10c48)]⟩,
  ⟨["ougr", "olduyghur"], [(0x10f70, 0x10f89)]⟩,
  ⟨["orya", "oriya"], [
    (0xb01, 0xb03), (0xb05, 0xb0c), (0xb0f, 0xb10), (0xb13, 0xb28), (0xb2a, 0xb30),
    (0xb32, 0xb33), (0xb35, 0xb39), (0xb3c, 0xb44), (0xb47, 0xb48), (0xb4b, 0xb4d),
    (0xb55, 0xb57), (0xb5c, 0xb5d), (0xb5f, 0xb63), (0xb66, 0xb77)]⟩,
  ⟨["osge", "osage"], [(0x104b0, 0x104d3), (0x104d8, 0x104fb)]⟩,
  ⟨["osma", "osmanya"], [(0x10480, 0x1049d), (0x104a0, 0x104a9)]⟩]

end Descent.Unicode
