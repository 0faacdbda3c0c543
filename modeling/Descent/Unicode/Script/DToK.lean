import Descent.Unicode.NamedRanges

/-!
# Scripts from D to K

The characters of each script, under its short and its long name.
-/

namespace Descent.Unicode

/-- The scripts whose long names begin with a letter from `d` to `k`. -/
def scriptsDToK : List NamedRanges := [
  ⟨["dsrt", "deseret"], [(0x10400, 0x1044f)]⟩,
  ⟨["deva", "devanagari"], [
    (0x900, 0x950), (0x955, 0x963), (0x966, 0x97f), (0xa8e0, 0xa8ff), (0x11b00, 0x11b09)]⟩,
  ⟨["diak", "divesakuru"], [
    (0x11900, 0x11906), (0x11909, 0x11909), (0x1190c, 0x11913), (0x11915, 0x11916),
    (0x11918, 0x11935), (0x11937, 0x11938), (0x1193b, 0x11946), (0x11950, 0x11959)]⟩,
  ⟨["dogr", "dogra"], [(0x11800, 0x1183b)]⟩,
  ⟨["dupl", "duployan"], [
    (0x1bc00, 0x1bc6a), (0x1bc70, 0x1bc7c), (0x1bc80, 0x1bc88), (0x1bc90, 0x1bc99),
    (0x1bc9c, 0x1bc9f)]⟩,
  ⟨["egyp", "egyptianhieroglyphs"], [(0x13000, 0x13455), (0x13460, 0x143fa)]⟩,
  ⟨["elba", "elbasan"], [(0x10500, 0x10527)]⟩,
  ⟨["elym", "elymaic"], [(0x10fe0, 0x10ff6)]⟩,
  ⟨["ethi", "ethiopic"], [
    (0x1200, 0x1248), (0x124a, 0x124d), (0x1250, 0x1256), (0x1258, 0x1258), (0x125a, 0x125d),
    (0x1260, 0x1288), (0x128a, 0x128d), (0x1290, 0x12b0), (0x12b2, 0x12b5), (0x12b8, 0x12be),
    (0x12c0, 0x12c0), (0x12c2, 0x12c5), (0x12c8, 0x12d6), (0x12d8, 0x1310), (0x1312, 0x1315),
    (0x1318, 0x135a), (0x135d, 0x137c), (0x1380, 0x1399), (0x2d80, 0x2d96), (0x2da0, 0x2da6),
    (0x2da8, 0x2dae), (0x2db0, 0x2db6), (0x2db8, 0x2dbe), (0x2dc0, 0x2dc6), (0x2dc8, 0x2dce),
    (0x2dd0, 0x2dd6), (0x2dd8, 0x2dde), (0xab01, 0xab06), (0xab09, 0xab0e), (0xab11, 0xab16),
    (0xab20, 0xab26), (0xab28, 0xab2e), (0x1e7e0, 0x1e7e6), (0x1e7e8, 0x1e7eb),
    (0x1e7ed, 0x1e7ee), (0x1e7f0, 0x1e7fe)]⟩,
  ⟨["gara", "garay"], [(0x10d40, 0x10d65), (0x10d69, 0x10d85), (0x10d8e, 0x10d8f)]⟩,
  ⟨["geor", "georgian"], [
    (0x10a0, 0x10c5), (0x10c7, 0x10c7), (0x10cd, 0x10cd), (0x10d0, 0x10fa), (0x10fc, 0x10ff),
    (0x1c90, 0x1cba), (0x1cbd, 0x1cbf), (0x2d00, 0x2d25), (0x2d27, 0x2d27), (0x2d2d, 0x2d2d)]⟩,
  ⟨["glag", "glagolitic"], [
    (0x2c00, 0x2c5f), (0x1e000, 0x1e006), (0x1e008, 0x1e018), (0x1e01b, 0x1e021),
    (0x1e023, 0x1e024), (0x1e026, 0x1e02a)]⟩,
  ⟨["goth", "gothic"], [(0x10330, 0x1034a)]⟩,
  ⟨["gran", "grantha"], [
    (0x11300, 0x11303), (0x11305, 0x1130c), (0x1130f, 0x11310), (0x11313, 0x11328),
    (0x1132a, 0x11330), (0x11332, 0x11333), (0x11335, 0x11339), (0x1133c, 0x11344),
    (0x11347, 0x11348), (0x1134b, 0x1134d), (0x11350, 0x11350), (0x11357, 0x11357),
    (0x1135d, 0x11363), (0x11366, 0x1136c), (0x11370, 0x11374)]⟩,
  ⟨["grek", "greek"], [
    (0x370, 0x373), (0x375, 0x377), (0x37a, 0x37d), (0x37f, 0x37f), (0x384, 0x384),
    (0x386, 0x386), (0x388, 0x38a), (0x38c, 0x38c), (0x38e, 0x3a1), (0x3a3, 0x3e1),
    (0x3f0, 0x3ff), (0x1d26, 0x1d2a), (0x1d5d, 0x1d61), (0x1d66, 0x1d6a), (0x1dbf, 0x1dbf),
    (0x1f00, 0x1f15), (0x1f18, 0x1f1d), (0x1f20, 0x1f45), (0x1f48, 0x1f4d), (0x1f50, 0x1f57),
    (0x1f59, 0x1f59), (0x1f5b, 0x1f5b), (0x1f5d, 0x1f5d), (0x1f5f, 0x1f7d), (0x1f80, 0x1fb4),
    (0x1fb6, 0x1fc4), (0x1fc6, 0x1fd3), (0x1fd6, 0x1fdb), (0x1fdd, 0x1fef), (0x1ff2, 0x1ff4),
    (0x1ff6, 0x1ffe), (0x2126, 0x2126), (0xab65, 0xab65), (0x10140, 0x1018e),
    (0x101a0, 0x101a0), (0x1d200, 0x1d245)]⟩,
  ⟨["gujr", "gujarati"], [
    (0xa81, 0xa83), (0xa85, 0xa8d), (0xa8f, 0xa91), (0xa93, 0xaa8), (0xaaa, 0xab0),
    (0xab2, 0xab3), (0xab5, 0xab9), (0xabc, 0xac5), (0xac7, 0xac9), (0xacb, 0xacd),
    (0xad0, 0xad0), (0xae0, 0xae3), (0xae6, 0xaf1), (0xaf9, 0xaff)]⟩,
  ⟨["gong", "gunjalagondi"], [
    (0x11d60, 0x11d65), (0x11d67, 0x11d68), (0x11d6a, 0x11d8e), (0x11d90, 0x11d91),
    (0x11d93, 0x11d98), (0x11da0, 0x11da9)]⟩,
  ⟨["guru", "gurmukhi"], [
    (0xa01, 0xa03), (0xa05, 0xa0a), (0xa0f, 0xa10), (0xa13, 0xa28), (0xa2a, 0xa30),
    (0xa32, 0xa33), (0xa35, 0xa36), (0xa38, 0xa39), (0xa3c, 0xa3c), (0xa3e, 0xa42),
    (0xa47, 0xa48), (0xa4b, 0xa4d), (0xa51, 0xa51), (0xa59, 0xa5c), (0xa5e, 0xa5e),
    (0xa66, 0xa76)]⟩,
  ⟨["gukh", "gurungkhema"], [(0x16100, 0x16139)]⟩,
  ⟨["hani", "han"], [
    (0x2e80, 0x2e99), (0x2e9b, 0x2ef3), (0x2f00, 0x2fd5), (0x3005, 0x3005), (0x3007, 0x3007),
    (0x3021, 0x3029), (0x3038, 0x303b), (0x3400, 0x4dbf), (0x4e00, 0x9fff), (0xf900, 0xfa6d),
    (0xfa70, 0xfad9), (0x16fe2, 0x16fe3), (0x16ff0, 0x16ff1), (0x20000, 0x2a6df),
    (0x2a700, 0x2b739), (0x2b740, 0x2b81d), (0x2b820, 0x2cea1), (0x2ceb0, 0x2ebe0),
    (0x2ebf0, 0x2ee5d), (0x2f800, 0x2fa1d), (0x30000, 0x3134a), (0x31350, 0x323af)]⟩,
  ⟨["hang", "hangul"], [
    (0x1100, 0x11ff), (0x302e, 0x302f), (0x3131, 0x318e), (0x3200, 0x321e), (0x3260, 0x327e),
    (0xa960, 0xa97c), (0xac00, 0xd7a3), (0xd7b0, 0xd7c6), (0xd7cb, 0xd7fb), (0xffa0, 0xffbe),
    (0xffc2, 0xffc7), (0xffca, 0xffcf), (0xffd2, 0xffd7), (0xffda, 0xffdc)]⟩,
  ⟨["rohg", "hanifirohingya"], [(0x10d00, 0x10d27), (0x10d30, 0x10d39)]⟩,
  ⟨["hano", "hanunoo"], [(0x1720, 0x1734)]⟩,
  ⟨["hatr", "hatran"], [(0x108e0, 0x108f2), (0x108f4, 0x108f5), (0x108fb, 0x108ff)]⟩,
  ⟨["hebr", "hebrew"], [
    (0x591, 0x5c7), (0x5d0, 0x5ea), (0x5ef, 0x5f4), (0xfb1d, 0xfb36), (0xfb38, 0xfb3c),
    (0xfb3e, 0xfb3e), (0xfb40, 0xfb41), (0xfb43, 0xfb44), (0xfb46, 0xfb4f)]⟩,
  ⟨["hira", "hiragana"], [
    (0x3041, 0x3096), (0x309d, 0x309f), (0x1b001, 0x1b11f), (0x1b132, 0x1b132),
    (0x1b150, 0x1b152), (0x1f200, 0x1f200)]⟩,
  ⟨["armi", "imperialaramaic"], [(0x10840, 0x10855), (0x10857, 0x1085f)]⟩,
  ⟨["zinh", "inherited", "qaai"], [
    (0x300, 0x36f), (0x485, 0x486), (0x64b, 0x655), (0x670, 0x670), (0x951, 0x954),
    (0x1ab0, 0x1ace), (0x1cd0, 0x1cd2), (0x1cd4, 0x1ce0), (0x1ce2, 0x1ce8), (0x1ced, 0x1ced),
    (0x1cf4, 0x1cf4), (0x1cf8, 0x1cf9), (0x1dc0, 0x1dff), (0x200c, 0x200d), (0x20d0, 0x20f0),
    (0x302a, 0x302d), (0x3099, 0x309a), (0xfe00, 0xfe0f), (0xfe20, 0xfe2d),
    (0x101fd, 0x101fd), (0x102e0, 0x102e0), (0x1133b, 0x1133b), (0x1cf00, 0x1cf2d),
    (0x1cf30, 0x1cf46), (0x1d167, 0x1d169), (0x1d17b, 0x1d182), (0x1d185, 0x1d18b),
    (0x1d1aa, 0x1d1ad), (0xe0100, 0xe01ef)]⟩,
  ⟨["phli", "inscriptionalpahlavi"], [(0x10b60, 0x10b72), (0x10b78, 0x10b7f)]⟩,
  ⟨["prti", "inscriptionalparthian"], [(0x10b40, 0x10b55), (0x10b58, 0x10b5f)]⟩,
  ⟨["java", "javanese"], [(0xa980, 0xa9cd), (0xa9d0, 0xa9d9), (0xa9de, 0xa9df)]⟩,
  ⟨["kthi", "kaithi"], [(0x11080, 0x110c2), (0x110cd, 0x110cd)]⟩,
  ⟨["knda", "kannada"], [
    (0xc80, 0xc8c), (0xc8e, 0xc90), (0xc92, 0xca8), (0xcaa, 0xcb3), (0xcb5, 0xcb9),
    (0xcbc, 0xcc4), (0xcc6, 0xcc8), (0xcca, 0xccd), (0xcd5, 0xcd6), (0xcdd, 0xcde),
    (0xce0, 0xce3), (0xce6, 0xcef), (0xcf1, 0xcf3)]⟩,
  ⟨["kana", "katakana"], [
    (0x30a1, 0x30fa), (0x30fd, 0x30ff), (0x31f0, 0x31ff), (0x32d0, 0x32fe), (0x3300, 0x3357),
    (0xff66, 0xff6f), (0xff71, 0xff9d), (0x1aff0, 0x1aff3), (0x1aff5, 0x1affb),
    (0x1affd, 0x1affe), (0x1b000, 0x1b000), (0x1b120, 0x1b122), (0x1b155, 0x1b155),
    (0x1b164, 0x1b167)]⟩,
  ⟨["kawi"], [(0x11f00, 0x11f10), (0x11f12, 0x11f3a), (0x11f3e, 0x11f5a)]⟩,
  ⟨["kali", "kayahli"], [(0xa900, 0xa92d), (0xa92f, 0xa92f)]⟩,
  ⟨["khar", "kharoshthi"], [
    (0x10a00, 0x10a03), (0x10a05, 0x10a06), (0x10a0c, 0x10a13), (0x10a15, 0x10a17),
    (0x10a19, 0x10a35), (0x10a38, 0x10a3a), (0x10a3f, 0x10a48), (0x10a50, 0x10a58)]⟩,
  ⟨["kits", "khitansmallscript"], [(0x16fe4, 0x16fe4), (0x18b00, 0x18cd5), (0x18cff, 0x18cff)]⟩,
  ⟨["khmr", "khmer"], [(0x1780, 0x17dd), (0x17e0, 0x17e9), (0x17f0, 0x17f9), (0x19e0, 0x19ff)]⟩,
  ⟨["khoj", "khojki"], [(0x11200, 0x11211), (0x11213, 0x11241)]⟩,
  ⟨["sind", "khudawadi"], [(0x112b0, 0x112ea), (0x112f0, 0x112f9)]⟩,
  ⟨["krai", "kiratrai"], [(0x16d40, 0x16d79)]⟩]

end Descent.Unicode
