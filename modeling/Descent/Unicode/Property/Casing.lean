import Descent.Unicode.Ranges

/-!
# Characters that change with case

Changes of case that simple case folding does not show.
-/

namespace Descent.Unicode

/-- Characters that become several ones, or an unrelated one, in upper case. -/
def expandedByUppercase : Ranges := [
  (0x131, 0x131), (0x149, 0x149), (0x1f0, 0x1f0), (0x587, 0x587), (0x1e96, 0x1e9a),
  (0x1f50, 0x1f50), (0x1f52, 0x1f52), (0x1f54, 0x1f54), (0x1f56, 0x1f56), (0x1fb2, 0x1fb2),
  (0x1fb4, 0x1fb4), (0x1fb6, 0x1fb7), (0x1fc2, 0x1fc2), (0x1fc4, 0x1fc4), (0x1fc6, 0x1fc7),
  (0x1fd2, 0x1fd2), (0x1fd6, 0x1fd7), (0x1fe2, 0x1fe2), (0x1fe4, 0x1fe4), (0x1fe6, 0x1fe7),
  (0x1ff2, 0x1ff2), (0x1ff4, 0x1ff4), (0x1ff6, 0x1ff7), (0xfb00, 0xfb04), (0xfb13, 0xfb17)]

/-- Characters that full case folding changes and simple case folding does not. -/
def expandedByFolding : Ranges := [
  (0xdf, 0xdf), (0x130, 0x130), (0x149, 0x149), (0x587, 0x587), (0x1e9a, 0x1e9a),
  (0x1f80, 0x1f87), (0x1f90, 0x1f97), (0x1fa0, 0x1fa7), (0x1fb2, 0x1fb4), (0x1fb7, 0x1fb7),
  (0x1fc2, 0x1fc4), (0x1fc7, 0x1fc7), (0x1ff2, 0x1ff4), (0x1ff7, 0x1ff7), (0xfb00, 0xfb04),
  (0xfb06, 0xfb06), (0xfb13, 0xfb17)]

/-- Characters that only compatibility mappings change when case is folded. -/
def changedByCompatibility : Ranges := [
  (0xa0, 0xa0), (0xa8, 0xa8), (0xaa, 0xaa), (0xad, 0xad), (0xaf, 0xaf), (0xb2, 0xb4),
  (0xb8, 0xba), (0xbc, 0xbe), (0x133, 0x133), (0x140, 0x140), (0x1c6, 0x1c6), (0x1c9, 0x1c9),
  (0x1cc, 0x1cc), (0x1f3, 0x1f3), (0x2b0, 0x2b8), (0x2d8, 0x2dd), (0x2e0, 0x2e4), (0x340, 0x341),
  (0x343, 0x344), (0x34f, 0x34f), (0x374, 0x374), (0x37a, 0x37a), (0x37e, 0x37e), (0x384, 0x385),
  (0x387, 0x387), (0x3d2, 0x3d4), (0x3f2, 0x3f2), (0x61c, 0x61c), (0x675, 0x678), (0x958, 0x95f),
  (0x9dc, 0x9dd), (0x9df, 0x9df), (0xa33, 0xa33), (0xa36, 0xa36), (0xa59, 0xa5b), (0xa5e, 0xa5e),
  (0xb5c, 0xb5d), (0xe33, 0xe33), (0xeb3, 0xeb3), (0xedc, 0xedd), (0xf0c, 0xf0c), (0xf43, 0xf43),
  (0xf4d, 0xf4d), (0xf52, 0xf52), (0xf57, 0xf57), (0xf5c, 0xf5c), (0xf69, 0xf69), (0xf73, 0xf73),
  (0xf75, 0xf79), (0xf81, 0xf81), (0xf93, 0xf93), (0xf9d, 0xf9d), (0xfa2, 0xfa2), (0xfa7, 0xfa7),
  (0xfac, 0xfac), (0xfb9, 0xfb9), (0x10fc, 0x10fc), (0x115f, 0x1160), (0x17b4, 0x17b5),
  (0x180b, 0x180f), (0x1d2c, 0x1d2e), (0x1d30, 0x1d3a), (0x1d3c, 0x1d4d), (0x1d4f, 0x1d6a),
  (0x1d78, 0x1d78), (0x1d9b, 0x1dbf), (0x1f71, 0x1f71), (0x1f73, 0x1f73), (0x1f75, 0x1f75),
  (0x1f77, 0x1f77), (0x1f79, 0x1f79), (0x1f7b, 0x1f7b), (0x1f7d, 0x1f7d), (0x1fbd, 0x1fc1),
  (0x1fcd, 0x1fcf), (0x1fd3, 0x1fd3), (0x1fdd, 0x1fdf), (0x1fe3, 0x1fe3), (0x1fed, 0x1fef),
  (0x1ffd, 0x1ffe), (0x2000, 0x200f), (0x2011, 0x2011), (0x2017, 0x2017), (0x2024, 0x2026),
  (0x202a, 0x202f), (0x2033, 0x2034), (0x2036, 0x2037), (0x203c, 0x203c), (0x203e, 0x203e),
  (0x2047, 0x2049), (0x2057, 0x2057), (0x205f, 0x2071), (0x2074, 0x208e), (0x2090, 0x209c),
  (0x20a8, 0x20a8), (0x2100, 0x2103), (0x2105, 0x2107), (0x2109, 0x2113), (0x2115, 0x2116),
  (0x2119, 0x211d), (0x2120, 0x2122), (0x2124, 0x2124), (0x2128, 0x2128), (0x212c, 0x212d),
  (0x212f, 0x2131), (0x2133, 0x2139), (0x213b, 0x2140), (0x2145, 0x2149), (0x2150, 0x215f),
  (0x2170, 0x217f), (0x2189, 0x2189), (0x222c, 0x222d), (0x222f, 0x2230), (0x2329, 0x232a),
  (0x2460, 0x24b5), (0x24d0, 0x24ea), (0x2a0c, 0x2a0c), (0x2a74, 0x2a76), (0x2adc, 0x2adc),
  (0x2c7c, 0x2c7d), (0x2d6f, 0x2d6f), (0x2e9f, 0x2e9f), (0x2ef3, 0x2ef3), (0x2f00, 0x2fd5),
  (0x3000, 0x3000), (0x3036, 0x3036), (0x3038, 0x303a), (0x309b, 0x309c), (0x309f, 0x309f),
  (0x30ff, 0x30ff), (0x3131, 0x318e), (0x3192, 0x319f), (0x3200, 0x321e), (0x3220, 0x3247),
  (0x3250, 0x327e), (0x3280, 0x33ff), (0xa69c, 0xa69d), (0xa770, 0xa770), (0xa7f2, 0xa7f4),
  (0xa7f8, 0xa7f9), (0xab5c, 0xab5f), (0xab69, 0xab69), (0xf900, 0xfa0d), (0xfa10, 0xfa10),
  (0xfa12, 0xfa12), (0xfa15, 0xfa1e), (0xfa20, 0xfa20), (0xfa22, 0xfa22), (0xfa25, 0xfa26),
  (0xfa2a, 0xfa6d), (0xfa70, 0xfad9), (0xfb1d, 0xfb1d), (0xfb1f, 0xfb36), (0xfb38, 0xfb3c),
  (0xfb3e, 0xfb3e), (0xfb40, 0xfb41), (0xfb43, 0xfb44), (0xfb46, 0xfbb1), (0xfbd3, 0xfd3d),
  (0xfd50, 0xfd8f), (0xfd92, 0xfdc7), (0xfdf0, 0xfdfc), (0xfe00, 0xfe19), (0xfe30, 0xfe44),
  (0xfe47, 0xfe52), (0xfe54, 0xfe66), (0xfe68, 0xfe6b), (0xfe70, 0xfe72), (0xfe74, 0xfe74),
  (0xfe76, 0xfefc), (0xfeff, 0xfeff), (0xff01, 0xff20), (0xff3b, 0xffbe), (0xffc2, 0xffc7),
  (0xffca, 0xffcf), (0xffd2, 0xffd7), (0xffda, 0xffdc), (0xffe0, 0xffe6), (0xffe8, 0xffee),
  (0xfff0, 0xfff8), (0x10781, 0x10785), (0x10787, 0x107b0), (0x107b2, 0x107ba),
  (0x1bca0, 0x1bca3), (0x1ccd6, 0x1ccf9), (0x1d15e, 0x1d164), (0x1d173, 0x1d17a),
  (0x1d1bb, 0x1d1c0), (0x1d400, 0x1d454), (0x1d456, 0x1d49c), (0x1d49e, 0x1d49f),
  (0x1d4a2, 0x1d4a2), (0x1d4a5, 0x1d4a6), (0x1d4a9, 0x1d4ac), (0x1d4ae, 0x1d4b9),
  (0x1d4bb, 0x1d4bb), (0x1d4bd, 0x1d4c3), (0x1d4c5, 0x1d505), (0x1d507, 0x1d50a),
  (0x1d50d, 0x1d514), (0x1d516, 0x1d51c), (0x1d51e, 0x1d539), (0x1d53b, 0x1d53e),
  (0x1d540, 0x1d544), (0x1d546, 0x1d546), (0x1d54a, 0x1d550), (0x1d552, 0x1d6a5),
  (0x1d6a8, 0x1d7cb), (0x1d7ce, 0x1d7ff), (0x1e030, 0x1e06d), (0x1ee00, 0x1ee03),
  (0x1ee05, 0x1ee1f), (0x1ee21, 0x1ee22), (0x1ee24, 0x1ee24), (0x1ee27, 0x1ee27),
  (0x1ee29, 0x1ee32), (0x1ee34, 0x1ee37), (0x1ee39, 0x1ee39), (0x1ee3b, 0x1ee3b),
  (0x1ee42, 0x1ee42), (0x1ee47, 0x1ee47), (0x1ee49, 0x1ee49), (0x1ee4b, 0x1ee4b),
  (0x1ee4d, 0x1ee4f), (0x1ee51, 0x1ee52), (0x1ee54, 0x1ee54), (0x1ee57, 0x1ee57),
  (0x1ee59, 0x1ee59), (0x1ee5b, 0x1ee5b), (0x1ee5d, 0x1ee5d), (0x1ee5f, 0x1ee5f),
  (0x1ee61, 0x1ee62), (0x1ee64, 0x1ee64), (0x1ee67, 0x1ee6a), (0x1ee6c, 0x1ee72),
  (0x1ee74, 0x1ee77), (0x1ee79, 0x1ee7c), (0x1ee7e, 0x1ee7e), (0x1ee80, 0x1ee89),
  (0x1ee8b, 0x1ee9b), (0x1eea1, 0x1eea3), (0x1eea5, 0x1eea9), (0x1eeab, 0x1eebb),
  (0x1f100, 0x1f10a), (0x1f110, 0x1f12e), (0x1f130, 0x1f14f), (0x1f16a, 0x1f16c),
  (0x1f190, 0x1f190), (0x1f200, 0x1f202), (0x1f210, 0x1f23b), (0x1f240, 0x1f248),
  (0x1f250, 0x1f251), (0x1fbf0, 0x1fbf9), (0x2f800, 0x2fa1d), (0xe0000, 0xe0fff)]

end Descent.Unicode
