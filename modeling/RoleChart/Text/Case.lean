import RoleChart.Text.MapRun

/-!
# Capital and small letters

Case mapping of whole texts. A letter may map to several, and a capital sigma that ends a word
becomes the final sigma.

## Main statements

* `upper_of_ascii`, `lower_of_ascii` — on ASCII a text is mapped letter by letter
* `not_small_of_mem_upper` — capitals hold no small letter of ASCII
-/

namespace RoleChart.Text

/-- The mapping to small letters. -/
def lowerRuns : List MapRun := mapRuns
  "41-5A>61 C0-D6>E0 D8-DE>F8 100-12E/2>101 130>69,307 132-136/2>133 139-147/2>13A
    14A-176/2>14B 178>FF 179-17D/2>17A 181>253 182-184/2>183 186>254 187>188 189-18A>256 18B>18C
    18E>1DD 18F>259 190>25B 191>192 193>260 194>263 196>269 197>268 198>199 19C>26F 19D>272
    19F>275 1A0-1A4/2>1A1 1A6>280 1A7>1A8 1A9>283 1AC>1AD 1AE>288 1AF>1B0 1B1-1B2>28A
    1B3-1B5/2>1B4 1B7>292 1B8>1B9 1BC>1BD 1C4>1C6 1C5>1C6 1C7>1C9 1C8>1C9 1CA>1CC 1CB-1DB/2>1CC
    1DE-1EE/2>1DF 1F1>1F3 1F2-1F4/2>1F3 1F6>195 1F7>1BF 1F8-21E/2>1F9 220>19E 222-232/2>223
    23A>2C65 23B>23C 23D>19A 23E>2C66 241>242 243>180 244>289 245>28C 246-24E/2>247
    370-372/2>371 376>377 37F>3F3 386>3AC 388-38A>3AD 38C>3CC 38E-38F>3CD 391-3A1>3B1
    3A3-3AB>3C3 3CF>3D7 3D8-3EE/2>3D9 3F4>3B8 3F7>3F8 3F9>3F2 3FA>3FB 3FD-3FF>37B 400-40F>450
    410-42F>430 460-480/2>461 48A-4BE/2>48B 4C0>4CF 4C1-4CD/2>4C2 4D0-52E/2>4D1 531-556>561
    10A0-10C5>2D00 10C7>2D27 10CD>2D2D 13A0-13EF>AB70 13F0-13F5>13F8 1C89>1C8A 1C90-1CBA>10D0
    1CBD-1CBF>10FD 1E00-1E94/2>1E01 1E9E>DF 1EA0-1EFE/2>1EA1 1F08-1F0F>1F00 1F18-1F1D>1F10
    1F28-1F2F>1F20 1F38-1F3F>1F30 1F48-1F4D>1F40 1F59-1F5F/2>1F51 1F68-1F6F>1F60 1F88-1F8F>1F80
    1F98-1F9F>1F90 1FA8-1FAF>1FA0 1FB8-1FB9>1FB0 1FBA-1FBB>1F70 1FBC>1FB3 1FC8-1FCB>1F72
    1FCC>1FC3 1FD8-1FD9>1FD0 1FDA-1FDB>1F76 1FE8-1FE9>1FE0 1FEA-1FEB>1F7A 1FEC>1FE5
    1FF8-1FF9>1F78 1FFA-1FFB>1F7C 1FFC>1FF3 2126>3C9 212A>6B 212B>E5 2132>214E 2160-216F>2170
    2183>2184 24B6-24CF>24D0 2C00-2C2F>2C30 2C60>2C61 2C62>26B 2C63>1D7D 2C64>27D
    2C67-2C6B/2>2C68 2C6D>251 2C6E>271 2C6F>250 2C70>252 2C72>2C73 2C75>2C76 2C7E-2C7F>23F
    2C80-2CE2/2>2C81 2CEB-2CED/2>2CEC 2CF2>2CF3 A640-A66C/2>A641 A680-A69A/2>A681
    A722-A72E/2>A723 A732-A76E/2>A733 A779-A77B/2>A77A A77D>1D79 A77E-A786/2>A77F A78B>A78C
    A78D>265 A790-A792/2>A791 A796-A7A8/2>A797 A7AA>266 A7AB>25C A7AC>261 A7AD>26C A7AE>26A
    A7B0>29E A7B1>287 A7B2>29D A7B3>AB53 A7B4-A7C2/2>A7B5 A7C4>A794 A7C5>282 A7C6>1D8E
    A7C7-A7C9/2>A7C8 A7CB>264 A7CC-A7DA/2>A7CD A7DC>19B A7F5>A7F6 FF21-FF3A>FF41
    10400-10427>10428 104B0-104D3>104D8 10570-10594/2>10597 10571-10579/2>10598
    1057D-10589/2>105A4 1058D-10591/2>105B4 10595>105BC 10C80-10CB2>10CC0 10D50-10D65>10D70
    118A0-118BF>118C0 16E40-16E5F>16E60 16EA0-16EB8>16EBB 1E900-1E921>1E922"

/-- The mapping to capital letters. It is written out run by run, so that a property of all its images
can be decided. -/
def upperRuns : List MapRun := [
  ⟨0x61, 0x7A, 1, [0x41]⟩, ⟨0xB5, 0xB5, 1, [0x39C]⟩, ⟨0xDF, 0xDF, 1, [0x53, 0x53]⟩,
  ⟨0xE0, 0xF6, 1, [0xC0]⟩, ⟨0xF8, 0xFE, 1, [0xD8]⟩, ⟨0xFF, 0xFF, 1, [0x178]⟩,
  ⟨0x101, 0x12F, 2, [0x100]⟩, ⟨0x131, 0x131, 1, [0x49]⟩, ⟨0x133, 0x137, 2, [0x132]⟩,
  ⟨0x13A, 0x148, 2, [0x139]⟩, ⟨0x149, 0x149, 1, [0x2BC, 0x4E]⟩, ⟨0x14B, 0x177, 2, [0x14A]⟩,
  ⟨0x17A, 0x17E, 2, [0x179]⟩, ⟨0x17F, 0x17F, 1, [0x53]⟩, ⟨0x180, 0x180, 1, [0x243]⟩,
  ⟨0x183, 0x185, 2, [0x182]⟩, ⟨0x188, 0x188, 1, [0x187]⟩, ⟨0x18C, 0x18C, 1, [0x18B]⟩,
  ⟨0x192, 0x192, 1, [0x191]⟩, ⟨0x195, 0x195, 1, [0x1F6]⟩, ⟨0x199, 0x199, 1, [0x198]⟩,
  ⟨0x19A, 0x19A, 1, [0x23D]⟩, ⟨0x19B, 0x19B, 1, [0xA7DC]⟩, ⟨0x19E, 0x19E, 1, [0x220]⟩,
  ⟨0x1A1, 0x1A5, 2, [0x1A0]⟩, ⟨0x1A8, 0x1A8, 1, [0x1A7]⟩, ⟨0x1AD, 0x1AD, 1, [0x1AC]⟩,
  ⟨0x1B0, 0x1B0, 1, [0x1AF]⟩, ⟨0x1B4, 0x1B6, 2, [0x1B3]⟩, ⟨0x1B9, 0x1B9, 1, [0x1B8]⟩,
  ⟨0x1BD, 0x1BD, 1, [0x1BC]⟩, ⟨0x1BF, 0x1BF, 1, [0x1F7]⟩, ⟨0x1C5, 0x1C5, 1, [0x1C4]⟩,
  ⟨0x1C6, 0x1C6, 1, [0x1C4]⟩, ⟨0x1C8, 0x1C8, 1, [0x1C7]⟩, ⟨0x1C9, 0x1C9, 1, [0x1C7]⟩,
  ⟨0x1CB, 0x1CB, 1, [0x1CA]⟩, ⟨0x1CC, 0x1CC, 1, [0x1CA]⟩, ⟨0x1CE, 0x1DC, 2, [0x1CD]⟩,
  ⟨0x1DD, 0x1DD, 1, [0x18E]⟩, ⟨0x1DF, 0x1EF, 2, [0x1DE]⟩, ⟨0x1F0, 0x1F0, 1, [0x4A, 0x30C]⟩,
  ⟨0x1F2, 0x1F2, 1, [0x1F1]⟩, ⟨0x1F3, 0x1F3, 1, [0x1F1]⟩, ⟨0x1F5, 0x1F5, 1, [0x1F4]⟩,
  ⟨0x1F9, 0x21F, 2, [0x1F8]⟩, ⟨0x223, 0x233, 2, [0x222]⟩, ⟨0x23C, 0x23C, 1, [0x23B]⟩,
  ⟨0x23F, 0x240, 1, [0x2C7E]⟩, ⟨0x242, 0x242, 1, [0x241]⟩, ⟨0x247, 0x24F, 2, [0x246]⟩,
  ⟨0x250, 0x250, 1, [0x2C6F]⟩, ⟨0x251, 0x251, 1, [0x2C6D]⟩, ⟨0x252, 0x252, 1, [0x2C70]⟩,
  ⟨0x253, 0x253, 1, [0x181]⟩, ⟨0x254, 0x254, 1, [0x186]⟩, ⟨0x256, 0x257, 1, [0x189]⟩,
  ⟨0x259, 0x259, 1, [0x18F]⟩, ⟨0x25B, 0x25B, 1, [0x190]⟩, ⟨0x25C, 0x25C, 1, [0xA7AB]⟩,
  ⟨0x260, 0x260, 1, [0x193]⟩, ⟨0x261, 0x261, 1, [0xA7AC]⟩, ⟨0x263, 0x263, 1, [0x194]⟩,
  ⟨0x264, 0x264, 1, [0xA7CB]⟩, ⟨0x265, 0x265, 1, [0xA78D]⟩, ⟨0x266, 0x266, 1, [0xA7AA]⟩,
  ⟨0x268, 0x268, 1, [0x197]⟩, ⟨0x269, 0x269, 1, [0x196]⟩, ⟨0x26A, 0x26A, 1, [0xA7AE]⟩,
  ⟨0x26B, 0x26B, 1, [0x2C62]⟩, ⟨0x26C, 0x26C, 1, [0xA7AD]⟩, ⟨0x26F, 0x26F, 1, [0x19C]⟩,
  ⟨0x271, 0x271, 1, [0x2C6E]⟩, ⟨0x272, 0x272, 1, [0x19D]⟩, ⟨0x275, 0x275, 1, [0x19F]⟩,
  ⟨0x27D, 0x27D, 1, [0x2C64]⟩, ⟨0x280, 0x280, 1, [0x1A6]⟩, ⟨0x282, 0x282, 1, [0xA7C5]⟩,
  ⟨0x283, 0x283, 1, [0x1A9]⟩, ⟨0x287, 0x287, 1, [0xA7B1]⟩, ⟨0x288, 0x288, 1, [0x1AE]⟩,
  ⟨0x289, 0x289, 1, [0x244]⟩, ⟨0x28A, 0x28B, 1, [0x1B1]⟩, ⟨0x28C, 0x28C, 1, [0x245]⟩,
  ⟨0x292, 0x292, 1, [0x1B7]⟩, ⟨0x29D, 0x29D, 1, [0xA7B2]⟩, ⟨0x29E, 0x29E, 1, [0xA7B0]⟩,
  ⟨0x345, 0x345, 1, [0x399]⟩, ⟨0x371, 0x373, 2, [0x370]⟩, ⟨0x377, 0x377, 1, [0x376]⟩,
  ⟨0x37B, 0x37D, 1, [0x3FD]⟩, ⟨0x390, 0x390, 1, [0x399, 0x308, 0x301]⟩, ⟨0x3AC, 0x3AC, 1, [0x386]⟩,
  ⟨0x3AD, 0x3AF, 1, [0x388]⟩, ⟨0x3B0, 0x3B0, 1, [0x3A5, 0x308, 0x301]⟩, ⟨0x3B1, 0x3C1, 1, [0x391]⟩,
  ⟨0x3C2, 0x3C2, 1, [0x3A3]⟩, ⟨0x3C3, 0x3CB, 1, [0x3A3]⟩, ⟨0x3CC, 0x3CC, 1, [0x38C]⟩,
  ⟨0x3CD, 0x3CE, 1, [0x38E]⟩, ⟨0x3D0, 0x3D0, 1, [0x392]⟩, ⟨0x3D1, 0x3D1, 1, [0x398]⟩,
  ⟨0x3D5, 0x3D5, 1, [0x3A6]⟩, ⟨0x3D6, 0x3D6, 1, [0x3A0]⟩, ⟨0x3D7, 0x3D7, 1, [0x3CF]⟩,
  ⟨0x3D9, 0x3EF, 2, [0x3D8]⟩, ⟨0x3F0, 0x3F0, 1, [0x39A]⟩, ⟨0x3F1, 0x3F1, 1, [0x3A1]⟩,
  ⟨0x3F2, 0x3F2, 1, [0x3F9]⟩, ⟨0x3F3, 0x3F3, 1, [0x37F]⟩, ⟨0x3F5, 0x3F5, 1, [0x395]⟩,
  ⟨0x3F8, 0x3F8, 1, [0x3F7]⟩, ⟨0x3FB, 0x3FB, 1, [0x3FA]⟩, ⟨0x430, 0x44F, 1, [0x410]⟩,
  ⟨0x450, 0x45F, 1, [0x400]⟩, ⟨0x461, 0x481, 2, [0x460]⟩, ⟨0x48B, 0x4BF, 2, [0x48A]⟩,
  ⟨0x4C2, 0x4CE, 2, [0x4C1]⟩, ⟨0x4CF, 0x4CF, 1, [0x4C0]⟩, ⟨0x4D1, 0x52F, 2, [0x4D0]⟩,
  ⟨0x561, 0x586, 1, [0x531]⟩, ⟨0x587, 0x587, 1, [0x535, 0x552]⟩, ⟨0x10D0, 0x10FA, 1, [0x1C90]⟩,
  ⟨0x10FD, 0x10FF, 1, [0x1CBD]⟩, ⟨0x13F8, 0x13FD, 1, [0x13F0]⟩, ⟨0x1C80, 0x1C80, 1, [0x412]⟩,
  ⟨0x1C81, 0x1C81, 1, [0x414]⟩, ⟨0x1C82, 0x1C82, 1, [0x41E]⟩, ⟨0x1C83, 0x1C84, 1, [0x421]⟩,
  ⟨0x1C85, 0x1C85, 1, [0x422]⟩, ⟨0x1C86, 0x1C86, 1, [0x42A]⟩, ⟨0x1C87, 0x1C87, 1, [0x462]⟩,
  ⟨0x1C88, 0x1C88, 1, [0xA64A]⟩, ⟨0x1C8A, 0x1C8A, 1, [0x1C89]⟩, ⟨0x1D79, 0x1D79, 1, [0xA77D]⟩,
  ⟨0x1D7D, 0x1D7D, 1, [0x2C63]⟩, ⟨0x1D8E, 0x1D8E, 1, [0xA7C6]⟩, ⟨0x1E01, 0x1E95, 2, [0x1E00]⟩,
  ⟨0x1E96, 0x1E96, 1, [0x48, 0x331]⟩, ⟨0x1E97, 0x1E97, 1, [0x54, 0x308]⟩,
  ⟨0x1E98, 0x1E98, 1, [0x57, 0x30A]⟩, ⟨0x1E99, 0x1E99, 1, [0x59, 0x30A]⟩,
  ⟨0x1E9A, 0x1E9A, 1, [0x41, 0x2BE]⟩, ⟨0x1E9B, 0x1E9B, 1, [0x1E60]⟩, ⟨0x1EA1, 0x1EFF, 2, [0x1EA0]⟩,
  ⟨0x1F00, 0x1F07, 1, [0x1F08]⟩, ⟨0x1F10, 0x1F15, 1, [0x1F18]⟩, ⟨0x1F20, 0x1F27, 1, [0x1F28]⟩,
  ⟨0x1F30, 0x1F37, 1, [0x1F38]⟩, ⟨0x1F40, 0x1F45, 1, [0x1F48]⟩, ⟨0x1F50, 0x1F50, 1, [0x3A5, 0x313]⟩,
  ⟨0x1F51, 0x1F57, 2, [0x1F59]⟩, ⟨0x1F52, 0x1F52, 1, [0x3A5, 0x313, 0x300]⟩,
  ⟨0x1F54, 0x1F54, 1, [0x3A5, 0x313, 0x301]⟩, ⟨0x1F56, 0x1F56, 1, [0x3A5, 0x313, 0x342]⟩,
  ⟨0x1F60, 0x1F67, 1, [0x1F68]⟩, ⟨0x1F70, 0x1F71, 1, [0x1FBA]⟩, ⟨0x1F72, 0x1F75, 1, [0x1FC8]⟩,
  ⟨0x1F76, 0x1F77, 1, [0x1FDA]⟩, ⟨0x1F78, 0x1F79, 1, [0x1FF8]⟩, ⟨0x1F7A, 0x1F7B, 1, [0x1FEA]⟩,
  ⟨0x1F7C, 0x1F7D, 1, [0x1FFA]⟩, ⟨0x1F80, 0x1F80, 1, [0x1F08, 0x399]⟩,
  ⟨0x1F81, 0x1F81, 1, [0x1F09, 0x399]⟩, ⟨0x1F82, 0x1F82, 1, [0x1F0A, 0x399]⟩,
  ⟨0x1F83, 0x1F83, 1, [0x1F0B, 0x399]⟩, ⟨0x1F84, 0x1F84, 1, [0x1F0C, 0x399]⟩,
  ⟨0x1F85, 0x1F85, 1, [0x1F0D, 0x399]⟩, ⟨0x1F86, 0x1F86, 1, [0x1F0E, 0x399]⟩,
  ⟨0x1F87, 0x1F87, 1, [0x1F0F, 0x399]⟩, ⟨0x1F88, 0x1F88, 1, [0x1F08, 0x399]⟩,
  ⟨0x1F89, 0x1F89, 1, [0x1F09, 0x399]⟩, ⟨0x1F8A, 0x1F8A, 1, [0x1F0A, 0x399]⟩,
  ⟨0x1F8B, 0x1F8B, 1, [0x1F0B, 0x399]⟩, ⟨0x1F8C, 0x1F8C, 1, [0x1F0C, 0x399]⟩,
  ⟨0x1F8D, 0x1F8D, 1, [0x1F0D, 0x399]⟩, ⟨0x1F8E, 0x1F8E, 1, [0x1F0E, 0x399]⟩,
  ⟨0x1F8F, 0x1F8F, 1, [0x1F0F, 0x399]⟩, ⟨0x1F90, 0x1F90, 1, [0x1F28, 0x399]⟩,
  ⟨0x1F91, 0x1F91, 1, [0x1F29, 0x399]⟩, ⟨0x1F92, 0x1F92, 1, [0x1F2A, 0x399]⟩,
  ⟨0x1F93, 0x1F93, 1, [0x1F2B, 0x399]⟩, ⟨0x1F94, 0x1F94, 1, [0x1F2C, 0x399]⟩,
  ⟨0x1F95, 0x1F95, 1, [0x1F2D, 0x399]⟩, ⟨0x1F96, 0x1F96, 1, [0x1F2E, 0x399]⟩,
  ⟨0x1F97, 0x1F97, 1, [0x1F2F, 0x399]⟩, ⟨0x1F98, 0x1F98, 1, [0x1F28, 0x399]⟩,
  ⟨0x1F99, 0x1F99, 1, [0x1F29, 0x399]⟩, ⟨0x1F9A, 0x1F9A, 1, [0x1F2A, 0x399]⟩,
  ⟨0x1F9B, 0x1F9B, 1, [0x1F2B, 0x399]⟩, ⟨0x1F9C, 0x1F9C, 1, [0x1F2C, 0x399]⟩,
  ⟨0x1F9D, 0x1F9D, 1, [0x1F2D, 0x399]⟩, ⟨0x1F9E, 0x1F9E, 1, [0x1F2E, 0x399]⟩,
  ⟨0x1F9F, 0x1F9F, 1, [0x1F2F, 0x399]⟩, ⟨0x1FA0, 0x1FA0, 1, [0x1F68, 0x399]⟩,
  ⟨0x1FA1, 0x1FA1, 1, [0x1F69, 0x399]⟩, ⟨0x1FA2, 0x1FA2, 1, [0x1F6A, 0x399]⟩,
  ⟨0x1FA3, 0x1FA3, 1, [0x1F6B, 0x399]⟩, ⟨0x1FA4, 0x1FA4, 1, [0x1F6C, 0x399]⟩,
  ⟨0x1FA5, 0x1FA5, 1, [0x1F6D, 0x399]⟩, ⟨0x1FA6, 0x1FA6, 1, [0x1F6E, 0x399]⟩,
  ⟨0x1FA7, 0x1FA7, 1, [0x1F6F, 0x399]⟩, ⟨0x1FA8, 0x1FA8, 1, [0x1F68, 0x399]⟩,
  ⟨0x1FA9, 0x1FA9, 1, [0x1F69, 0x399]⟩, ⟨0x1FAA, 0x1FAA, 1, [0x1F6A, 0x399]⟩,
  ⟨0x1FAB, 0x1FAB, 1, [0x1F6B, 0x399]⟩, ⟨0x1FAC, 0x1FAC, 1, [0x1F6C, 0x399]⟩,
  ⟨0x1FAD, 0x1FAD, 1, [0x1F6D, 0x399]⟩, ⟨0x1FAE, 0x1FAE, 1, [0x1F6E, 0x399]⟩,
  ⟨0x1FAF, 0x1FAF, 1, [0x1F6F, 0x399]⟩, ⟨0x1FB0, 0x1FB1, 1, [0x1FB8]⟩,
  ⟨0x1FB2, 0x1FB2, 1, [0x1FBA, 0x399]⟩, ⟨0x1FB3, 0x1FB3, 1, [0x391, 0x399]⟩,
  ⟨0x1FB4, 0x1FB4, 1, [0x386, 0x399]⟩, ⟨0x1FB6, 0x1FB6, 1, [0x391, 0x342]⟩,
  ⟨0x1FB7, 0x1FB7, 1, [0x391, 0x342, 0x399]⟩, ⟨0x1FBC, 0x1FBC, 1, [0x391, 0x399]⟩,
  ⟨0x1FBE, 0x1FBE, 1, [0x399]⟩, ⟨0x1FC2, 0x1FC2, 1, [0x1FCA, 0x399]⟩,
  ⟨0x1FC3, 0x1FC3, 1, [0x397, 0x399]⟩, ⟨0x1FC4, 0x1FC4, 1, [0x389, 0x399]⟩,
  ⟨0x1FC6, 0x1FC6, 1, [0x397, 0x342]⟩, ⟨0x1FC7, 0x1FC7, 1, [0x397, 0x342, 0x399]⟩,
  ⟨0x1FCC, 0x1FCC, 1, [0x397, 0x399]⟩, ⟨0x1FD0, 0x1FD1, 1, [0x1FD8]⟩,
  ⟨0x1FD2, 0x1FD2, 1, [0x399, 0x308, 0x300]⟩, ⟨0x1FD3, 0x1FD3, 1, [0x399, 0x308, 0x301]⟩,
  ⟨0x1FD6, 0x1FD6, 1, [0x399, 0x342]⟩, ⟨0x1FD7, 0x1FD7, 1, [0x399, 0x308, 0x342]⟩,
  ⟨0x1FE0, 0x1FE1, 1, [0x1FE8]⟩, ⟨0x1FE2, 0x1FE2, 1, [0x3A5, 0x308, 0x300]⟩,
  ⟨0x1FE3, 0x1FE3, 1, [0x3A5, 0x308, 0x301]⟩, ⟨0x1FE4, 0x1FE4, 1, [0x3A1, 0x313]⟩,
  ⟨0x1FE5, 0x1FE5, 1, [0x1FEC]⟩, ⟨0x1FE6, 0x1FE6, 1, [0x3A5, 0x342]⟩,
  ⟨0x1FE7, 0x1FE7, 1, [0x3A5, 0x308, 0x342]⟩, ⟨0x1FF2, 0x1FF2, 1, [0x1FFA, 0x399]⟩,
  ⟨0x1FF3, 0x1FF3, 1, [0x3A9, 0x399]⟩, ⟨0x1FF4, 0x1FF4, 1, [0x38F, 0x399]⟩,
  ⟨0x1FF6, 0x1FF6, 1, [0x3A9, 0x342]⟩, ⟨0x1FF7, 0x1FF7, 1, [0x3A9, 0x342, 0x399]⟩,
  ⟨0x1FFC, 0x1FFC, 1, [0x3A9, 0x399]⟩, ⟨0x214E, 0x214E, 1, [0x2132]⟩, ⟨0x2170, 0x217F, 1, [0x2160]⟩,
  ⟨0x2184, 0x2184, 1, [0x2183]⟩, ⟨0x24D0, 0x24E9, 1, [0x24B6]⟩, ⟨0x2C30, 0x2C5F, 1, [0x2C00]⟩,
  ⟨0x2C61, 0x2C61, 1, [0x2C60]⟩, ⟨0x2C65, 0x2C65, 1, [0x23A]⟩, ⟨0x2C66, 0x2C66, 1, [0x23E]⟩,
  ⟨0x2C68, 0x2C6C, 2, [0x2C67]⟩, ⟨0x2C73, 0x2C73, 1, [0x2C72]⟩, ⟨0x2C76, 0x2C76, 1, [0x2C75]⟩,
  ⟨0x2C81, 0x2CE3, 2, [0x2C80]⟩, ⟨0x2CEC, 0x2CEE, 2, [0x2CEB]⟩, ⟨0x2CF3, 0x2CF3, 1, [0x2CF2]⟩,
  ⟨0x2D00, 0x2D25, 1, [0x10A0]⟩, ⟨0x2D27, 0x2D27, 1, [0x10C7]⟩, ⟨0x2D2D, 0x2D2D, 1, [0x10CD]⟩,
  ⟨0xA641, 0xA66D, 2, [0xA640]⟩, ⟨0xA681, 0xA69B, 2, [0xA680]⟩, ⟨0xA723, 0xA72F, 2, [0xA722]⟩,
  ⟨0xA733, 0xA76F, 2, [0xA732]⟩, ⟨0xA77A, 0xA77C, 2, [0xA779]⟩, ⟨0xA77F, 0xA787, 2, [0xA77E]⟩,
  ⟨0xA78C, 0xA78C, 1, [0xA78B]⟩, ⟨0xA791, 0xA793, 2, [0xA790]⟩, ⟨0xA794, 0xA794, 1, [0xA7C4]⟩,
  ⟨0xA797, 0xA7A9, 2, [0xA796]⟩, ⟨0xA7B5, 0xA7C3, 2, [0xA7B4]⟩, ⟨0xA7C8, 0xA7CA, 2, [0xA7C7]⟩,
  ⟨0xA7CD, 0xA7DB, 2, [0xA7CC]⟩, ⟨0xA7F6, 0xA7F6, 1, [0xA7F5]⟩, ⟨0xAB53, 0xAB53, 1, [0xA7B3]⟩,
  ⟨0xAB70, 0xABBF, 1, [0x13A0]⟩, ⟨0xFB00, 0xFB00, 1, [0x46, 0x46]⟩,
  ⟨0xFB01, 0xFB01, 1, [0x46, 0x49]⟩, ⟨0xFB02, 0xFB02, 1, [0x46, 0x4C]⟩,
  ⟨0xFB03, 0xFB03, 1, [0x46, 0x46, 0x49]⟩, ⟨0xFB04, 0xFB04, 1, [0x46, 0x46, 0x4C]⟩,
  ⟨0xFB05, 0xFB05, 1, [0x53, 0x54]⟩, ⟨0xFB06, 0xFB06, 1, [0x53, 0x54]⟩,
  ⟨0xFB13, 0xFB13, 1, [0x544, 0x546]⟩, ⟨0xFB14, 0xFB14, 1, [0x544, 0x535]⟩,
  ⟨0xFB15, 0xFB15, 1, [0x544, 0x53B]⟩, ⟨0xFB16, 0xFB16, 1, [0x54E, 0x546]⟩,
  ⟨0xFB17, 0xFB17, 1, [0x544, 0x53D]⟩, ⟨0xFF41, 0xFF5A, 1, [0xFF21]⟩,
  ⟨0x10428, 0x1044F, 1, [0x10400]⟩, ⟨0x104D8, 0x104FB, 1, [0x104B0]⟩,
  ⟨0x10597, 0x105BB, 2, [0x10570]⟩, ⟨0x10598, 0x105A0, 2, [0x10571]⟩,
  ⟨0x105A4, 0x105B0, 2, [0x1057D]⟩, ⟨0x105B4, 0x105B8, 2, [0x1058D]⟩,
  ⟨0x105BC, 0x105BC, 1, [0x10595]⟩, ⟨0x10CC0, 0x10CF2, 1, [0x10C80]⟩,
  ⟨0x10D70, 0x10D85, 1, [0x10D50]⟩, ⟨0x118C0, 0x118DF, 1, [0x118A0]⟩,
  ⟨0x16E60, 0x16E7F, 1, [0x16E40]⟩, ⟨0x16EBB, 0x16ED3, 1, [0x16EA0]⟩,
  ⟨0x1E922, 0x1E943, 1, [0x1E900]⟩]

/-- The property Cased. -/
def cased : CodePoints := .ofText
  "41-5A 61-7A AA B5 BA C0-D6 D8-F6 F8-1BA 1BC-1BF 1C4-293 295-2B8 2C0-2C1 2E0-2E4 345 370-373
    376-377 37A-37D 37F 386 388-38A 38C 38E-3A1 3A3-3F5 3F7-481 48A-52F 531-556 560-588
    10A0-10C5 10C7 10CD 10D0-10FA 10FC-10FF 13A0-13F5 13F8-13FD 1C80-1C8A 1C90-1CBA 1CBD-1CBF
    1D00-1DBF 1E00-1F15 1F18-1F1D 1F20-1F45 1F48-1F4D 1F50-1F57 1F59 1F5B 1F5D 1F5F-1F7D
    1F80-1FB4 1FB6-1FBC 1FBE 1FC2-1FC4 1FC6-1FCC 1FD0-1FD3 1FD6-1FDB 1FE0-1FEC 1FF2-1FF4
    1FF6-1FFC 2071 207F 2090-209C 2102 2107 210A-2113 2115 2119-211D 2124 2126 2128 212A-212D
    212F-2134 2139 213C-213F 2145-2149 214E 2160-217F 2183-2184 24B6-24E9 2C00-2CE4 2CEB-2CEE
    2CF2-2CF3 2D00-2D25 2D27 2D2D A640-A66D A680-A69D A722-A787 A78B-A78E A790-A7DC A7F1-A7F6
    A7F8-A7FA AB30-AB5A AB5C-AB69 AB70-ABBF FB00-FB06 FB13-FB17 FF21-FF3A FF41-FF5A 10400-1044F
    104B0-104D3 104D8-104FB 10570-1057A 1057C-1058A 1058C-10592 10594-10595 10597-105A1
    105A3-105B1 105B3-105B9 105BB-105BC 10780 10783-10785 10787-107B0 107B2-107BA 10C80-10CB2
    10CC0-10CF2 10D50-10D65 10D70-10D85 118A0-118DF 16E40-16E7F 16EA0-16EB8 16EBB-16ED3
    1D400-1D454 1D456-1D49C 1D49E-1D49F 1D4A2 1D4A5-1D4A6 1D4A9-1D4AC 1D4AE-1D4B9 1D4BB
    1D4BD-1D4C3 1D4C5-1D505 1D507-1D50A 1D50D-1D514 1D516-1D51C 1D51E-1D539 1D53B-1D53E
    1D540-1D544 1D546 1D54A-1D550 1D552-1D6A5 1D6A8-1D6C0 1D6C2-1D6DA 1D6DC-1D6FA 1D6FC-1D714
    1D716-1D734 1D736-1D74E 1D750-1D76E 1D770-1D788 1D78A-1D7A8 1D7AA-1D7C2 1D7C4-1D7CB
    1DF00-1DF09 1DF0B-1DF1E 1DF25-1DF2A 1E030-1E06D 1E900-1E943 1F130-1F149 1F150-1F169
    1F170-1F189"

/-- The property Case_Ignorable. -/
def caseIgnorable : CodePoints := .ofText
  "27 2E 3A 5E 60 A8 AD AF B4 B7-B8 2B0-36F 374-375 37A 384-385 387 483-489 559 55F 591-5BD 5BF
    5C1-5C2 5C4-5C5 5C7 5F4 600-605 610-61A 61C 640 64B-65F 670 6D6-6DD 6DF-6E8 6EA-6ED 70F 711
    730-74A 7A6-7B0 7EB-7F5 7FA 7FD 816-82D 859-85B 888 890-891 897-89F 8C9-902 93A 93C 941-948
    94D 951-957 962-963 971 981 9BC 9C1-9C4 9CD 9E2-9E3 9FE A01-A02 A3C A41-A42 A47-A48 A4B-A4D
    A51 A70-A71 A75 A81-A82 ABC AC1-AC5 AC7-AC8 ACD AE2-AE3 AFA-AFF B01 B3C B3F B41-B44 B4D
    B55-B56 B62-B63 B82 BC0 BCD C00 C04 C3C C3E-C40 C46-C48 C4A-C4D C55-C56 C62-C63 C81 CBC CBF
    CC6 CCC-CCD CE2-CE3 D00-D01 D3B-D3C D41-D44 D4D D62-D63 D81 DCA DD2-DD4 DD6 E31 E34-E3A
    E46-E4E EB1 EB4-EBC EC6 EC8-ECE F18-F19 F35 F37 F39 F71-F7E F80-F84 F86-F87 F8D-F97 F99-FBC
    FC6 102D-1030 1032-1037 1039-103A 103D-103E 1058-1059 105E-1060 1071-1074 1082 1085-1086
    108D 109D 10FC 135D-135F 1712-1714 1732-1733 1752-1753 1772-1773 17B4-17B5 17B7-17BD 17C6
    17C9-17D3 17D7 17DD 180B-180F 1843 1885-1886 18A9 1920-1922 1927-1928 1932 1939-193B
    1A17-1A18 1A1B 1A56 1A58-1A5E 1A60 1A62 1A65-1A6C 1A73-1A7C 1A7F 1AA7 1AB0-1ADD 1AE0-1AEB
    1B00-1B03 1B34 1B36-1B3A 1B3C 1B42 1B6B-1B73 1B80-1B81 1BA2-1BA5 1BA8-1BA9 1BAB-1BAD 1BE6
    1BE8-1BE9 1BED 1BEF-1BF1 1C2C-1C33 1C36-1C37 1C78-1C7D 1CD0-1CD2 1CD4-1CE0 1CE2-1CE8 1CED
    1CF4 1CF8-1CF9 1D2C-1D6A 1D78 1D9B-1DFF 1FBD 1FBF-1FC1 1FCD-1FCF 1FDD-1FDF 1FED-1FEF
    1FFD-1FFE 200B-200F 2018-2019 2024 2027 202A-202E 2060-2064 2066-206F 2071 207F 2090-209C
    20D0-20F0 2C7C-2C7D 2CEF-2CF1 2D6F 2D7F 2DE0-2DFF 2E2F 3005 302A-302D 3031-3035 303B
    3099-309E 30FC-30FE A015 A4F8-A4FD A60C A66F-A672 A674-A67D A67F A69C-A69F A6F0-A6F1
    A700-A721 A770 A788-A78A A7F1-A7F4 A7F8-A7F9 A802 A806 A80B A825-A826 A82C A8C4-A8C5
    A8E0-A8F1 A8FF A926-A92D A947-A951 A980-A982 A9B3 A9B6-A9B9 A9BC-A9BD A9CF A9E5-A9E6
    AA29-AA2E AA31-AA32 AA35-AA36 AA43 AA4C AA70 AA7C AAB0 AAB2-AAB4 AAB7-AAB8 AABE-AABF AAC1
    AADD AAEC-AAED AAF3-AAF4 AAF6 AB5B-AB5F AB69-AB6B ABE5 ABE8 ABED FB1E FBB2-FBC2 FE00-FE0F
    FE13 FE20-FE2F FE52 FE55 FEFF FF07 FF0E FF1A FF3E FF40 FF70 FF9E-FF9F FFE3 FFF9-FFFB 101FD
    102E0 10376-1037A 10780-10785 10787-107B0 107B2-107BA 10A01-10A03 10A05-10A06 10A0C-10A0F
    10A38-10A3A 10A3F 10AE5-10AE6 10D24-10D27 10D4E 10D69-10D6D 10D6F 10EAB-10EAC 10EC5
    10EFA-10EFF 10F46-10F50 10F82-10F85 11001 11038-11046 11070 11073-11074 1107F-11081
    110B3-110B6 110B9-110BA 110BD 110C2 110CD 11100-11102 11127-1112B 1112D-11134 11173
    11180-11181 111B6-111BE 111C9-111CC 111CF 1122F-11231 11234 11236-11237 1123E 11241 112DF
    112E3-112EA 11300-11301 1133B-1133C 11340 11366-1136C 11370-11374 113BB-113C0 113CE 113D0
    113D2 113E1-113E2 11438-1143F 11442-11444 11446 1145E 114B3-114B8 114BA 114BF-114C0
    114C2-114C3 115B2-115B5 115BC-115BD 115BF-115C0 115DC-115DD 11633-1163A 1163D 1163F-11640
    116AB 116AD 116B0-116B5 116B7 1171D-1171F 11722-11725 11727-1172B 1182F-11837 11839-1183A
    1193B-1193C 1193E 11943 119D4-119D7 119DA-119DB 119E0 11A01-11A0A 11A33-11A38 11A3B-11A3E
    11A47 11A51-11A56 11A59-11A5B 11A8A-11A96 11A98-11A99 11B60 11B62-11B64 11B66 11C30-11C36
    11C38-11C3D 11C3F 11C92-11CA7 11CAA-11CB0 11CB2-11CB3 11CB5-11CB6 11D31-11D36 11D3A
    11D3C-11D3D 11D3F-11D45 11D47 11D90-11D91 11D95 11D97 11DD9 11EF3-11EF4 11F00-11F01
    11F36-11F3A 11F40 11F42 11F5A 13430-13440 13447-13455 1611E-16129 1612D-1612F 16AF0-16AF4
    16B30-16B36 16B40-16B43 16D40-16D42 16D6B-16D6C 16F4F 16F8F-16F9F 16FE0-16FE1 16FE3-16FE4
    16FF2-16FF3 1AFF0-1AFF3 1AFF5-1AFFB 1AFFD-1AFFE 1BC9D-1BC9E 1BCA0-1BCA3 1CF00-1CF2D
    1CF30-1CF46 1D167-1D169 1D173-1D182 1D185-1D18B 1D1AA-1D1AD 1D242-1D244 1DA00-1DA36
    1DA3B-1DA6C 1DA75 1DA84 1DA9B-1DA9F 1DAA1-1DAAF 1E000-1E006 1E008-1E018 1E01B-1E021
    1E023-1E024 1E026-1E02A 1E030-1E06D 1E08F 1E130-1E13D 1E2AE 1E2EC-1E2EF 1E4EB-1E4EF
    1E5EE-1E5EF 1E6E3 1E6E6 1E6EE-1E6EF 1E6F5 1E6FF 1E8D0-1E8D6 1E944-1E94B 1F3FB-1F3FF E0001
    E0020-E007F E0100-E01EF"

/-- The small letters of a character. -/
def lowerChar (c : Char) : List Char :=
  if c.toNat < 0x80 then [lowerAscii c] else (lowerRuns.findSome? (·.image? c.toNat)).getD [c]

/-- The capital letters of a character. -/
def upperChar (c : Char) : List Char :=
  if c.toNat < 0x80 then [upperAscii c] else (upperRuns.findSome? (·.image? c.toNat)).getD [c]

/-- Whether a cased letter comes first once what case ignores is skipped. -/
def casedNext (s : List Char) : Bool := (s.dropWhile caseIgnorable.contains).head?.any cased.contains

/-- The capital sigma. -/
def capitalSigma : Char := Char.ofNat 0x3A3

/-- Small letters of the second text, given the text before it in reverse. -/
def lowerAfter (before : List Char) : List Char → List Char
  | [] => []
  | c :: rest =>
    (if c = capitalSigma then [Char.ofNat (if casedNext before && !casedNext rest then 0x3C2 else 0x3C3)]
      else lowerChar c) ++ lowerAfter (c :: before) rest

/-- The text in small letters. -/
def lower (s : List Char) : List Char := lowerAfter [] s

/-- The text in capital letters. -/
def upper (s : List Char) : List Char := s.flatMap upperChar

theorem lower_of_ascii (s : List Char) (h : ∀ c ∈ s, c.toNat < 0x80) : lower s = s.map lowerAscii := by
  have after : ∀ (before s : List Char), (∀ c ∈ s, c.toNat < 0x80) →
      lowerAfter before s = s.map lowerAscii := by
    intro before s
    induction s generalizing before with
    | nil => simp [lowerAfter]
    | cons c rest ih =>
      intro h
      have hc : c.toNat < 0x80 := h c (by simp)
      have hs : c ≠ capitalSigma := by rintro rfl; exact absurd hc (by decide)
      rw [lowerAfter, if_neg hs, ih _ fun d hd => h d (by simp [hd]), lowerChar, if_pos hc]
      simp
  exact after [] s h

theorem upper_of_ascii (s : List Char) (h : ∀ c ∈ s, c.toNat < 0x80) : upper s = s.map upperAscii := by
  induction s with
  | nil => rfl
  | cons c rest ih =>
    have hc : c.toNat < 0x80 := h c (by simp)
    have hr : upper rest = rest.map upperAscii := ih fun d hd => h d (by simp [hd])
    rw [upper] at hr
    simp [upper, upperChar, hc, hr]

/-- No image of a run lies among the small letters of ASCII. -/
theorem upperRuns_images : ∀ run ∈ upperRuns, ∀ m ∈ run.images, 122 < m ∨ m + (run.last - run.first) < 97 := by
  decide +kernel

theorem not_small_of_mem_upperChar {c d : Char} (h : d ∈ upperChar c) : d.toNat < 97 ∨ 122 < d.toNat := by
  unfold upperChar at h
  split at h
  · next hc =>
    have ascii : ∀ n < 0x80, (upperAscii (Char.ofNat n)).toNat < 97 ∨ 122 < (upperAscii (Char.ofNat n)).toNat := by
      decide +kernel
    rw [List.mem_singleton.1 h]
    exact of_toNat_lt (p := fun c => (upperAscii c).toNat < 97 ∨ 122 < (upperAscii c).toNat) ascii hc
  · next hc =>
    cases hrun : upperRuns.findSome? (·.image? c.toNat) with
    | none =>
      rw [hrun] at h
      obtain rfl : d = c := List.mem_singleton.1 h
      omega
    | some images =>
      rw [hrun] at h
      obtain ⟨run, hmem, himage⟩ := List.exists_of_findSome?_eq_some hrun
      unfold MapRun.image? at himage
      split at himage
      · next hrange =>
        obtain rfl := Option.some.inj himage
        obtain ⟨m, hm, rfl⟩ := List.mem_map.1 h
        -- the images of a run stay clear of the small letters; what is no character becomes zero
        have hbounds := upperRuns_images run hmem m hm
        have hvalue : (Char.ofNat (m + (c.toNat - run.first))).toNat = 0 ∨
            (Char.ofNat (m + (c.toNat - run.first))).toNat = m + (c.toNat - run.first) := by
          rw [Char.ofNat]
          by_cases hvalid : (m + (c.toNat - run.first)).isValidChar
          · exact .inr (by rw [dif_pos hvalid]; rfl)
          · exact .inl (by rw [dif_neg hvalid]; rfl)
        omega
      · cases himage

/-- Capitals hold no small letter of ASCII. -/
theorem not_small_of_mem_upper {s : List Char} {d : Char} (h : d ∈ upper s) :
    d.toNat < 97 ∨ 122 < d.toNat := by
  obtain ⟨c, -, hd⟩ := List.mem_flatMap.1 h
  exact not_small_of_mem_upperChar hd

end RoleChart.Text
