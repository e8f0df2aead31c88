/-!
# Character data of domain names

* `ShiftedRun`, `shiftedRuns` : the code points that stand for one character of ASCII;
* `numberRuns` : those that stand for a number of two digits;
* `punctuatedRanges` : those that stand for a text with a space or a character that has a meaning in
  addresses;
* `ignoredRanges` : those that stand for nothing;
* `refusedRanges` : those that print but are in no name;
* `spacingMarkRanges` : the marks that take space of their own.
-/

namespace Entitlement.Domain

/-- The code points from `first` to `last`, each `shift` above what it stands for. -/
structure ShiftedRun where
  first : Nat
  last : Nat
  shift : Nat

def shiftedRuns : List ShiftedRun :=
   [⟨0xAA, 0xAA, 0x49⟩, ⟨0xB2, 0xB3, 0x80⟩, ⟨0xB9, 0xB9, 0x88⟩, ⟨0xBA, 0xBA, 0x4B⟩,
    ⟨0x17F, 0x17F, 0x10C⟩, ⟨0x2B0, 0x2B0, 0x248⟩, ⟨0x2B2, 0x2B2, 0x248⟩, ⟨0x2B3, 0x2B3, 0x241⟩,
    ⟨0x2B7, 0x2B7, 0x240⟩, ⟨0x2B8, 0x2B8, 0x23F⟩, ⟨0x2E1, 0x2E1, 0x275⟩, ⟨0x2E2, 0x2E2, 0x26F⟩,
    ⟨0x2E3, 0x2E3, 0x26B⟩, ⟨0x37E, 0x37E, 0x343⟩, ⟨0x1D2C, 0x1D2C, 0x1CCB⟩,
    ⟨0x1D2E, 0x1D2E, 0x1CCC⟩, ⟨0x1D30, 0x1D31, 0x1CCC⟩, ⟨0x1D33, 0x1D3A, 0x1CCC⟩,
    ⟨0x1D3C, 0x1D3C, 0x1CCD⟩, ⟨0x1D3E, 0x1D3E, 0x1CCE⟩, ⟨0x1D3F, 0x1D3F, 0x1CCD⟩,
    ⟨0x1D40, 0x1D41, 0x1CCC⟩, ⟨0x1D42, 0x1D42, 0x1CCB⟩, ⟨0x1D43, 0x1D43, 0x1CE2⟩,
    ⟨0x1D47, 0x1D47, 0x1CE5⟩, ⟨0x1D48, 0x1D49, 0x1CE4⟩, ⟨0x1D4D, 0x1D4D, 0x1CE6⟩,
    ⟨0x1D4F, 0x1D4F, 0x1CE4⟩, ⟨0x1D50, 0x1D50, 0x1CE3⟩, ⟨0x1D52, 0x1D52, 0x1CE3⟩,
    ⟨0x1D56, 0x1D56, 0x1CE6⟩, ⟨0x1D57, 0x1D58, 0x1CE3⟩, ⟨0x1D5B, 0x1D5B, 0x1CE5⟩,
    ⟨0x1D62, 0x1D62, 0x1CF9⟩, ⟨0x1D63, 0x1D63, 0x1CF1⟩, ⟨0x1D64, 0x1D65, 0x1CEF⟩,
    ⟨0x1D9C, 0x1D9C, 0x1D39⟩, ⟨0x1DA0, 0x1DA0, 0x1D3A⟩, ⟨0x1DBB, 0x1DBB, 0x1D41⟩,
    ⟨0x1FEF, 0x1FEF, 0x1F8F⟩, ⟨0x2070, 0x2070, 0x2040⟩, ⟨0x2071, 0x2071, 0x2008⟩,
    ⟨0x2074, 0x2079, 0x2040⟩, ⟨0x207A, 0x207A, 0x204F⟩, ⟨0x207C, 0x207C, 0x203F⟩,
    ⟨0x207D, 0x207E, 0x2055⟩, ⟨0x207F, 0x207F, 0x2011⟩, ⟨0x2080, 0x2089, 0x2050⟩,
    ⟨0x208A, 0x208A, 0x205F⟩, ⟨0x208C, 0x208C, 0x204F⟩, ⟨0x208D, 0x208E, 0x2065⟩,
    ⟨0x2090, 0x2090, 0x202F⟩, ⟨0x2091, 0x2091, 0x202C⟩, ⟨0x2092, 0x2092, 0x2023⟩,
    ⟨0x2093, 0x2093, 0x201B⟩, ⟨0x2095, 0x2095, 0x202D⟩, ⟨0x2096, 0x2099, 0x202B⟩,
    ⟨0x209A, 0x209A, 0x202A⟩, ⟨0x209B, 0x209C, 0x2028⟩, ⟨0x2102, 0x2102, 0x209F⟩,
    ⟨0x210A, 0x210B, 0x20A3⟩, ⟨0x210C, 0x210C, 0x20A4⟩, ⟨0x210D, 0x210D, 0x20A5⟩,
    ⟨0x210E, 0x210E, 0x20A6⟩, ⟨0x2110, 0x2110, 0x20A7⟩, ⟨0x2111, 0x2111, 0x20A8⟩,
    ⟨0x2112, 0x2112, 0x20A6⟩, ⟨0x2113, 0x2113, 0x20A7⟩, ⟨0x2115, 0x2115, 0x20A7⟩,
    ⟨0x2119, 0x211B, 0x20A9⟩, ⟨0x211C, 0x211C, 0x20AA⟩, ⟨0x211D, 0x211D, 0x20AB⟩,
    ⟨0x2124, 0x2124, 0x20AA⟩, ⟨0x2128, 0x2128, 0x20AE⟩, ⟨0x212A, 0x212A, 0x20BF⟩,
    ⟨0x212C, 0x212D, 0x20CA⟩, ⟨0x212F, 0x212F, 0x20CA⟩, ⟨0x2130, 0x2131, 0x20CB⟩,
    ⟨0x2133, 0x2133, 0x20C6⟩, ⟨0x2134, 0x2134, 0x20C5⟩, ⟨0x2139, 0x2139, 0x20D0⟩,
    ⟨0x2145, 0x2145, 0x20E1⟩, ⟨0x2146, 0x2147, 0x20E2⟩, ⟨0x2148, 0x2149, 0x20DF⟩,
    ⟨0x2160, 0x2160, 0x20F7⟩, ⟨0x2164, 0x2164, 0x20EE⟩, ⟨0x2169, 0x2169, 0x20F1⟩,
    ⟨0x216C, 0x216C, 0x2100⟩, ⟨0x216D, 0x216E, 0x210A⟩, ⟨0x216F, 0x216F, 0x2102⟩,
    ⟨0x2170, 0x2170, 0x2107⟩, ⟨0x2174, 0x2174, 0x20FE⟩, ⟨0x2179, 0x2179, 0x2101⟩,
    ⟨0x217C, 0x217C, 0x2110⟩, ⟨0x217D, 0x217E, 0x211A⟩, ⟨0x217F, 0x217F, 0x2112⟩,
    ⟨0x2460, 0x2468, 0x242F⟩, ⟨0x24B6, 0x24CF, 0x2455⟩, ⟨0x24D0, 0x24E9, 0x246F⟩,
    ⟨0x24EA, 0x24EA, 0x24BA⟩, ⟨0x2C7C, 0x2C7C, 0x2C12⟩, ⟨0x2C7D, 0x2C7D, 0x2C07⟩,
    ⟨0x3002, 0x3002, 0x2FD4⟩, ⟨0xA7F1, 0xA7F1, 0xA77E⟩, ⟨0xA7F2, 0xA7F2, 0xA78F⟩,
    ⟨0xA7F3, 0xA7F3, 0xA78D⟩, ⟨0xA7F4, 0xA7F4, 0xA783⟩, ⟨0xFB29, 0xFB29, 0xFAFE⟩,
    ⟨0xFE10, 0xFE10, 0xFDE4⟩, ⟨0xFE14, 0xFE14, 0xFDD9⟩, ⟨0xFE15, 0xFE15, 0xFDF4⟩,
    ⟨0xFE33, 0xFE33, 0xFDD4⟩, ⟨0xFE34, 0xFE34, 0xFDD5⟩, ⟨0xFE35, 0xFE36, 0xFE0D⟩,
    ⟨0xFE37, 0xFE37, 0xFDBC⟩, ⟨0xFE38, 0xFE38, 0xFDBB⟩, ⟨0xFE4D, 0xFE4D, 0xFDEE⟩,
    ⟨0xFE4E, 0xFE4E, 0xFDEF⟩, ⟨0xFE4F, 0xFE4F, 0xFDF0⟩, ⟨0xFE50, 0xFE50, 0xFE24⟩,
    ⟨0xFE54, 0xFE54, 0xFE19⟩, ⟨0xFE57, 0xFE57, 0xFE36⟩, ⟨0xFE59, 0xFE5A, 0xFE31⟩,
    ⟨0xFE5B, 0xFE5B, 0xFDE0⟩, ⟨0xFE5C, 0xFE5C, 0xFDDF⟩, ⟨0xFE60, 0xFE60, 0xFE3A⟩,
    ⟨0xFE61, 0xFE62, 0xFE37⟩, ⟨0xFE63, 0xFE63, 0xFE36⟩, ⟨0xFE66, 0xFE66, 0xFE29⟩,
    ⟨0xFE69, 0xFE69, 0xFE45⟩, ⟨0xFF01, 0xFF02, 0xFEE0⟩, ⟨0xFF04, 0xFF04, 0xFEE0⟩,
    ⟨0xFF06, 0xFF0E, 0xFEE0⟩, ⟨0xFF10, 0xFF19, 0xFEE0⟩, ⟨0xFF1B, 0xFF1B, 0xFEE0⟩,
    ⟨0xFF1D, 0xFF1D, 0xFEE0⟩, ⟨0xFF21, 0xFF3A, 0xFEC0⟩, ⟨0xFF3F, 0xFF5B, 0xFEE0⟩,
    ⟨0xFF5D, 0xFF5E, 0xFEE0⟩, ⟨0xFF61, 0xFF61, 0xFF33⟩, ⟨0x107A5, 0x107A5, 0x10734⟩,
    ⟨0x1CCD6, 0x1CCEF, 0x1CC75⟩, ⟨0x1CCF0, 0x1CCF9, 0x1CCC0⟩, ⟨0x1D400, 0x1D419, 0x1D39F⟩,
    ⟨0x1D41A, 0x1D433, 0x1D3B9⟩, ⟨0x1D434, 0x1D44D, 0x1D3D3⟩, ⟨0x1D44E, 0x1D454, 0x1D3ED⟩,
    ⟨0x1D456, 0x1D467, 0x1D3ED⟩, ⟨0x1D468, 0x1D481, 0x1D407⟩, ⟨0x1D482, 0x1D49B, 0x1D421⟩,
    ⟨0x1D49C, 0x1D49C, 0x1D43B⟩, ⟨0x1D49E, 0x1D49F, 0x1D43B⟩, ⟨0x1D4A2, 0x1D4A2, 0x1D43B⟩,
    ⟨0x1D4A5, 0x1D4A6, 0x1D43B⟩, ⟨0x1D4A9, 0x1D4AC, 0x1D43B⟩, ⟨0x1D4AE, 0x1D4B5, 0x1D43B⟩,
    ⟨0x1D4B6, 0x1D4B9, 0x1D455⟩, ⟨0x1D4BB, 0x1D4BB, 0x1D455⟩, ⟨0x1D4BD, 0x1D4C3, 0x1D455⟩,
    ⟨0x1D4C5, 0x1D4CF, 0x1D455⟩, ⟨0x1D4D0, 0x1D4E9, 0x1D46F⟩, ⟨0x1D4EA, 0x1D503, 0x1D489⟩,
    ⟨0x1D504, 0x1D505, 0x1D4A3⟩, ⟨0x1D507, 0x1D50A, 0x1D4A3⟩, ⟨0x1D50D, 0x1D514, 0x1D4A3⟩,
    ⟨0x1D516, 0x1D51C, 0x1D4A3⟩, ⟨0x1D51E, 0x1D537, 0x1D4BD⟩, ⟨0x1D538, 0x1D539, 0x1D4D7⟩,
    ⟨0x1D53B, 0x1D53E, 0x1D4D7⟩, ⟨0x1D540, 0x1D544, 0x1D4D7⟩, ⟨0x1D546, 0x1D546, 0x1D4D7⟩,
    ⟨0x1D54A, 0x1D550, 0x1D4D7⟩, ⟨0x1D552, 0x1D56B, 0x1D4F1⟩, ⟨0x1D56C, 0x1D585, 0x1D50B⟩,
    ⟨0x1D586, 0x1D59F, 0x1D525⟩, ⟨0x1D5A0, 0x1D5B9, 0x1D53F⟩, ⟨0x1D5BA, 0x1D5D3, 0x1D559⟩,
    ⟨0x1D5D4, 0x1D5ED, 0x1D573⟩, ⟨0x1D5EE, 0x1D607, 0x1D58D⟩, ⟨0x1D608, 0x1D621, 0x1D5A7⟩,
    ⟨0x1D622, 0x1D63B, 0x1D5C1⟩, ⟨0x1D63C, 0x1D655, 0x1D5DB⟩, ⟨0x1D656, 0x1D66F, 0x1D5F5⟩,
    ⟨0x1D670, 0x1D689, 0x1D60F⟩, ⟨0x1D68A, 0x1D6A3, 0x1D629⟩, ⟨0x1D7CE, 0x1D7D7, 0x1D79E⟩,
    ⟨0x1D7D8, 0x1D7E1, 0x1D7A8⟩, ⟨0x1D7E2, 0x1D7EB, 0x1D7B2⟩, ⟨0x1D7EC, 0x1D7F5, 0x1D7BC⟩,
    ⟨0x1D7F6, 0x1D7FF, 0x1D7C6⟩, ⟨0x1F12B, 0x1F12B, 0x1F0C8⟩, ⟨0x1F12C, 0x1F12C, 0x1F0BA⟩,
    ⟨0x1F130, 0x1F149, 0x1F0CF⟩, ⟨0x1FBF0, 0x1FBF9, 0x1FBC0⟩]

/-- The first and the last code point, and the number that the first one stands for. -/
def numberRuns : List (Nat × Nat × Nat) :=
   [(0x2469, 0x2473, 10), (0x3251, 0x325F, 21), (0x32B1, 0x32BF, 36)]

def punctuatedRanges : List (Nat × Nat) :=
   [(0xA0, 0xA0), (0xA8, 0xA8), (0xAF, 0xAF), (0xB4, 0xB4), (0xB8, 0xB8), (0x2D8, 0x2DD),
    (0x37A, 0x37A), (0x384, 0x385), (0x1FBD, 0x1FBD), (0x1FBF, 0x1FC1), (0x1FCD, 0x1FCF),
    (0x1FDD, 0x1FDF), (0x1FED, 0x1FEE), (0x1FFD, 0x1FFE), (0x2000, 0x200A), (0x2017, 0x2017),
    (0x202F, 0x202F), (0x203E, 0x203E), (0x2047, 0x2049), (0x205F, 0x205F), (0x2100, 0x2101),
    (0x2105, 0x2106), (0x2A74, 0x2A74), (0x3000, 0x3000), (0x309B, 0x309C), (0xFC5E, 0xFC63),
    (0xFDFA, 0xFDFB), (0xFE13, 0xFE13), (0xFE16, 0xFE16), (0xFE47, 0xFE4C), (0xFE55, 0xFE56),
    (0xFE5F, 0xFE5F), (0xFE64, 0xFE65), (0xFE68, 0xFE68), (0xFE6A, 0xFE6B), (0xFE70, 0xFE70),
    (0xFE72, 0xFE72), (0xFE74, 0xFE74), (0xFE76, 0xFE76), (0xFE78, 0xFE78), (0xFE7A, 0xFE7A),
    (0xFE7C, 0xFE7C), (0xFE7E, 0xFE7E), (0xFF03, 0xFF03), (0xFF05, 0xFF05), (0xFF0F, 0xFF0F),
    (0xFF1A, 0xFF1A), (0xFF1C, 0xFF1C), (0xFF1E, 0xFF20), (0xFF3B, 0xFF3E), (0xFF5C, 0xFF5C),
    (0xFFE3, 0xFFE3)]

def ignoredRanges : List (Nat × Nat) :=
   [(0xAD, 0xAD), (0x34F, 0x34F), (0x115F, 0x1160), (0x17B4, 0x17B5), (0x180B, 0x180F),
    (0x200B, 0x200B), (0x2060, 0x2064), (0x206A, 0x206F), (0x3164, 0x3164), (0xFE00, 0xFE0F),
    (0xFEFF, 0xFEFF), (0xFFA0, 0xFFA0), (0x1BCA0, 0x1BCA3), (0x1D173, 0x1D17A), (0xE0100, 0xE01EF)]

def refusedRanges : List (Nat × Nat) :=
   [(0x2024, 0x2026), (0x2488, 0x249B), (0x2FF0, 0x2FFB), (0x33C2, 0x33C2), (0x33C7, 0x33C7),
    (0x33D8, 0x33D8), (0xFE12, 0xFE12), (0xFE19, 0xFE19), (0xFE30, 0xFE30), (0xFE52, 0xFE52),
    (0xFFFC, 0xFFFD), (0x1F100, 0x1F100)]

def spacingMarkRanges : List (Nat × Nat) :=
   [(0x903, 0x903), (0x93B, 0x93B), (0x93E, 0x940), (0x949, 0x94C), (0x94E, 0x94F), (0x982, 0x983),
    (0x9BF, 0x9C0), (0x9C7, 0x9C8), (0x9CB, 0x9CC), (0xA03, 0xA03), (0xA3E, 0xA40), (0xA83, 0xA83),
    (0xABE, 0xAC0), (0xAC9, 0xAC9), (0xACB, 0xACC), (0xB02, 0xB03), (0xB40, 0xB40), (0xB47, 0xB48),
    (0xB4B, 0xB4C), (0xBBF, 0xBBF), (0xBC1, 0xBC2), (0xBC6, 0xBC8), (0xBCA, 0xBCC), (0xC01, 0xC03),
    (0xC41, 0xC44), (0xC82, 0xC83), (0xCBE, 0xCBE), (0xCC0, 0xCC1), (0xCC3, 0xCC4), (0xCC7, 0xCC8),
    (0xCCA, 0xCCB), (0xCF3, 0xCF3), (0xD02, 0xD03), (0xD3F, 0xD40), (0xD46, 0xD48), (0xD4A, 0xD4C),
    (0xD82, 0xD83), (0xDD0, 0xDD1), (0xDD8, 0xDDE), (0xDF2, 0xDF3), (0xF3E, 0xF3F), (0xF7F, 0xF7F),
    (0x102B, 0x102C), (0x1031, 0x1031), (0x1038, 0x1038), (0x103B, 0x103C), (0x1056, 0x1057),
    (0x1062, 0x1064), (0x1067, 0x106D), (0x1083, 0x1084), (0x1087, 0x108C), (0x108F, 0x108F),
    (0x109A, 0x109C), (0x1715, 0x1715), (0x1734, 0x1734), (0x17B6, 0x17B6), (0x17BE, 0x17C5),
    (0x17C7, 0x17C8), (0x1923, 0x1926), (0x1929, 0x192B), (0x1930, 0x1931), (0x1933, 0x1938),
    (0x1A19, 0x1A1A), (0x1A55, 0x1A55), (0x1A57, 0x1A57), (0x1A61, 0x1A61), (0x1A63, 0x1A64),
    (0x1A6D, 0x1A72), (0x1B04, 0x1B04), (0x1B3B, 0x1B3B), (0x1B3D, 0x1B41), (0x1B43, 0x1B44),
    (0x1B82, 0x1B82), (0x1BA1, 0x1BA1), (0x1BA6, 0x1BA7), (0x1BAA, 0x1BAA), (0x1BE7, 0x1BE7),
    (0x1BEA, 0x1BEC), (0x1BEE, 0x1BEE), (0x1BF2, 0x1BF3), (0x1C24, 0x1C2B), (0x1C34, 0x1C35),
    (0x1CE1, 0x1CE1), (0x1CF7, 0x1CF7), (0xA823, 0xA824), (0xA827, 0xA827), (0xA880, 0xA881),
    (0xA8B4, 0xA8C3), (0xA952, 0xA953), (0xA983, 0xA983), (0xA9B4, 0xA9B5), (0xA9BA, 0xA9BB),
    (0xA9BE, 0xA9C0), (0xAA2F, 0xAA30), (0xAA33, 0xAA34), (0xAA4D, 0xAA4D), (0xAA7B, 0xAA7B),
    (0xAA7D, 0xAA7D), (0xAAEB, 0xAAEB), (0xAAEE, 0xAAEF), (0xAAF5, 0xAAF5), (0xABE3, 0xABE4),
    (0xABE6, 0xABE7), (0xABE9, 0xABEA), (0xABEC, 0xABEC), (0x11000, 0x11000), (0x11002, 0x11002),
    (0x11082, 0x11082), (0x110B0, 0x110B2), (0x110B7, 0x110B8), (0x1112C, 0x1112C),
    (0x11145, 0x11146), (0x11182, 0x11182), (0x111B3, 0x111B5), (0x111BF, 0x111C0),
    (0x111CE, 0x111CE), (0x1122C, 0x1122E), (0x11232, 0x11233), (0x11235, 0x11235),
    (0x112E0, 0x112E2), (0x11302, 0x11303), (0x1133F, 0x1133F), (0x11341, 0x11344),
    (0x11347, 0x11348), (0x1134B, 0x1134D), (0x11362, 0x11363), (0x11435, 0x11437),
    (0x11440, 0x11441), (0x11445, 0x11445), (0x114B1, 0x114B2), (0x114B9, 0x114B9),
    (0x114BB, 0x114BC), (0x114BE, 0x114BE), (0x114C1, 0x114C1), (0x115B0, 0x115B1),
    (0x115B8, 0x115BB), (0x115BE, 0x115BE), (0x11630, 0x11632), (0x1163B, 0x1163C),
    (0x1163E, 0x1163E), (0x116AC, 0x116AC), (0x116AE, 0x116AF), (0x116B6, 0x116B6),
    (0x11720, 0x11721), (0x11726, 0x11726), (0x1182C, 0x1182E), (0x11838, 0x11838),
    (0x11931, 0x11935), (0x11937, 0x11938), (0x1193D, 0x1193D), (0x11940, 0x11940),
    (0x11942, 0x11942), (0x119D1, 0x119D3), (0x119DC, 0x119DF), (0x119E4, 0x119E4),
    (0x11A39, 0x11A39), (0x11A57, 0x11A58), (0x11A97, 0x11A97), (0x11C2F, 0x11C2F),
    (0x11C3E, 0x11C3E), (0x11CA9, 0x11CA9), (0x11CB1, 0x11CB1), (0x11CB4, 0x11CB4),
    (0x11D8A, 0x11D8E), (0x11D93, 0x11D94), (0x11D96, 0x11D96), (0x11EF5, 0x11EF6),
    (0x11F03, 0x11F03), (0x11F34, 0x11F35), (0x11F3E, 0x11F3F), (0x11F41, 0x11F41),
    (0x16F51, 0x16F87), (0x16FF0, 0x16FF1), (0x1D166, 0x1D166), (0x1D16D, 0x1D16D)]

end Entitlement.Domain
