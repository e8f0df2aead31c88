/-!
# Character data of scripts

* `rightRanges` : the letters that run from right to left;
* `arabicDigitRanges`, `digitRanges` : the digits of Arabic, and those of Europe;
* `neutralRanges` : the signs that take the direction of what is around them;
* `spacedRanges`, `leftMarkRanges` : the code points with the property Grapheme_Extend that run from
  left to right, as letters do, with space of their own and without;
* `viramaRanges` : the signs that take a vowel away;
* `joinsNextRanges`, `joinsPreviousRanges` : the letters that join the one after them, and the one
  before them.

A code point that no name has may lie in the range of its neighbours.
-/

namespace Entitlement.Domain

def rightRanges : List (Nat × Nat) :=
   [(0x5BE, 0x5BE), (0x5C0, 0x5C0), (0x5C3, 0x5C3), (0x5C6, 0x5C6), (0x5D0, 0x5F4), (0x608, 0x608),
    (0x60B, 0x60B), (0x60D, 0x60D), (0x61B, 0x64A), (0x66D, 0x66F), (0x671, 0x6D5), (0x6E5, 0x6E6),
    (0x6EE, 0x6EF), (0x6FA, 0x710), (0x712, 0x72F), (0x74D, 0x7A5), (0x7B1, 0x7EA), (0x7F4, 0x7F5),
    (0x7FA, 0x7FA), (0x7FE, 0x815), (0x81A, 0x81A), (0x824, 0x824), (0x828, 0x828), (0x830, 0x858),
    (0x85E, 0x88E), (0x8A0, 0x8C9), (0xFB1D, 0xFB1D), (0xFB1F, 0xFD3D), (0xFD50, 0xFDC7),
    (0xFDF0, 0xFDFC), (0xFE71, 0xFEFC), (0x10800, 0x1091B), (0x10920, 0x10A00), (0x10A10, 0x10A35),
    (0x10A40, 0x10AE4), (0x10AEB, 0x10B35), (0x10B40, 0x10D23), (0x10D4A, 0x10D65),
    (0x10D6F, 0x10D8F), (0x10E80, 0x10EA9), (0x10EAD, 0x10EC4), (0x10F00, 0x10F45),
    (0x10F51, 0x10F81), (0x10F86, 0x10FF6), (0x1E800, 0x1E8CF), (0x1E900, 0x1E943),
    (0x1E94B, 0x1EEBB)]

def arabicDigitRanges : List (Nat × Nat) :=
   [(0x660, 0x669), (0x66B, 0x66C), (0x10D30, 0x10D49), (0x10E60, 0x10E7E)]

def digitRanges : List (Nat × Nat) :=
   [(0x30, 0x39), (0x6F0, 0x6F9), (0x102E1, 0x102FB), (0x1F101, 0x1F10A)]

def neutralRanges : List (Nat × Nat) :=
   [(0x21, 0x2F), (0x3A, 0x40), (0x5B, 0x60), (0x7B, 0x7E), (0xA1, 0xB1), (0xB6, 0xBF),
    (0xD7, 0xD7), (0xF7, 0xF7), (0x2B9, 0x2BA), (0x2C2, 0x2CF), (0x2D2, 0x2DF), (0x2E5, 0x2ED),
    (0x2EF, 0x2FF), (0x374, 0x375), (0x387, 0x387), (0x3F6, 0x3F6), (0x58A, 0x58F), (0x606, 0x607),
    (0x609, 0x60A), (0x60C, 0x60C), (0x60E, 0x60F), (0x66A, 0x66A), (0x6DE, 0x6DE), (0x6E9, 0x6E9),
    (0x7F6, 0x7F9), (0x9F2, 0x9F3), (0x9FB, 0x9FB), (0xAF1, 0xAF1), (0xBF3, 0xBFA), (0xC78, 0xC7E),
    (0xE3F, 0xE3F), (0xF3A, 0xF3D), (0x1390, 0x1399), (0x1400, 0x1400), (0x169B, 0x169C),
    (0x17DB, 0x17DB), (0x17F0, 0x180A), (0x1940, 0x1945), (0x19DE, 0x19FF), (0x200C, 0x208B),
    (0x20A0, 0x20C0), (0x2103, 0x2104), (0x2108, 0x2109), (0x2114, 0x2125), (0x2127, 0x2129),
    (0x212E, 0x212E), (0x213A, 0x213B), (0x2140, 0x214D), (0x2150, 0x215F), (0x2189, 0x2335),
    (0x237B, 0x2394), (0x2396, 0x2487), (0x24EB, 0x26AB), (0x26AD, 0x27FF), (0x2900, 0x2BFF),
    (0x2CE5, 0x2CEA), (0x2CF9, 0x2CFF), (0x2E00, 0x3004), (0x3008, 0x3020), (0x3030, 0x3030),
    (0x3036, 0x3037), (0x303D, 0x303F), (0x30A0, 0x30A0), (0x30FB, 0x30FB), (0x31C0, 0x31E5),
    (0x321D, 0x321E), (0x3250, 0x325F), (0x327C, 0x327E), (0x32B1, 0x32BF), (0x32CC, 0x32CF),
    (0x3377, 0x337A), (0x33DE, 0x33DF), (0x33FF, 0x33FF), (0x4DC0, 0x4DFF), (0xA490, 0xA4C6),
    (0xA60D, 0xA60F), (0xA673, 0xA673), (0xA67E, 0xA67F), (0xA700, 0xA721), (0xA788, 0xA788),
    (0xA828, 0xA82B), (0xA838, 0xA839), (0xA874, 0xA877), (0xAB6A, 0xAB6B), (0xFD3E, 0xFD4F),
    (0xFDCF, 0xFDCF), (0xFDFD, 0xFE18), (0xFE31, 0xFE5E), (0xFF5F, 0xFF65), (0xFFE0, 0xFFEE),
    (0x10101, 0x10101), (0x10140, 0x1018C), (0x10190, 0x101A0), (0x1091F, 0x1091F),
    (0x10B39, 0x10B3F), (0x10D6E, 0x10D6E), (0x11052, 0x11065), (0x11660, 0x1166C),
    (0x11FD5, 0x11FF1), (0x16FE2, 0x16FE2), (0x1CC00, 0x1CEB3), (0x1D1E9, 0x1D241),
    (0x1D245, 0x1D245), (0x1D300, 0x1D356), (0x1D6DB, 0x1D6DB), (0x1D715, 0x1D715),
    (0x1D74F, 0x1D74F), (0x1D789, 0x1D789), (0x1D7C3, 0x1D7C3), (0x1E2FF, 0x1E2FF),
    (0x1EEF0, 0x1F0F5), (0x1F10B, 0x1F10F), (0x1F12F, 0x1F12F), (0x1F16A, 0x1F16F),
    (0x1F1AD, 0x1F1AD), (0x1F260, 0x1FBEF)]

def spacedRanges : List (Nat × Nat) :=
   [(0x9BE, 0x9BE), (0x9D7, 0x9D7), (0xB3E, 0xB3E), (0xB57, 0xB57), (0xBBE, 0xBBE), (0xBD7, 0xBD7),
    (0xCC2, 0xCC2), (0xCD5, 0xCD6), (0xD3E, 0xD3E), (0xD57, 0xD57), (0xDCF, 0xDCF), (0xDDF, 0xDDF),
    (0x1B35, 0x1B35), (0x302E, 0x302F), (0xFF9E, 0xFF9F), (0x1133E, 0x1133E), (0x11357, 0x11357),
    (0x113B8, 0x113B8), (0x113C2, 0x113C9), (0x113CF, 0x113CF), (0x114B0, 0x114B0),
    (0x114BD, 0x114BD), (0x115AF, 0x115AF), (0x11930, 0x11930), (0x1D165, 0x1D165),
    (0x1D16E, 0x1D172)]

def leftMarkRanges : List (Nat × Nat) :=
   [(0xCBF, 0xCBF), (0xCC6, 0xCC6), (0x11A07, 0x11A08), (0x11C3F, 0x11C3F)]

def viramaRanges : List (Nat × Nat) :=
   [(0x94D, 0x94D), (0x9CD, 0x9CD), (0xA4D, 0xA4D), (0xACD, 0xACD), (0xB4D, 0xB4D), (0xBCD, 0xBCD),
    (0xC4D, 0xC4D), (0xCCD, 0xCCD), (0xD3B, 0xD3C), (0xD4D, 0xD4D), (0xDCA, 0xDCA), (0xE3A, 0xE3A),
    (0xEBA, 0xEBA), (0xF84, 0xF84), (0x1039, 0x103A), (0x1714, 0x1715), (0x1734, 0x1734),
    (0x17D2, 0x17D2), (0x1A60, 0x1A60), (0x1B44, 0x1B44), (0x1BAA, 0x1BAB), (0x1BF2, 0x1BF3),
    (0x2D7F, 0x2D7F), (0xA806, 0xA806), (0xA82C, 0xA82C), (0xA8C4, 0xA8C4), (0xA953, 0xA953),
    (0xA9C0, 0xA9C0), (0xAAF6, 0xAAF6), (0xABED, 0xABED), (0x10A3F, 0x10A3F), (0x11046, 0x11046),
    (0x11070, 0x11070), (0x1107F, 0x1107F), (0x110B9, 0x110B9), (0x11133, 0x11134),
    (0x111C0, 0x111C0), (0x11235, 0x11235), (0x112EA, 0x112EA), (0x1134D, 0x1134D),
    (0x113CE, 0x113D0), (0x11442, 0x11442), (0x114C2, 0x114C2), (0x115BF, 0x115BF),
    (0x1163F, 0x1163F), (0x116B6, 0x116B6), (0x1172B, 0x1172B), (0x11839, 0x11839),
    (0x1193D, 0x1193E), (0x119E0, 0x119E0), (0x11A34, 0x11A34), (0x11A47, 0x11A47),
    (0x11A99, 0x11A99), (0x11C3F, 0x11C3F), (0x11D44, 0x11D45), (0x11D97, 0x11D97),
    (0x11F41, 0x11F42), (0x1612F, 0x1612F)]

def joinsNextRanges : List (Nat × Nat) :=
   [(0x620, 0x620), (0x626, 0x626), (0x628, 0x628), (0x62A, 0x62E), (0x633, 0x63F), (0x641, 0x647),
    (0x649, 0x64A), (0x66E, 0x66F), (0x678, 0x687), (0x69A, 0x6BF), (0x6C1, 0x6C2), (0x6CC, 0x6CC),
    (0x6CE, 0x6CE), (0x6D0, 0x6D1), (0x6FA, 0x6FC), (0x6FF, 0x6FF), (0x712, 0x714), (0x71A, 0x71D),
    (0x71F, 0x727), (0x729, 0x729), (0x72B, 0x72B), (0x72D, 0x72E), (0x74E, 0x758), (0x75C, 0x76A),
    (0x76D, 0x770), (0x772, 0x772), (0x775, 0x777), (0x77A, 0x77F), (0x7CA, 0x7EA), (0x841, 0x845),
    (0x848, 0x848), (0x84A, 0x853), (0x855, 0x855), (0x860, 0x860), (0x862, 0x865), (0x868, 0x868),
    (0x886, 0x886), (0x889, 0x88D), (0x8A0, 0x8A9), (0x8AF, 0x8B0), (0x8B3, 0x8B8), (0x8BA, 0x8C8),
    (0x1807, 0x1807), (0x1820, 0x1878), (0x1887, 0x18A8), (0x18AA, 0x18AA), (0xA840, 0xA872),
    (0x10AC0, 0x10AC4), (0x10ACD, 0x10ACD), (0x10AD3, 0x10ADC), (0x10ADE, 0x10AE0),
    (0x10AEB, 0x10AEE), (0x10B80, 0x10B80), (0x10B82, 0x10B82), (0x10B86, 0x10B88),
    (0x10B8A, 0x10B8B), (0x10B8D, 0x10B8D), (0x10B90, 0x10B90), (0x10BAD, 0x10BAE),
    (0x10D00, 0x10D21), (0x10D23, 0x10D23), (0x10EC3, 0x10EC4), (0x10F30, 0x10F32),
    (0x10F34, 0x10F44), (0x10F51, 0x10F53), (0x10F70, 0x10F73), (0x10F76, 0x10F81),
    (0x10FB0, 0x10FB0), (0x10FB2, 0x10FB3), (0x10FB8, 0x10FB8), (0x10FBB, 0x10FBC),
    (0x10FBE, 0x10FBF), (0x10FC1, 0x10FC1), (0x10FC4, 0x10FC4), (0x10FCA, 0x10FCB),
    (0x1E900, 0x1E943)]

def joinsPreviousRanges : List (Nat × Nat) :=
   [(0x620, 0x620), (0x622, 0x63F), (0x641, 0x64A), (0x66E, 0x66F), (0x671, 0x673), (0x675, 0x6D3),
    (0x6D5, 0x6D5), (0x6EE, 0x6EF), (0x6FA, 0x6FC), (0x6FF, 0x6FF), (0x710, 0x710), (0x712, 0x72F),
    (0x74D, 0x77F), (0x7CA, 0x7EA), (0x840, 0x858), (0x860, 0x860), (0x862, 0x865), (0x867, 0x882),
    (0x886, 0x886), (0x889, 0x88E), (0x8A0, 0x8AC), (0x8AE, 0x8C8), (0x1807, 0x1807),
    (0x1820, 0x1878), (0x1887, 0x18A8), (0x18AA, 0x18AA), (0xA840, 0xA871), (0x10AC0, 0x10AC5),
    (0x10AC7, 0x10AC7), (0x10AC9, 0x10ACA), (0x10ACE, 0x10AD6), (0x10AD8, 0x10AE1),
    (0x10AE4, 0x10AE4), (0x10AEB, 0x10AEF), (0x10B80, 0x10B91), (0x10BA9, 0x10BAE),
    (0x10D01, 0x10D23), (0x10EC2, 0x10EC4), (0x10F30, 0x10F44), (0x10F51, 0x10F54),
    (0x10F70, 0x10F81), (0x10FB0, 0x10FB0), (0x10FB2, 0x10FB6), (0x10FB8, 0x10FBF),
    (0x10FC1, 0x10FC4), (0x10FC9, 0x10FCA), (0x1E900, 0x1E943)]

end Entitlement.Domain
