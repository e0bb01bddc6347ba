import WlanAdmin.Domain.CodeRange

/-!
# WlanAdmin.Domain.PropertyTable

Properties of the characters that domain names may hold, in rows of ranges in increasing order. What
is in no range has the usual value. Between two characters that may occur, a range may cover ones
that may not.

The rows are those of Unicode 15.0, and `MappingTable` is of Unicode 17.0. So a character that came
in between may occur, and has the usual value of every property.
-/

namespace WlanAdmin.Domain

/-- Characters that are also written as two others. -/
def pairRows : List (List (Nat × Nat × Nat)) := [
  [(0xE0, 0x61, 0x300), (0xE1, 0x61, 0x301), (0xE2, 0x61, 0x302), (0xE3, 0x61, 0x303)],
  [(0xE4, 0x61, 0x308), (0xE5, 0x61, 0x30A), (0xE7, 0x63, 0x327), (0xE8, 0x65, 0x300)],
  [(0xE9, 0x65, 0x301), (0xEA, 0x65, 0x302), (0xEB, 0x65, 0x308), (0xEC, 0x69, 0x300)],
  [(0xED, 0x69, 0x301), (0xEE, 0x69, 0x302), (0xEF, 0x69, 0x308), (0xF1, 0x6E, 0x303)],
  [(0xF2, 0x6F, 0x300), (0xF3, 0x6F, 0x301), (0xF4, 0x6F, 0x302), (0xF5, 0x6F, 0x303)],
  [(0xF6, 0x6F, 0x308), (0xF9, 0x75, 0x300), (0xFA, 0x75, 0x301), (0xFB, 0x75, 0x302)],
  [(0xFC, 0x75, 0x308), (0xFD, 0x79, 0x301), (0xFF, 0x79, 0x308), (0x101, 0x61, 0x304)],
  [(0x103, 0x61, 0x306), (0x105, 0x61, 0x328), (0x107, 0x63, 0x301), (0x109, 0x63, 0x302)],
  [(0x10B, 0x63, 0x307), (0x10D, 0x63, 0x30C), (0x10F, 0x64, 0x30C), (0x113, 0x65, 0x304)],
  [(0x115, 0x65, 0x306), (0x117, 0x65, 0x307), (0x119, 0x65, 0x328), (0x11B, 0x65, 0x30C)],
  [(0x11D, 0x67, 0x302), (0x11F, 0x67, 0x306), (0x121, 0x67, 0x307), (0x123, 0x67, 0x327)],
  [(0x125, 0x68, 0x302), (0x129, 0x69, 0x303), (0x12B, 0x69, 0x304), (0x12D, 0x69, 0x306)],
  [(0x12F, 0x69, 0x328), (0x135, 0x6A, 0x302), (0x137, 0x6B, 0x327), (0x13A, 0x6C, 0x301)],
  [(0x13C, 0x6C, 0x327), (0x13E, 0x6C, 0x30C), (0x144, 0x6E, 0x301), (0x146, 0x6E, 0x327)],
  [(0x148, 0x6E, 0x30C), (0x14D, 0x6F, 0x304), (0x14F, 0x6F, 0x306), (0x151, 0x6F, 0x30B)],
  [(0x155, 0x72, 0x301), (0x157, 0x72, 0x327), (0x159, 0x72, 0x30C), (0x15B, 0x73, 0x301)],
  [(0x15D, 0x73, 0x302), (0x15F, 0x73, 0x327), (0x161, 0x73, 0x30C), (0x163, 0x74, 0x327)],
  [(0x165, 0x74, 0x30C), (0x169, 0x75, 0x303), (0x16B, 0x75, 0x304), (0x16D, 0x75, 0x306)],
  [(0x16F, 0x75, 0x30A), (0x171, 0x75, 0x30B), (0x173, 0x75, 0x328), (0x175, 0x77, 0x302)],
  [(0x177, 0x79, 0x302), (0x17A, 0x7A, 0x301), (0x17C, 0x7A, 0x307), (0x17E, 0x7A, 0x30C)],
  [(0x1A1, 0x6F, 0x31B), (0x1B0, 0x75, 0x31B), (0x1CE, 0x61, 0x30C), (0x1D0, 0x69, 0x30C)],
  [(0x1D2, 0x6F, 0x30C), (0x1D4, 0x75, 0x30C), (0x1D6, 0xFC, 0x304), (0x1D8, 0xFC, 0x301)],
  [(0x1DA, 0xFC, 0x30C), (0x1DC, 0xFC, 0x300), (0x1DF, 0xE4, 0x304), (0x1E1, 0x227, 0x304)],
  [(0x1E3, 0xE6, 0x304), (0x1E7, 0x67, 0x30C), (0x1E9, 0x6B, 0x30C), (0x1EB, 0x6F, 0x328)],
  [(0x1ED, 0x1EB, 0x304), (0x1EF, 0x292, 0x30C), (0x1F0, 0x6A, 0x30C), (0x1F5, 0x67, 0x301)],
  [(0x1F9, 0x6E, 0x300), (0x1FB, 0xE5, 0x301), (0x1FD, 0xE6, 0x301), (0x1FF, 0xF8, 0x301)],
  [(0x201, 0x61, 0x30F), (0x203, 0x61, 0x311), (0x205, 0x65, 0x30F), (0x207, 0x65, 0x311)],
  [(0x209, 0x69, 0x30F), (0x20B, 0x69, 0x311), (0x20D, 0x6F, 0x30F), (0x20F, 0x6F, 0x311)],
  [(0x211, 0x72, 0x30F), (0x213, 0x72, 0x311), (0x215, 0x75, 0x30F), (0x217, 0x75, 0x311)],
  [(0x219, 0x73, 0x326), (0x21B, 0x74, 0x326), (0x21F, 0x68, 0x30C), (0x227, 0x61, 0x307)],
  [(0x229, 0x65, 0x327), (0x22B, 0xF6, 0x304), (0x22D, 0xF5, 0x304), (0x22F, 0x6F, 0x307)],
  [(0x231, 0x22F, 0x304), (0x233, 0x79, 0x304), (0x390, 0x3CA, 0x301), (0x3AC, 0x3B1, 0x301)],
  [(0x3AD, 0x3B5, 0x301), (0x3AE, 0x3B7, 0x301), (0x3AF, 0x3B9, 0x301), (0x3B0, 0x3CB, 0x301)],
  [(0x3CA, 0x3B9, 0x308), (0x3CB, 0x3C5, 0x308), (0x3CC, 0x3BF, 0x301), (0x3CD, 0x3C5, 0x301)],
  [(0x3CE, 0x3C9, 0x301), (0x439, 0x438, 0x306), (0x450, 0x435, 0x300), (0x451, 0x435, 0x308)],
  [(0x453, 0x433, 0x301), (0x457, 0x456, 0x308), (0x45C, 0x43A, 0x301), (0x45D, 0x438, 0x300)],
  [(0x45E, 0x443, 0x306), (0x477, 0x475, 0x30F), (0x4C2, 0x436, 0x306), (0x4D1, 0x430, 0x306)],
  [(0x4D3, 0x430, 0x308), (0x4D7, 0x435, 0x306), (0x4DB, 0x4D9, 0x308), (0x4DD, 0x436, 0x308)],
  [(0x4DF, 0x437, 0x308), (0x4E3, 0x438, 0x304), (0x4E5, 0x438, 0x308), (0x4E7, 0x43E, 0x308)],
  [(0x4EB, 0x4E9, 0x308), (0x4ED, 0x44D, 0x308), (0x4EF, 0x443, 0x304), (0x4F1, 0x443, 0x308)],
  [(0x4F3, 0x443, 0x30B), (0x4F5, 0x447, 0x308), (0x4F9, 0x44B, 0x308), (0x622, 0x627, 0x653)],
  [(0x623, 0x627, 0x654), (0x624, 0x648, 0x654), (0x625, 0x627, 0x655), (0x626, 0x64A, 0x654)],
  [(0x6C0, 0x6D5, 0x654), (0x6C2, 0x6C1, 0x654), (0x6D3, 0x6D2, 0x654), (0x929, 0x928, 0x93C)],
  [(0x931, 0x930, 0x93C), (0x934, 0x933, 0x93C), (0x9CB, 0x9C7, 0x9BE), (0x9CC, 0x9C7, 0x9D7)],
  [(0xB48, 0xB47, 0xB56), (0xB4B, 0xB47, 0xB3E), (0xB4C, 0xB47, 0xB57), (0xB94, 0xB92, 0xBD7)],
  [(0xBCA, 0xBC6, 0xBBE), (0xBCB, 0xBC7, 0xBBE), (0xBCC, 0xBC6, 0xBD7), (0xC48, 0xC46, 0xC56)],
  [(0xCC0, 0xCBF, 0xCD5), (0xCC7, 0xCC6, 0xCD5), (0xCC8, 0xCC6, 0xCD6), (0xCCA, 0xCC6, 0xCC2)],
  [(0xCCB, 0xCCA, 0xCD5), (0xD4A, 0xD46, 0xD3E), (0xD4B, 0xD47, 0xD3E), (0xD4C, 0xD46, 0xD57)],
  [(0xDDA, 0xDD9, 0xDCA), (0xDDC, 0xDD9, 0xDCF), (0xDDD, 0xDDC, 0xDCA), (0xDDE, 0xDD9, 0xDDF)],
  [(0x1026, 0x1025, 0x102E), (0x1B06, 0x1B05, 0x1B35), (0x1B08, 0x1B07, 0x1B35)],
  [(0x1B0A, 0x1B09, 0x1B35), (0x1B0C, 0x1B0B, 0x1B35), (0x1B0E, 0x1B0D, 0x1B35)],
  [(0x1B12, 0x1B11, 0x1B35), (0x1B3B, 0x1B3A, 0x1B35), (0x1B3D, 0x1B3C, 0x1B35)],
  [(0x1B40, 0x1B3E, 0x1B35), (0x1B41, 0x1B3F, 0x1B35), (0x1B43, 0x1B42, 0x1B35)],
  [(0x1E01, 0x61, 0x325), (0x1E03, 0x62, 0x307), (0x1E05, 0x62, 0x323), (0x1E07, 0x62, 0x331)],
  [(0x1E09, 0xE7, 0x301), (0x1E0B, 0x64, 0x307), (0x1E0D, 0x64, 0x323), (0x1E0F, 0x64, 0x331)],
  [(0x1E11, 0x64, 0x327), (0x1E13, 0x64, 0x32D), (0x1E15, 0x113, 0x300), (0x1E17, 0x113, 0x301)],
  [(0x1E19, 0x65, 0x32D), (0x1E1B, 0x65, 0x330), (0x1E1D, 0x229, 0x306), (0x1E1F, 0x66, 0x307)],
  [(0x1E21, 0x67, 0x304), (0x1E23, 0x68, 0x307), (0x1E25, 0x68, 0x323), (0x1E27, 0x68, 0x308)],
  [(0x1E29, 0x68, 0x327), (0x1E2B, 0x68, 0x32E), (0x1E2D, 0x69, 0x330), (0x1E2F, 0xEF, 0x301)],
  [(0x1E31, 0x6B, 0x301), (0x1E33, 0x6B, 0x323), (0x1E35, 0x6B, 0x331), (0x1E37, 0x6C, 0x323)],
  [(0x1E39, 0x1E37, 0x304), (0x1E3B, 0x6C, 0x331), (0x1E3D, 0x6C, 0x32D), (0x1E3F, 0x6D, 0x301)],
  [(0x1E41, 0x6D, 0x307), (0x1E43, 0x6D, 0x323), (0x1E45, 0x6E, 0x307), (0x1E47, 0x6E, 0x323)],
  [(0x1E49, 0x6E, 0x331), (0x1E4B, 0x6E, 0x32D), (0x1E4D, 0xF5, 0x301), (0x1E4F, 0xF5, 0x308)],
  [(0x1E51, 0x14D, 0x300), (0x1E53, 0x14D, 0x301), (0x1E55, 0x70, 0x301), (0x1E57, 0x70, 0x307)],
  [(0x1E59, 0x72, 0x307), (0x1E5B, 0x72, 0x323), (0x1E5D, 0x1E5B, 0x304), (0x1E5F, 0x72, 0x331)],
  [(0x1E61, 0x73, 0x307), (0x1E63, 0x73, 0x323), (0x1E65, 0x15B, 0x307), (0x1E67, 0x161, 0x307)],
  [(0x1E69, 0x1E63, 0x307), (0x1E6B, 0x74, 0x307), (0x1E6D, 0x74, 0x323), (0x1E6F, 0x74, 0x331)],
  [(0x1E71, 0x74, 0x32D), (0x1E73, 0x75, 0x324), (0x1E75, 0x75, 0x330), (0x1E77, 0x75, 0x32D)],
  [(0x1E79, 0x169, 0x301), (0x1E7B, 0x16B, 0x308), (0x1E7D, 0x76, 0x303), (0x1E7F, 0x76, 0x323)],
  [(0x1E81, 0x77, 0x300), (0x1E83, 0x77, 0x301), (0x1E85, 0x77, 0x308), (0x1E87, 0x77, 0x307)],
  [(0x1E89, 0x77, 0x323), (0x1E8B, 0x78, 0x307), (0x1E8D, 0x78, 0x308), (0x1E8F, 0x79, 0x307)],
  [(0x1E91, 0x7A, 0x302), (0x1E93, 0x7A, 0x323), (0x1E95, 0x7A, 0x331), (0x1E96, 0x68, 0x331)],
  [(0x1E97, 0x74, 0x308), (0x1E98, 0x77, 0x30A), (0x1E99, 0x79, 0x30A), (0x1EA1, 0x61, 0x323)],
  [(0x1EA3, 0x61, 0x309), (0x1EA5, 0xE2, 0x301), (0x1EA7, 0xE2, 0x300), (0x1EA9, 0xE2, 0x309)],
  [(0x1EAB, 0xE2, 0x303), (0x1EAD, 0x1EA1, 0x302), (0x1EAF, 0x103, 0x301), (0x1EB1, 0x103, 0x300)],
  [(0x1EB3, 0x103, 0x309), (0x1EB5, 0x103, 0x303), (0x1EB7, 0x1EA1, 0x306), (0x1EB9, 0x65, 0x323)],
  [(0x1EBB, 0x65, 0x309), (0x1EBD, 0x65, 0x303), (0x1EBF, 0xEA, 0x301), (0x1EC1, 0xEA, 0x300)],
  [(0x1EC3, 0xEA, 0x309), (0x1EC5, 0xEA, 0x303), (0x1EC7, 0x1EB9, 0x302), (0x1EC9, 0x69, 0x309)],
  [(0x1ECB, 0x69, 0x323), (0x1ECD, 0x6F, 0x323), (0x1ECF, 0x6F, 0x309), (0x1ED1, 0xF4, 0x301)],
  [(0x1ED3, 0xF4, 0x300), (0x1ED5, 0xF4, 0x309), (0x1ED7, 0xF4, 0x303), (0x1ED9, 0x1ECD, 0x302)],
  [(0x1EDB, 0x1A1, 0x301), (0x1EDD, 0x1A1, 0x300), (0x1EDF, 0x1A1, 0x309), (0x1EE1, 0x1A1, 0x303)],
  [(0x1EE3, 0x1A1, 0x323), (0x1EE5, 0x75, 0x323), (0x1EE7, 0x75, 0x309), (0x1EE9, 0x1B0, 0x301)],
  [(0x1EEB, 0x1B0, 0x300), (0x1EED, 0x1B0, 0x309), (0x1EEF, 0x1B0, 0x303), (0x1EF1, 0x1B0, 0x323)],
  [(0x1EF3, 0x79, 0x300), (0x1EF5, 0x79, 0x323), (0x1EF7, 0x79, 0x309), (0x1EF9, 0x79, 0x303)],
  [(0x1F00, 0x3B1, 0x313), (0x1F01, 0x3B1, 0x314), (0x1F02, 0x1F00, 0x300)],
  [(0x1F03, 0x1F01, 0x300), (0x1F04, 0x1F00, 0x301), (0x1F05, 0x1F01, 0x301)],
  [(0x1F06, 0x1F00, 0x342), (0x1F07, 0x1F01, 0x342), (0x1F10, 0x3B5, 0x313)],
  [(0x1F11, 0x3B5, 0x314), (0x1F12, 0x1F10, 0x300), (0x1F13, 0x1F11, 0x300)],
  [(0x1F14, 0x1F10, 0x301), (0x1F15, 0x1F11, 0x301), (0x1F20, 0x3B7, 0x313)],
  [(0x1F21, 0x3B7, 0x314), (0x1F22, 0x1F20, 0x300), (0x1F23, 0x1F21, 0x300)],
  [(0x1F24, 0x1F20, 0x301), (0x1F25, 0x1F21, 0x301), (0x1F26, 0x1F20, 0x342)],
  [(0x1F27, 0x1F21, 0x342), (0x1F30, 0x3B9, 0x313), (0x1F31, 0x3B9, 0x314)],
  [(0x1F32, 0x1F30, 0x300), (0x1F33, 0x1F31, 0x300), (0x1F34, 0x1F30, 0x301)],
  [(0x1F35, 0x1F31, 0x301), (0x1F36, 0x1F30, 0x342), (0x1F37, 0x1F31, 0x342)],
  [(0x1F40, 0x3BF, 0x313), (0x1F41, 0x3BF, 0x314), (0x1F42, 0x1F40, 0x300)],
  [(0x1F43, 0x1F41, 0x300), (0x1F44, 0x1F40, 0x301), (0x1F45, 0x1F41, 0x301)],
  [(0x1F50, 0x3C5, 0x313), (0x1F51, 0x3C5, 0x314), (0x1F52, 0x1F50, 0x300)],
  [(0x1F53, 0x1F51, 0x300), (0x1F54, 0x1F50, 0x301), (0x1F55, 0x1F51, 0x301)],
  [(0x1F56, 0x1F50, 0x342), (0x1F57, 0x1F51, 0x342), (0x1F60, 0x3C9, 0x313)],
  [(0x1F61, 0x3C9, 0x314), (0x1F62, 0x1F60, 0x300), (0x1F63, 0x1F61, 0x300)],
  [(0x1F64, 0x1F60, 0x301), (0x1F65, 0x1F61, 0x301), (0x1F66, 0x1F60, 0x342)],
  [(0x1F67, 0x1F61, 0x342), (0x1F70, 0x3B1, 0x300), (0x1F72, 0x3B5, 0x300)],
  [(0x1F74, 0x3B7, 0x300), (0x1F76, 0x3B9, 0x300), (0x1F78, 0x3BF, 0x300), (0x1F7A, 0x3C5, 0x300)],
  [(0x1F7C, 0x3C9, 0x300), (0x1FB0, 0x3B1, 0x306), (0x1FB1, 0x3B1, 0x304), (0x1FB6, 0x3B1, 0x342)],
  [(0x1FC6, 0x3B7, 0x342), (0x1FD0, 0x3B9, 0x306), (0x1FD1, 0x3B9, 0x304), (0x1FD2, 0x3CA, 0x300)],
  [(0x1FD6, 0x3B9, 0x342), (0x1FD7, 0x3CA, 0x342), (0x1FE0, 0x3C5, 0x306), (0x1FE1, 0x3C5, 0x304)],
  [(0x1FE2, 0x3CB, 0x300), (0x1FE4, 0x3C1, 0x313), (0x1FE5, 0x3C1, 0x314), (0x1FE6, 0x3C5, 0x342)],
  [(0x1FE7, 0x3CB, 0x342), (0x1FF6, 0x3C9, 0x342), (0x219A, 0x2190, 0x338)],
  [(0x219B, 0x2192, 0x338), (0x21AE, 0x2194, 0x338), (0x21CD, 0x21D0, 0x338)],
  [(0x21CE, 0x21D4, 0x338), (0x21CF, 0x21D2, 0x338), (0x2204, 0x2203, 0x338)],
  [(0x2209, 0x2208, 0x338), (0x220C, 0x220B, 0x338), (0x2224, 0x2223, 0x338)],
  [(0x2226, 0x2225, 0x338), (0x2241, 0x223C, 0x338), (0x2244, 0x2243, 0x338)],
  [(0x2247, 0x2245, 0x338), (0x2249, 0x2248, 0x338), (0x2260, 0x3D, 0x338)],
  [(0x2262, 0x2261, 0x338), (0x226D, 0x224D, 0x338), (0x226E, 0x3C, 0x338), (0x226F, 0x3E, 0x338)],
  [(0x2270, 0x2264, 0x338), (0x2271, 0x2265, 0x338), (0x2274, 0x2272, 0x338)],
  [(0x2275, 0x2273, 0x338), (0x2278, 0x2276, 0x338), (0x2279, 0x2277, 0x338)],
  [(0x2280, 0x227A, 0x338), (0x2281, 0x227B, 0x338), (0x2284, 0x2282, 0x338)],
  [(0x2285, 0x2283, 0x338), (0x2288, 0x2286, 0x338), (0x2289, 0x2287, 0x338)],
  [(0x22AC, 0x22A2, 0x338), (0x22AD, 0x22A8, 0x338), (0x22AE, 0x22A9, 0x338)],
  [(0x22AF, 0x22AB, 0x338), (0x22E0, 0x227C, 0x338), (0x22E1, 0x227D, 0x338)],
  [(0x22E2, 0x2291, 0x338), (0x22E3, 0x2292, 0x338), (0x22EA, 0x22B2, 0x338)],
  [(0x22EB, 0x22B3, 0x338), (0x22EC, 0x22B4, 0x338), (0x22ED, 0x22B5, 0x338)],
  [(0x304C, 0x304B, 0x3099), (0x304E, 0x304D, 0x3099), (0x3050, 0x304F, 0x3099)],
  [(0x3052, 0x3051, 0x3099), (0x3054, 0x3053, 0x3099), (0x3056, 0x3055, 0x3099)],
  [(0x3058, 0x3057, 0x3099), (0x305A, 0x3059, 0x3099), (0x305C, 0x305B, 0x3099)],
  [(0x305E, 0x305D, 0x3099), (0x3060, 0x305F, 0x3099), (0x3062, 0x3061, 0x3099)],
  [(0x3065, 0x3064, 0x3099), (0x3067, 0x3066, 0x3099), (0x3069, 0x3068, 0x3099)],
  [(0x3070, 0x306F, 0x3099), (0x3071, 0x306F, 0x309A), (0x3073, 0x3072, 0x3099)],
  [(0x3074, 0x3072, 0x309A), (0x3076, 0x3075, 0x3099), (0x3077, 0x3075, 0x309A)],
  [(0x3079, 0x3078, 0x3099), (0x307A, 0x3078, 0x309A), (0x307C, 0x307B, 0x3099)],
  [(0x307D, 0x307B, 0x309A), (0x3094, 0x3046, 0x3099), (0x309E, 0x309D, 0x3099)],
  [(0x30AC, 0x30AB, 0x3099), (0x30AE, 0x30AD, 0x3099), (0x30B0, 0x30AF, 0x3099)],
  [(0x30B2, 0x30B1, 0x3099), (0x30B4, 0x30B3, 0x3099), (0x30B6, 0x30B5, 0x3099)],
  [(0x30B8, 0x30B7, 0x3099), (0x30BA, 0x30B9, 0x3099), (0x30BC, 0x30BB, 0x3099)],
  [(0x30BE, 0x30BD, 0x3099), (0x30C0, 0x30BF, 0x3099), (0x30C2, 0x30C1, 0x3099)],
  [(0x30C5, 0x30C4, 0x3099), (0x30C7, 0x30C6, 0x3099), (0x30C9, 0x30C8, 0x3099)],
  [(0x30D0, 0x30CF, 0x3099), (0x30D1, 0x30CF, 0x309A), (0x30D3, 0x30D2, 0x3099)],
  [(0x30D4, 0x30D2, 0x309A), (0x30D6, 0x30D5, 0x3099), (0x30D7, 0x30D5, 0x309A)],
  [(0x30D9, 0x30D8, 0x3099), (0x30DA, 0x30D8, 0x309A), (0x30DC, 0x30DB, 0x3099)],
  [(0x30DD, 0x30DB, 0x309A), (0x30F4, 0x30A6, 0x3099), (0x30F7, 0x30EF, 0x3099)],
  [(0x30F8, 0x30F0, 0x3099), (0x30F9, 0x30F1, 0x3099), (0x30FA, 0x30F2, 0x3099)],
  [(0x30FE, 0x30FD, 0x3099), (0x1109A, 0x11099, 0x110BA), (0x1109C, 0x1109B, 0x110BA)],
  [(0x110AB, 0x110A5, 0x110BA), (0x1112E, 0x11131, 0x11127), (0x1112F, 0x11132, 0x11127)],
  [(0x1134B, 0x11347, 0x1133E), (0x1134C, 0x11347, 0x11357), (0x114BB, 0x114B9, 0x114BA)],
  [(0x114BC, 0x114B9, 0x114B0), (0x114BE, 0x114B9, 0x114BD), (0x115BA, 0x115B8, 0x115AF)],
  [(0x115BB, 0x115B9, 0x115AF), (0x11938, 0x11935, 0x11930)]]

/-- The classes of characters that join the one before them. Those of different classes do not
touch, so their order does not matter. -/
def combiningRows : List (List (CodeRange Nat)) := [
  [⟨0x300, 0x314, 230⟩, ⟨0x315, 0x315, 232⟩, ⟨0x316, 0x319, 220⟩, ⟨0x31A, 0x31A, 232⟩],
  [⟨0x31B, 0x31B, 216⟩, ⟨0x31C, 0x320, 220⟩, ⟨0x321, 0x322, 202⟩, ⟨0x323, 0x326, 220⟩],
  [⟨0x327, 0x328, 202⟩, ⟨0x329, 0x333, 220⟩, ⟨0x334, 0x338, 1⟩, ⟨0x339, 0x33C, 220⟩],
  [⟨0x33D, 0x346, 230⟩, ⟨0x347, 0x349, 220⟩, ⟨0x34A, 0x34C, 230⟩, ⟨0x34D, 0x34E, 220⟩],
  [⟨0x350, 0x352, 230⟩, ⟨0x353, 0x356, 220⟩, ⟨0x357, 0x357, 230⟩, ⟨0x358, 0x358, 232⟩],
  [⟨0x359, 0x35A, 220⟩, ⟨0x35B, 0x35B, 230⟩, ⟨0x35C, 0x35C, 233⟩, ⟨0x35D, 0x35E, 234⟩],
  [⟨0x35F, 0x35F, 233⟩, ⟨0x360, 0x361, 234⟩, ⟨0x362, 0x362, 233⟩, ⟨0x363, 0x36F, 230⟩],
  [⟨0x483, 0x487, 230⟩, ⟨0x591, 0x591, 220⟩, ⟨0x592, 0x595, 230⟩, ⟨0x596, 0x596, 220⟩],
  [⟨0x597, 0x599, 230⟩, ⟨0x59A, 0x59A, 222⟩, ⟨0x59B, 0x59B, 220⟩, ⟨0x59C, 0x5A1, 230⟩],
  [⟨0x5A2, 0x5A7, 220⟩, ⟨0x5A8, 0x5A9, 230⟩, ⟨0x5AA, 0x5AA, 220⟩, ⟨0x5AB, 0x5AC, 230⟩],
  [⟨0x5AD, 0x5AD, 222⟩, ⟨0x5AE, 0x5AE, 228⟩, ⟨0x5AF, 0x5AF, 230⟩, ⟨0x5B0, 0x5B0, 10⟩],
  [⟨0x5B1, 0x5B1, 11⟩, ⟨0x5B2, 0x5B2, 12⟩, ⟨0x5B3, 0x5B3, 13⟩, ⟨0x5B4, 0x5B4, 14⟩],
  [⟨0x5B5, 0x5B5, 15⟩, ⟨0x5B6, 0x5B6, 16⟩, ⟨0x5B7, 0x5B7, 17⟩, ⟨0x5B8, 0x5B8, 18⟩],
  [⟨0x5B9, 0x5BA, 19⟩, ⟨0x5BB, 0x5BB, 20⟩, ⟨0x5BC, 0x5BC, 21⟩, ⟨0x5BD, 0x5BD, 22⟩],
  [⟨0x5BF, 0x5BF, 23⟩, ⟨0x5C1, 0x5C1, 24⟩, ⟨0x5C2, 0x5C2, 25⟩, ⟨0x5C4, 0x5C4, 230⟩],
  [⟨0x5C5, 0x5C5, 220⟩, ⟨0x5C7, 0x5C7, 18⟩, ⟨0x610, 0x617, 230⟩, ⟨0x618, 0x618, 30⟩],
  [⟨0x619, 0x619, 31⟩, ⟨0x61A, 0x61A, 32⟩, ⟨0x64B, 0x64B, 27⟩, ⟨0x64C, 0x64C, 28⟩],
  [⟨0x64D, 0x64D, 29⟩, ⟨0x64E, 0x64E, 30⟩, ⟨0x64F, 0x64F, 31⟩, ⟨0x650, 0x650, 32⟩],
  [⟨0x651, 0x651, 33⟩, ⟨0x652, 0x652, 34⟩, ⟨0x653, 0x654, 230⟩, ⟨0x655, 0x656, 220⟩],
  [⟨0x657, 0x65B, 230⟩, ⟨0x65C, 0x65C, 220⟩, ⟨0x65D, 0x65E, 230⟩, ⟨0x65F, 0x65F, 220⟩],
  [⟨0x670, 0x670, 35⟩, ⟨0x6D6, 0x6DC, 230⟩, ⟨0x6DF, 0x6E2, 230⟩, ⟨0x6E3, 0x6E3, 220⟩],
  [⟨0x6E4, 0x6E4, 230⟩, ⟨0x6E7, 0x6E8, 230⟩, ⟨0x6EA, 0x6EA, 220⟩, ⟨0x6EB, 0x6EC, 230⟩],
  [⟨0x6ED, 0x6ED, 220⟩, ⟨0x711, 0x711, 36⟩, ⟨0x730, 0x730, 230⟩, ⟨0x731, 0x731, 220⟩],
  [⟨0x732, 0x733, 230⟩, ⟨0x734, 0x734, 220⟩, ⟨0x735, 0x736, 230⟩, ⟨0x737, 0x739, 220⟩],
  [⟨0x73A, 0x73A, 230⟩, ⟨0x73B, 0x73C, 220⟩, ⟨0x73D, 0x73D, 230⟩, ⟨0x73E, 0x73E, 220⟩],
  [⟨0x73F, 0x741, 230⟩, ⟨0x742, 0x742, 220⟩, ⟨0x743, 0x743, 230⟩, ⟨0x744, 0x744, 220⟩],
  [⟨0x745, 0x745, 230⟩, ⟨0x746, 0x746, 220⟩, ⟨0x747, 0x747, 230⟩, ⟨0x748, 0x748, 220⟩],
  [⟨0x749, 0x74A, 230⟩, ⟨0x7EB, 0x7F1, 230⟩, ⟨0x7F2, 0x7F2, 220⟩, ⟨0x7F3, 0x7F3, 230⟩],
  [⟨0x7FD, 0x7FD, 220⟩, ⟨0x816, 0x819, 230⟩, ⟨0x81B, 0x823, 230⟩, ⟨0x825, 0x827, 230⟩],
  [⟨0x829, 0x82D, 230⟩, ⟨0x859, 0x85B, 220⟩, ⟨0x898, 0x898, 230⟩, ⟨0x899, 0x89B, 220⟩],
  [⟨0x89C, 0x89F, 230⟩, ⟨0x8CA, 0x8CE, 230⟩, ⟨0x8CF, 0x8D3, 220⟩, ⟨0x8D4, 0x8E1, 230⟩],
  [⟨0x8E3, 0x8E3, 220⟩, ⟨0x8E4, 0x8E5, 230⟩, ⟨0x8E6, 0x8E6, 220⟩, ⟨0x8E7, 0x8E8, 230⟩],
  [⟨0x8E9, 0x8E9, 220⟩, ⟨0x8EA, 0x8EC, 230⟩, ⟨0x8ED, 0x8EF, 220⟩, ⟨0x8F0, 0x8F0, 27⟩],
  [⟨0x8F1, 0x8F1, 28⟩, ⟨0x8F2, 0x8F2, 29⟩, ⟨0x8F3, 0x8F5, 230⟩, ⟨0x8F6, 0x8F6, 220⟩],
  [⟨0x8F7, 0x8F8, 230⟩, ⟨0x8F9, 0x8FA, 220⟩, ⟨0x8FB, 0x8FF, 230⟩, ⟨0x93C, 0x93C, 7⟩],
  [⟨0x94D, 0x94D, 9⟩, ⟨0x951, 0x951, 230⟩, ⟨0x952, 0x952, 220⟩, ⟨0x953, 0x954, 230⟩],
  [⟨0x9BC, 0x9BC, 7⟩, ⟨0x9CD, 0x9CD, 9⟩, ⟨0x9FE, 0x9FE, 230⟩, ⟨0xA3C, 0xA3C, 7⟩],
  [⟨0xA4D, 0xA4D, 9⟩, ⟨0xABC, 0xABC, 7⟩, ⟨0xACD, 0xACD, 9⟩, ⟨0xB3C, 0xB3C, 7⟩, ⟨0xB4D, 0xB4D, 9⟩],
  [⟨0xBCD, 0xBCD, 9⟩, ⟨0xC3C, 0xC3C, 7⟩, ⟨0xC4D, 0xC4D, 9⟩, ⟨0xC55, 0xC55, 84⟩],
  [⟨0xC56, 0xC56, 91⟩, ⟨0xCBC, 0xCBC, 7⟩, ⟨0xCCD, 0xCCD, 9⟩, ⟨0xD3B, 0xD3C, 9⟩, ⟨0xD4D, 0xD4D, 9⟩],
  [⟨0xDCA, 0xDCA, 9⟩, ⟨0xE38, 0xE39, 103⟩, ⟨0xE3A, 0xE3A, 9⟩, ⟨0xE48, 0xE4B, 107⟩],
  [⟨0xEB8, 0xEB9, 118⟩, ⟨0xEBA, 0xEBA, 9⟩, ⟨0xEC8, 0xECB, 122⟩, ⟨0xF18, 0xF19, 220⟩],
  [⟨0xF35, 0xF35, 220⟩, ⟨0xF37, 0xF37, 220⟩, ⟨0xF39, 0xF39, 216⟩, ⟨0xF71, 0xF71, 129⟩],
  [⟨0xF72, 0xF72, 130⟩, ⟨0xF74, 0xF74, 132⟩, ⟨0xF7A, 0xF7D, 130⟩, ⟨0xF80, 0xF80, 130⟩],
  [⟨0xF82, 0xF83, 230⟩, ⟨0xF84, 0xF84, 9⟩, ⟨0xF86, 0xF87, 230⟩, ⟨0xFC6, 0xFC6, 220⟩],
  [⟨0x1037, 0x1037, 7⟩, ⟨0x1039, 0x103A, 9⟩, ⟨0x108D, 0x108D, 220⟩, ⟨0x135D, 0x135F, 230⟩],
  [⟨0x1714, 0x1715, 9⟩, ⟨0x1734, 0x1734, 9⟩, ⟨0x17D2, 0x17D2, 9⟩, ⟨0x17DD, 0x17DD, 230⟩],
  [⟨0x18A9, 0x18A9, 228⟩, ⟨0x1939, 0x1939, 222⟩, ⟨0x193A, 0x193A, 230⟩, ⟨0x193B, 0x193B, 220⟩],
  [⟨0x1A17, 0x1A17, 230⟩, ⟨0x1A18, 0x1A18, 220⟩, ⟨0x1A60, 0x1A60, 9⟩, ⟨0x1A75, 0x1A7C, 230⟩],
  [⟨0x1A7F, 0x1A7F, 220⟩, ⟨0x1AB0, 0x1AB4, 230⟩, ⟨0x1AB5, 0x1ABA, 220⟩, ⟨0x1ABB, 0x1ABC, 230⟩],
  [⟨0x1ABD, 0x1ABD, 220⟩, ⟨0x1ABF, 0x1AC0, 220⟩, ⟨0x1AC1, 0x1AC2, 230⟩, ⟨0x1AC3, 0x1AC4, 220⟩],
  [⟨0x1AC5, 0x1AC9, 230⟩, ⟨0x1ACA, 0x1ACA, 220⟩, ⟨0x1ACB, 0x1ACE, 230⟩, ⟨0x1B34, 0x1B34, 7⟩],
  [⟨0x1B44, 0x1B44, 9⟩, ⟨0x1B6B, 0x1B6B, 230⟩, ⟨0x1B6C, 0x1B6C, 220⟩, ⟨0x1B6D, 0x1B73, 230⟩],
  [⟨0x1BAA, 0x1BAB, 9⟩, ⟨0x1BE6, 0x1BE6, 7⟩, ⟨0x1BF2, 0x1BF3, 9⟩, ⟨0x1C37, 0x1C37, 7⟩],
  [⟨0x1CD0, 0x1CD2, 230⟩, ⟨0x1CD4, 0x1CD4, 1⟩, ⟨0x1CD5, 0x1CD9, 220⟩, ⟨0x1CDA, 0x1CDB, 230⟩],
  [⟨0x1CDC, 0x1CDF, 220⟩, ⟨0x1CE0, 0x1CE0, 230⟩, ⟨0x1CE2, 0x1CE8, 1⟩, ⟨0x1CED, 0x1CED, 220⟩],
  [⟨0x1CF4, 0x1CF4, 230⟩, ⟨0x1CF8, 0x1CF9, 230⟩, ⟨0x1DC0, 0x1DC1, 230⟩, ⟨0x1DC2, 0x1DC2, 220⟩],
  [⟨0x1DC3, 0x1DC9, 230⟩, ⟨0x1DCA, 0x1DCA, 220⟩, ⟨0x1DCB, 0x1DCC, 230⟩, ⟨0x1DCD, 0x1DCD, 234⟩],
  [⟨0x1DCE, 0x1DCE, 214⟩, ⟨0x1DCF, 0x1DCF, 220⟩, ⟨0x1DD0, 0x1DD0, 202⟩, ⟨0x1DD1, 0x1DF5, 230⟩],
  [⟨0x1DF6, 0x1DF6, 232⟩, ⟨0x1DF7, 0x1DF8, 228⟩, ⟨0x1DF9, 0x1DF9, 220⟩, ⟨0x1DFA, 0x1DFA, 218⟩],
  [⟨0x1DFB, 0x1DFB, 230⟩, ⟨0x1DFC, 0x1DFC, 233⟩, ⟨0x1DFD, 0x1DFD, 220⟩, ⟨0x1DFE, 0x1DFE, 230⟩],
  [⟨0x1DFF, 0x1DFF, 220⟩, ⟨0x20D0, 0x20D1, 230⟩, ⟨0x20D2, 0x20D3, 1⟩, ⟨0x20D4, 0x20D7, 230⟩],
  [⟨0x20D8, 0x20DA, 1⟩, ⟨0x20DB, 0x20DC, 230⟩, ⟨0x20E1, 0x20E1, 230⟩, ⟨0x20E5, 0x20E6, 1⟩],
  [⟨0x20E7, 0x20E7, 230⟩, ⟨0x20E8, 0x20E8, 220⟩, ⟨0x20E9, 0x20E9, 230⟩, ⟨0x20EA, 0x20EB, 1⟩],
  [⟨0x20EC, 0x20EF, 220⟩, ⟨0x20F0, 0x20F0, 230⟩, ⟨0x2CEF, 0x2CF1, 230⟩, ⟨0x2D7F, 0x2D7F, 9⟩],
  [⟨0x2DE0, 0x2DFF, 230⟩, ⟨0x302A, 0x302A, 218⟩, ⟨0x302B, 0x302B, 228⟩, ⟨0x302C, 0x302C, 232⟩],
  [⟨0x302D, 0x302D, 222⟩, ⟨0x302E, 0x302F, 224⟩, ⟨0x3099, 0x309A, 8⟩, ⟨0xA66F, 0xA66F, 230⟩],
  [⟨0xA674, 0xA67D, 230⟩, ⟨0xA69E, 0xA69F, 230⟩, ⟨0xA6F0, 0xA6F1, 230⟩, ⟨0xA806, 0xA806, 9⟩],
  [⟨0xA82C, 0xA82C, 9⟩, ⟨0xA8C4, 0xA8C4, 9⟩, ⟨0xA8E0, 0xA8F1, 230⟩, ⟨0xA92B, 0xA92D, 220⟩],
  [⟨0xA953, 0xA953, 9⟩, ⟨0xA9B3, 0xA9B3, 7⟩, ⟨0xA9C0, 0xA9C0, 9⟩, ⟨0xAAB0, 0xAAB0, 230⟩],
  [⟨0xAAB2, 0xAAB3, 230⟩, ⟨0xAAB4, 0xAAB4, 220⟩, ⟨0xAAB7, 0xAAB8, 230⟩, ⟨0xAABE, 0xAABF, 230⟩],
  [⟨0xAAC1, 0xAAC1, 230⟩, ⟨0xAAF6, 0xAAF6, 9⟩, ⟨0xABED, 0xABED, 9⟩, ⟨0xFB1E, 0xFB1E, 26⟩],
  [⟨0xFE20, 0xFE26, 230⟩, ⟨0xFE27, 0xFE2D, 220⟩, ⟨0xFE2E, 0xFE2F, 230⟩, ⟨0x101FD, 0x101FD, 220⟩],
  [⟨0x102E0, 0x102E0, 220⟩, ⟨0x10376, 0x1037A, 230⟩, ⟨0x10A0D, 0x10A0D, 220⟩],
  [⟨0x10A0F, 0x10A0F, 230⟩, ⟨0x10A38, 0x10A38, 230⟩, ⟨0x10A39, 0x10A39, 1⟩],
  [⟨0x10A3A, 0x10A3A, 220⟩, ⟨0x10A3F, 0x10A3F, 9⟩, ⟨0x10AE5, 0x10AE5, 230⟩],
  [⟨0x10AE6, 0x10AE6, 220⟩, ⟨0x10D24, 0x10D27, 230⟩, ⟨0x10EAB, 0x10EAC, 230⟩],
  [⟨0x10EFD, 0x10EFF, 220⟩, ⟨0x10F46, 0x10F47, 220⟩, ⟨0x10F48, 0x10F4A, 230⟩],
  [⟨0x10F4B, 0x10F4B, 220⟩, ⟨0x10F4C, 0x10F4C, 230⟩, ⟨0x10F4D, 0x10F50, 220⟩],
  [⟨0x10F82, 0x10F82, 230⟩, ⟨0x10F83, 0x10F83, 220⟩, ⟨0x10F84, 0x10F84, 230⟩],
  [⟨0x10F85, 0x10F85, 220⟩, ⟨0x11046, 0x11046, 9⟩, ⟨0x11070, 0x11070, 9⟩, ⟨0x1107F, 0x1107F, 9⟩],
  [⟨0x110B9, 0x110B9, 9⟩, ⟨0x110BA, 0x110BA, 7⟩, ⟨0x11100, 0x11102, 230⟩, ⟨0x11133, 0x11134, 9⟩],
  [⟨0x11173, 0x11173, 7⟩, ⟨0x111C0, 0x111C0, 9⟩, ⟨0x111CA, 0x111CA, 7⟩, ⟨0x11235, 0x11235, 9⟩],
  [⟨0x11236, 0x11236, 7⟩, ⟨0x112E9, 0x112E9, 7⟩, ⟨0x112EA, 0x112EA, 9⟩, ⟨0x1133B, 0x1133C, 7⟩],
  [⟨0x1134D, 0x1134D, 9⟩, ⟨0x11366, 0x11374, 230⟩, ⟨0x11442, 0x11442, 9⟩, ⟨0x11446, 0x11446, 7⟩],
  [⟨0x1145E, 0x1145E, 230⟩, ⟨0x114C2, 0x114C2, 9⟩, ⟨0x114C3, 0x114C3, 7⟩, ⟨0x115BF, 0x115BF, 9⟩],
  [⟨0x115C0, 0x115C0, 7⟩, ⟨0x1163F, 0x1163F, 9⟩, ⟨0x116B6, 0x116B6, 9⟩, ⟨0x116B7, 0x116B7, 7⟩],
  [⟨0x1172B, 0x1172B, 9⟩, ⟨0x11839, 0x11839, 9⟩, ⟨0x1183A, 0x1183A, 7⟩, ⟨0x1193D, 0x1193E, 9⟩],
  [⟨0x11943, 0x11943, 7⟩, ⟨0x119E0, 0x119E0, 9⟩, ⟨0x11A34, 0x11A34, 9⟩, ⟨0x11A47, 0x11A47, 9⟩],
  [⟨0x11A99, 0x11A99, 9⟩, ⟨0x11C3F, 0x11C3F, 9⟩, ⟨0x11D42, 0x11D42, 7⟩, ⟨0x11D44, 0x11D45, 9⟩],
  [⟨0x11D97, 0x11D97, 9⟩, ⟨0x11F41, 0x11F42, 9⟩, ⟨0x16AF0, 0x16AF4, 1⟩, ⟨0x16B30, 0x16B36, 230⟩],
  [⟨0x16FF0, 0x16FF1, 6⟩, ⟨0x1BC9E, 0x1BC9E, 1⟩, ⟨0x1D165, 0x1D166, 216⟩, ⟨0x1D167, 0x1D169, 1⟩],
  [⟨0x1D16D, 0x1D16D, 226⟩, ⟨0x1D16E, 0x1D172, 216⟩, ⟨0x1D17B, 0x1D182, 220⟩],
  [⟨0x1D185, 0x1D189, 230⟩, ⟨0x1D18A, 0x1D18B, 220⟩, ⟨0x1D1AA, 0x1D1AD, 230⟩],
  [⟨0x1D242, 0x1D244, 230⟩, ⟨0x1E000, 0x1E08F, 230⟩, ⟨0x1E130, 0x1E136, 230⟩],
  [⟨0x1E2AE, 0x1E2AE, 230⟩, ⟨0x1E2EC, 0x1E2EF, 230⟩, ⟨0x1E4EC, 0x1E4ED, 232⟩],
  [⟨0x1E4EE, 0x1E4EE, 220⟩, ⟨0x1E4EF, 0x1E4EF, 230⟩, ⟨0x1E8D0, 0x1E8D6, 220⟩],
  [⟨0x1E944, 0x1E949, 230⟩, ⟨0x1E94A, 0x1E94A, 7⟩]]

/-- Marks: whether they have a width of their own. -/
def markRows : List (List (CodeRange Bool)) := [
  [⟨0x300, 0x36F, false⟩, ⟨0x483, 0x489, false⟩, ⟨0x591, 0x5BD, false⟩, ⟨0x5BF, 0x5BF, false⟩],
  [⟨0x5C1, 0x5C2, false⟩, ⟨0x5C4, 0x5C5, false⟩, ⟨0x5C7, 0x5C7, false⟩, ⟨0x610, 0x61A, false⟩],
  [⟨0x64B, 0x65F, false⟩, ⟨0x670, 0x670, false⟩, ⟨0x6D6, 0x6DC, false⟩, ⟨0x6DF, 0x6E4, false⟩],
  [⟨0x6E7, 0x6E8, false⟩, ⟨0x6EA, 0x6ED, false⟩, ⟨0x711, 0x711, false⟩, ⟨0x730, 0x74A, false⟩],
  [⟨0x7A6, 0x7B0, false⟩, ⟨0x7EB, 0x7F3, false⟩, ⟨0x7FD, 0x7FD, false⟩, ⟨0x816, 0x819, false⟩],
  [⟨0x81B, 0x823, false⟩, ⟨0x825, 0x827, false⟩, ⟨0x829, 0x82D, false⟩, ⟨0x859, 0x85B, false⟩],
  [⟨0x898, 0x89F, false⟩, ⟨0x8CA, 0x902, false⟩, ⟨0x903, 0x903, true⟩, ⟨0x93A, 0x93A, false⟩],
  [⟨0x93B, 0x93B, true⟩, ⟨0x93C, 0x93C, false⟩, ⟨0x93E, 0x940, true⟩, ⟨0x941, 0x948, false⟩],
  [⟨0x949, 0x94C, true⟩, ⟨0x94D, 0x94D, false⟩, ⟨0x94E, 0x94F, true⟩, ⟨0x951, 0x957, false⟩],
  [⟨0x962, 0x963, false⟩, ⟨0x981, 0x981, false⟩, ⟨0x982, 0x983, true⟩, ⟨0x9BC, 0x9BC, false⟩],
  [⟨0x9BE, 0x9C0, true⟩, ⟨0x9C1, 0x9C4, false⟩, ⟨0x9C7, 0x9CC, true⟩, ⟨0x9CD, 0x9CD, false⟩],
  [⟨0x9D7, 0x9D7, true⟩, ⟨0x9E2, 0x9E3, false⟩, ⟨0x9FE, 0xA02, false⟩, ⟨0xA03, 0xA03, true⟩],
  [⟨0xA3C, 0xA3C, false⟩, ⟨0xA3E, 0xA40, true⟩, ⟨0xA41, 0xA51, false⟩, ⟨0xA70, 0xA71, false⟩],
  [⟨0xA75, 0xA75, false⟩, ⟨0xA81, 0xA82, false⟩, ⟨0xA83, 0xA83, true⟩, ⟨0xABC, 0xABC, false⟩],
  [⟨0xABE, 0xAC0, true⟩, ⟨0xAC1, 0xAC8, false⟩, ⟨0xAC9, 0xACC, true⟩, ⟨0xACD, 0xACD, false⟩],
  [⟨0xAE2, 0xAE3, false⟩, ⟨0xAFA, 0xB01, false⟩, ⟨0xB02, 0xB03, true⟩, ⟨0xB3C, 0xB3C, false⟩],
  [⟨0xB3E, 0xB3E, true⟩, ⟨0xB3F, 0xB3F, false⟩, ⟨0xB40, 0xB40, true⟩, ⟨0xB41, 0xB44, false⟩],
  [⟨0xB47, 0xB4C, true⟩, ⟨0xB4D, 0xB56, false⟩, ⟨0xB57, 0xB57, true⟩, ⟨0xB62, 0xB63, false⟩],
  [⟨0xB82, 0xB82, false⟩, ⟨0xBBE, 0xBBF, true⟩, ⟨0xBC0, 0xBC0, false⟩, ⟨0xBC1, 0xBCC, true⟩],
  [⟨0xBCD, 0xBCD, false⟩, ⟨0xBD7, 0xBD7, true⟩, ⟨0xC00, 0xC00, false⟩, ⟨0xC01, 0xC03, true⟩],
  [⟨0xC04, 0xC04, false⟩, ⟨0xC3C, 0xC3C, false⟩, ⟨0xC3E, 0xC40, false⟩, ⟨0xC41, 0xC44, true⟩],
  [⟨0xC46, 0xC56, false⟩, ⟨0xC62, 0xC63, false⟩, ⟨0xC81, 0xC81, false⟩, ⟨0xC82, 0xC83, true⟩],
  [⟨0xCBC, 0xCBC, false⟩, ⟨0xCBE, 0xCBE, true⟩, ⟨0xCBF, 0xCBF, false⟩, ⟨0xCC0, 0xCC4, true⟩],
  [⟨0xCC6, 0xCC6, false⟩, ⟨0xCC7, 0xCCB, true⟩, ⟨0xCCC, 0xCCD, false⟩, ⟨0xCD5, 0xCD6, true⟩],
  [⟨0xCE2, 0xCE3, false⟩, ⟨0xCF3, 0xCF3, true⟩, ⟨0xD00, 0xD01, false⟩, ⟨0xD02, 0xD03, true⟩],
  [⟨0xD3B, 0xD3C, false⟩, ⟨0xD3E, 0xD40, true⟩, ⟨0xD41, 0xD44, false⟩, ⟨0xD46, 0xD4C, true⟩],
  [⟨0xD4D, 0xD4D, false⟩, ⟨0xD57, 0xD57, true⟩, ⟨0xD62, 0xD63, false⟩, ⟨0xD81, 0xD81, false⟩],
  [⟨0xD82, 0xD83, true⟩, ⟨0xDCA, 0xDCA, false⟩, ⟨0xDCF, 0xDD1, true⟩, ⟨0xDD2, 0xDD6, false⟩],
  [⟨0xDD8, 0xDDF, true⟩, ⟨0xDF2, 0xDF3, true⟩, ⟨0xE31, 0xE31, false⟩, ⟨0xE34, 0xE3A, false⟩],
  [⟨0xE47, 0xE4E, false⟩, ⟨0xEB1, 0xEB1, false⟩, ⟨0xEB4, 0xEBC, false⟩, ⟨0xEC8, 0xECE, false⟩],
  [⟨0xF18, 0xF19, false⟩, ⟨0xF35, 0xF35, false⟩, ⟨0xF37, 0xF37, false⟩, ⟨0xF39, 0xF39, false⟩],
  [⟨0xF3E, 0xF3F, true⟩, ⟨0xF71, 0xF7E, false⟩, ⟨0xF7F, 0xF7F, true⟩, ⟨0xF80, 0xF84, false⟩],
  [⟨0xF86, 0xF87, false⟩, ⟨0xF8D, 0xFBC, false⟩, ⟨0xFC6, 0xFC6, false⟩, ⟨0x102B, 0x102C, true⟩],
  [⟨0x102D, 0x1030, false⟩, ⟨0x1031, 0x1031, true⟩, ⟨0x1032, 0x1037, false⟩],
  [⟨0x1038, 0x1038, true⟩, ⟨0x1039, 0x103A, false⟩, ⟨0x103B, 0x103C, true⟩],
  [⟨0x103D, 0x103E, false⟩, ⟨0x1056, 0x1057, true⟩, ⟨0x1058, 0x1059, false⟩],
  [⟨0x105E, 0x1060, false⟩, ⟨0x1062, 0x1064, true⟩, ⟨0x1067, 0x106D, true⟩],
  [⟨0x1071, 0x1074, false⟩, ⟨0x1082, 0x1082, false⟩, ⟨0x1083, 0x1084, true⟩],
  [⟨0x1085, 0x1086, false⟩, ⟨0x1087, 0x108C, true⟩, ⟨0x108D, 0x108D, false⟩],
  [⟨0x108F, 0x108F, true⟩, ⟨0x109A, 0x109C, true⟩, ⟨0x109D, 0x109D, false⟩],
  [⟨0x135D, 0x135F, false⟩, ⟨0x1712, 0x1714, false⟩, ⟨0x1715, 0x1715, true⟩],
  [⟨0x1732, 0x1733, false⟩, ⟨0x1734, 0x1734, true⟩, ⟨0x1752, 0x1753, false⟩],
  [⟨0x1772, 0x1773, false⟩, ⟨0x17B6, 0x17B6, true⟩, ⟨0x17B7, 0x17BD, false⟩],
  [⟨0x17BE, 0x17C5, true⟩, ⟨0x17C6, 0x17C6, false⟩, ⟨0x17C7, 0x17C8, true⟩],
  [⟨0x17C9, 0x17D3, false⟩, ⟨0x17DD, 0x17DD, false⟩, ⟨0x1885, 0x1886, false⟩],
  [⟨0x18A9, 0x18A9, false⟩, ⟨0x1920, 0x1922, false⟩, ⟨0x1923, 0x1926, true⟩],
  [⟨0x1927, 0x1928, false⟩, ⟨0x1929, 0x1931, true⟩, ⟨0x1932, 0x1932, false⟩],
  [⟨0x1933, 0x1938, true⟩, ⟨0x1939, 0x193B, false⟩, ⟨0x1A17, 0x1A18, false⟩],
  [⟨0x1A19, 0x1A1A, true⟩, ⟨0x1A1B, 0x1A1B, false⟩, ⟨0x1A55, 0x1A55, true⟩],
  [⟨0x1A56, 0x1A56, false⟩, ⟨0x1A57, 0x1A57, true⟩, ⟨0x1A58, 0x1A60, false⟩],
  [⟨0x1A61, 0x1A61, true⟩, ⟨0x1A62, 0x1A62, false⟩, ⟨0x1A63, 0x1A64, true⟩],
  [⟨0x1A65, 0x1A6C, false⟩, ⟨0x1A6D, 0x1A72, true⟩, ⟨0x1A73, 0x1A7F, false⟩],
  [⟨0x1AB0, 0x1ACE, false⟩, ⟨0x1B00, 0x1B03, false⟩, ⟨0x1B04, 0x1B04, true⟩],
  [⟨0x1B34, 0x1B34, false⟩, ⟨0x1B35, 0x1B35, true⟩, ⟨0x1B36, 0x1B3A, false⟩],
  [⟨0x1B3B, 0x1B3B, true⟩, ⟨0x1B3C, 0x1B3C, false⟩, ⟨0x1B3D, 0x1B41, true⟩],
  [⟨0x1B42, 0x1B42, false⟩, ⟨0x1B43, 0x1B44, true⟩, ⟨0x1B6B, 0x1B73, false⟩],
  [⟨0x1B80, 0x1B81, false⟩, ⟨0x1B82, 0x1B82, true⟩, ⟨0x1BA1, 0x1BA1, true⟩],
  [⟨0x1BA2, 0x1BA5, false⟩, ⟨0x1BA6, 0x1BA7, true⟩, ⟨0x1BA8, 0x1BA9, false⟩],
  [⟨0x1BAA, 0x1BAA, true⟩, ⟨0x1BAB, 0x1BAD, false⟩, ⟨0x1BE6, 0x1BE6, false⟩],
  [⟨0x1BE7, 0x1BE7, true⟩, ⟨0x1BE8, 0x1BE9, false⟩, ⟨0x1BEA, 0x1BEC, true⟩],
  [⟨0x1BED, 0x1BED, false⟩, ⟨0x1BEE, 0x1BEE, true⟩, ⟨0x1BEF, 0x1BF1, false⟩],
  [⟨0x1BF2, 0x1BF3, true⟩, ⟨0x1C24, 0x1C2B, true⟩, ⟨0x1C2C, 0x1C33, false⟩],
  [⟨0x1C34, 0x1C35, true⟩, ⟨0x1C36, 0x1C37, false⟩, ⟨0x1CD0, 0x1CD2, false⟩],
  [⟨0x1CD4, 0x1CE0, false⟩, ⟨0x1CE1, 0x1CE1, true⟩, ⟨0x1CE2, 0x1CE8, false⟩],
  [⟨0x1CED, 0x1CED, false⟩, ⟨0x1CF4, 0x1CF4, false⟩, ⟨0x1CF7, 0x1CF7, true⟩],
  [⟨0x1CF8, 0x1CF9, false⟩, ⟨0x1DC0, 0x1DFF, false⟩, ⟨0x20D0, 0x20F0, false⟩],
  [⟨0x2CEF, 0x2CF1, false⟩, ⟨0x2D7F, 0x2D7F, false⟩, ⟨0x2DE0, 0x2DFF, false⟩],
  [⟨0x302A, 0x302D, false⟩, ⟨0x302E, 0x302F, true⟩, ⟨0x3099, 0x309A, false⟩],
  [⟨0xA66F, 0xA672, false⟩, ⟨0xA674, 0xA67D, false⟩, ⟨0xA69E, 0xA69F, false⟩],
  [⟨0xA6F0, 0xA6F1, false⟩, ⟨0xA802, 0xA802, false⟩, ⟨0xA806, 0xA806, false⟩],
  [⟨0xA80B, 0xA80B, false⟩, ⟨0xA823, 0xA824, true⟩, ⟨0xA825, 0xA826, false⟩],
  [⟨0xA827, 0xA827, true⟩, ⟨0xA82C, 0xA82C, false⟩, ⟨0xA880, 0xA881, true⟩],
  [⟨0xA8B4, 0xA8C3, true⟩, ⟨0xA8C4, 0xA8C5, false⟩, ⟨0xA8E0, 0xA8F1, false⟩],
  [⟨0xA8FF, 0xA8FF, false⟩, ⟨0xA926, 0xA92D, false⟩, ⟨0xA947, 0xA951, false⟩],
  [⟨0xA952, 0xA953, true⟩, ⟨0xA980, 0xA982, false⟩, ⟨0xA983, 0xA983, true⟩],
  [⟨0xA9B3, 0xA9B3, false⟩, ⟨0xA9B4, 0xA9B5, true⟩, ⟨0xA9B6, 0xA9B9, false⟩],
  [⟨0xA9BA, 0xA9BB, true⟩, ⟨0xA9BC, 0xA9BD, false⟩, ⟨0xA9BE, 0xA9C0, true⟩],
  [⟨0xA9E5, 0xA9E5, false⟩, ⟨0xAA29, 0xAA2E, false⟩, ⟨0xAA2F, 0xAA30, true⟩],
  [⟨0xAA31, 0xAA32, false⟩, ⟨0xAA33, 0xAA34, true⟩, ⟨0xAA35, 0xAA36, false⟩],
  [⟨0xAA43, 0xAA43, false⟩, ⟨0xAA4C, 0xAA4C, false⟩, ⟨0xAA4D, 0xAA4D, true⟩],
  [⟨0xAA7B, 0xAA7B, true⟩, ⟨0xAA7C, 0xAA7C, false⟩, ⟨0xAA7D, 0xAA7D, true⟩],
  [⟨0xAAB0, 0xAAB0, false⟩, ⟨0xAAB2, 0xAAB4, false⟩, ⟨0xAAB7, 0xAAB8, false⟩],
  [⟨0xAABE, 0xAABF, false⟩, ⟨0xAAC1, 0xAAC1, false⟩, ⟨0xAAEB, 0xAAEB, true⟩],
  [⟨0xAAEC, 0xAAED, false⟩, ⟨0xAAEE, 0xAAEF, true⟩, ⟨0xAAF5, 0xAAF5, true⟩],
  [⟨0xAAF6, 0xAAF6, false⟩, ⟨0xABE3, 0xABE4, true⟩, ⟨0xABE5, 0xABE5, false⟩],
  [⟨0xABE6, 0xABE7, true⟩, ⟨0xABE8, 0xABE8, false⟩, ⟨0xABE9, 0xABEA, true⟩],
  [⟨0xABEC, 0xABEC, true⟩, ⟨0xABED, 0xABED, false⟩, ⟨0xFB1E, 0xFB1E, false⟩],
  [⟨0xFE20, 0xFE2F, false⟩, ⟨0x101FD, 0x101FD, false⟩, ⟨0x102E0, 0x102E0, false⟩],
  [⟨0x10376, 0x1037A, false⟩, ⟨0x10A01, 0x10A0F, false⟩, ⟨0x10A38, 0x10A3F, false⟩],
  [⟨0x10AE5, 0x10AE6, false⟩, ⟨0x10D24, 0x10D27, false⟩, ⟨0x10EAB, 0x10EAC, false⟩],
  [⟨0x10EFD, 0x10EFF, false⟩, ⟨0x10F46, 0x10F50, false⟩, ⟨0x10F82, 0x10F85, false⟩],
  [⟨0x11000, 0x11000, true⟩, ⟨0x11001, 0x11001, false⟩, ⟨0x11002, 0x11002, true⟩],
  [⟨0x11038, 0x11046, false⟩, ⟨0x11070, 0x11070, false⟩, ⟨0x11073, 0x11074, false⟩],
  [⟨0x1107F, 0x11081, false⟩, ⟨0x11082, 0x11082, true⟩, ⟨0x110B0, 0x110B2, true⟩],
  [⟨0x110B3, 0x110B6, false⟩, ⟨0x110B7, 0x110B8, true⟩, ⟨0x110B9, 0x110BA, false⟩],
  [⟨0x110C2, 0x110C2, false⟩, ⟨0x11100, 0x11102, false⟩, ⟨0x11127, 0x1112B, false⟩],
  [⟨0x1112C, 0x1112C, true⟩, ⟨0x1112D, 0x11134, false⟩, ⟨0x11145, 0x11146, true⟩],
  [⟨0x11173, 0x11173, false⟩, ⟨0x11180, 0x11181, false⟩, ⟨0x11182, 0x11182, true⟩],
  [⟨0x111B3, 0x111B5, true⟩, ⟨0x111B6, 0x111BE, false⟩, ⟨0x111BF, 0x111C0, true⟩],
  [⟨0x111C9, 0x111CC, false⟩, ⟨0x111CE, 0x111CE, true⟩, ⟨0x111CF, 0x111CF, false⟩],
  [⟨0x1122C, 0x1122E, true⟩, ⟨0x1122F, 0x11231, false⟩, ⟨0x11232, 0x11233, true⟩],
  [⟨0x11234, 0x11234, false⟩, ⟨0x11235, 0x11235, true⟩, ⟨0x11236, 0x11237, false⟩],
  [⟨0x1123E, 0x1123E, false⟩, ⟨0x11241, 0x11241, false⟩, ⟨0x112DF, 0x112DF, false⟩],
  [⟨0x112E0, 0x112E2, true⟩, ⟨0x112E3, 0x112EA, false⟩, ⟨0x11300, 0x11301, false⟩],
  [⟨0x11302, 0x11303, true⟩, ⟨0x1133B, 0x1133C, false⟩, ⟨0x1133E, 0x1133F, true⟩],
  [⟨0x11340, 0x11340, false⟩, ⟨0x11341, 0x1134D, true⟩, ⟨0x11357, 0x11357, true⟩],
  [⟨0x11362, 0x11363, true⟩, ⟨0x11366, 0x11374, false⟩, ⟨0x11435, 0x11437, true⟩],
  [⟨0x11438, 0x1143F, false⟩, ⟨0x11440, 0x11441, true⟩, ⟨0x11442, 0x11444, false⟩],
  [⟨0x11445, 0x11445, true⟩, ⟨0x11446, 0x11446, false⟩, ⟨0x1145E, 0x1145E, false⟩],
  [⟨0x114B0, 0x114B2, true⟩, ⟨0x114B3, 0x114B8, false⟩, ⟨0x114B9, 0x114B9, true⟩],
  [⟨0x114BA, 0x114BA, false⟩, ⟨0x114BB, 0x114BE, true⟩, ⟨0x114BF, 0x114C0, false⟩],
  [⟨0x114C1, 0x114C1, true⟩, ⟨0x114C2, 0x114C3, false⟩, ⟨0x115AF, 0x115B1, true⟩],
  [⟨0x115B2, 0x115B5, false⟩, ⟨0x115B8, 0x115BB, true⟩, ⟨0x115BC, 0x115BD, false⟩],
  [⟨0x115BE, 0x115BE, true⟩, ⟨0x115BF, 0x115C0, false⟩, ⟨0x115DC, 0x115DD, false⟩],
  [⟨0x11630, 0x11632, true⟩, ⟨0x11633, 0x1163A, false⟩, ⟨0x1163B, 0x1163C, true⟩],
  [⟨0x1163D, 0x1163D, false⟩, ⟨0x1163E, 0x1163E, true⟩, ⟨0x1163F, 0x11640, false⟩],
  [⟨0x116AB, 0x116AB, false⟩, ⟨0x116AC, 0x116AC, true⟩, ⟨0x116AD, 0x116AD, false⟩],
  [⟨0x116AE, 0x116AF, true⟩, ⟨0x116B0, 0x116B5, false⟩, ⟨0x116B6, 0x116B6, true⟩],
  [⟨0x116B7, 0x116B7, false⟩, ⟨0x1171D, 0x1171F, false⟩, ⟨0x11720, 0x11721, true⟩],
  [⟨0x11722, 0x11725, false⟩, ⟨0x11726, 0x11726, true⟩, ⟨0x11727, 0x1172B, false⟩],
  [⟨0x1182C, 0x1182E, true⟩, ⟨0x1182F, 0x11837, false⟩, ⟨0x11838, 0x11838, true⟩],
  [⟨0x11839, 0x1183A, false⟩, ⟨0x11930, 0x11938, true⟩, ⟨0x1193B, 0x1193C, false⟩],
  [⟨0x1193D, 0x1193D, true⟩, ⟨0x1193E, 0x1193E, false⟩, ⟨0x11940, 0x11940, true⟩],
  [⟨0x11942, 0x11942, true⟩, ⟨0x11943, 0x11943, false⟩, ⟨0x119D1, 0x119D3, true⟩],
  [⟨0x119D4, 0x119DB, false⟩, ⟨0x119DC, 0x119DF, true⟩, ⟨0x119E0, 0x119E0, false⟩],
  [⟨0x119E4, 0x119E4, true⟩, ⟨0x11A01, 0x11A0A, false⟩, ⟨0x11A33, 0x11A38, false⟩],
  [⟨0x11A39, 0x11A39, true⟩, ⟨0x11A3B, 0x11A3E, false⟩, ⟨0x11A47, 0x11A47, false⟩],
  [⟨0x11A51, 0x11A56, false⟩, ⟨0x11A57, 0x11A58, true⟩, ⟨0x11A59, 0x11A5B, false⟩],
  [⟨0x11A8A, 0x11A96, false⟩, ⟨0x11A97, 0x11A97, true⟩, ⟨0x11A98, 0x11A99, false⟩],
  [⟨0x11C2F, 0x11C2F, true⟩, ⟨0x11C30, 0x11C3D, false⟩, ⟨0x11C3E, 0x11C3E, true⟩],
  [⟨0x11C3F, 0x11C3F, false⟩, ⟨0x11C92, 0x11CA7, false⟩, ⟨0x11CA9, 0x11CA9, true⟩],
  [⟨0x11CAA, 0x11CB0, false⟩, ⟨0x11CB1, 0x11CB1, true⟩, ⟨0x11CB2, 0x11CB3, false⟩],
  [⟨0x11CB4, 0x11CB4, true⟩, ⟨0x11CB5, 0x11CB6, false⟩, ⟨0x11D31, 0x11D45, false⟩],
  [⟨0x11D47, 0x11D47, false⟩, ⟨0x11D8A, 0x11D8E, true⟩, ⟨0x11D90, 0x11D91, false⟩],
  [⟨0x11D93, 0x11D94, true⟩, ⟨0x11D95, 0x11D95, false⟩, ⟨0x11D96, 0x11D96, true⟩],
  [⟨0x11D97, 0x11D97, false⟩, ⟨0x11EF3, 0x11EF4, false⟩, ⟨0x11EF5, 0x11EF6, true⟩],
  [⟨0x11F00, 0x11F01, false⟩, ⟨0x11F03, 0x11F03, true⟩, ⟨0x11F34, 0x11F35, true⟩],
  [⟨0x11F36, 0x11F3A, false⟩, ⟨0x11F3E, 0x11F3F, true⟩, ⟨0x11F40, 0x11F40, false⟩],
  [⟨0x11F41, 0x11F41, true⟩, ⟨0x11F42, 0x11F42, false⟩, ⟨0x13440, 0x13440, false⟩],
  [⟨0x13447, 0x13455, false⟩, ⟨0x16AF0, 0x16AF4, false⟩, ⟨0x16B30, 0x16B36, false⟩],
  [⟨0x16F4F, 0x16F4F, false⟩, ⟨0x16F51, 0x16F87, true⟩, ⟨0x16F8F, 0x16F92, false⟩],
  [⟨0x16FE4, 0x16FE4, false⟩, ⟨0x16FF0, 0x16FF1, true⟩, ⟨0x1BC9D, 0x1BC9E, false⟩],
  [⟨0x1CF00, 0x1CF46, false⟩, ⟨0x1D165, 0x1D166, true⟩, ⟨0x1D167, 0x1D169, false⟩],
  [⟨0x1D16D, 0x1D172, true⟩, ⟨0x1D17B, 0x1D182, false⟩, ⟨0x1D185, 0x1D18B, false⟩],
  [⟨0x1D1AA, 0x1D1AD, false⟩, ⟨0x1D242, 0x1D244, false⟩, ⟨0x1DA00, 0x1DA36, false⟩],
  [⟨0x1DA3B, 0x1DA6C, false⟩, ⟨0x1DA75, 0x1DA75, false⟩, ⟨0x1DA84, 0x1DA84, false⟩],
  [⟨0x1DA9B, 0x1DAAF, false⟩, ⟨0x1E000, 0x1E08F, false⟩, ⟨0x1E130, 0x1E136, false⟩],
  [⟨0x1E2AE, 0x1E2AE, false⟩, ⟨0x1E2EC, 0x1E2EF, false⟩, ⟨0x1E4EC, 0x1E4EF, false⟩],
  [⟨0x1E8D0, 0x1E8D6, false⟩, ⟨0x1E944, 0x1E94A, false⟩]]

inductive Direction where
  | left
  | right
  | arabicLetter
  | arabicNumber
  | number
  | sign
  /-- A mark, which takes the direction of what is before it. -/
  | mark
  | neutral
  /-- A separator, which no label of such a name may hold. -/
  | separator
  deriving DecidableEq, Repr

/-- Directions, but for marks without a width, which take that of the character before them, and
for what runs from left to right. -/
def directionRows : List (List (CodeRange Direction)) := [
  [⟨0x0, 0x8, .neutral⟩, ⟨0x9, 0x9, .separator⟩, ⟨0xA, 0xA, .separator⟩, ⟨0xB, 0xB, .separator⟩],
  [⟨0xC, 0xC, .separator⟩, ⟨0xD, 0xD, .separator⟩, ⟨0xE, 0x1B, .neutral⟩],
  [⟨0x1C, 0x1E, .separator⟩, ⟨0x1F, 0x1F, .separator⟩, ⟨0x20, 0x20, .separator⟩],
  [⟨0x21, 0x22, .neutral⟩, ⟨0x23, 0x25, .sign⟩, ⟨0x26, 0x2A, .neutral⟩, ⟨0x2B, 0x2B, .sign⟩],
  [⟨0x2C, 0x2C, .sign⟩, ⟨0x2D, 0x2D, .sign⟩, ⟨0x2E, 0x2F, .sign⟩, ⟨0x30, 0x39, .number⟩],
  [⟨0x3A, 0x3A, .sign⟩, ⟨0x3B, 0x60, .neutral⟩, ⟨0x7B, 0x7E, .neutral⟩, ⟨0x7F, 0x7F, .neutral⟩],
  [⟨0xA1, 0xA1, .neutral⟩, ⟨0xA2, 0xA5, .sign⟩, ⟨0xA6, 0xAE, .neutral⟩, ⟨0xB0, 0xB1, .sign⟩],
  [⟨0xB6, 0xD7, .neutral⟩, ⟨0xF7, 0xF7, .neutral⟩, ⟨0x2B9, 0x2BA, .neutral⟩],
  [⟨0x2C2, 0x2CF, .neutral⟩, ⟨0x2D2, 0x2ED, .neutral⟩, ⟨0x2EF, 0x2FF, .neutral⟩],
  [⟨0x375, 0x375, .neutral⟩, ⟨0x3F6, 0x3F6, .neutral⟩, ⟨0x58A, 0x58E, .neutral⟩],
  [⟨0x58F, 0x58F, .sign⟩, ⟨0x5BE, 0x5BE, .right⟩, ⟨0x5C0, 0x5C0, .right⟩, ⟨0x5C3, 0x5C3, .right⟩],
  [⟨0x5C6, 0x5C6, .right⟩, ⟨0x5D0, 0x5F4, .right⟩, ⟨0x606, 0x607, .neutral⟩],
  [⟨0x608, 0x608, .arabicLetter⟩, ⟨0x609, 0x60A, .sign⟩, ⟨0x60B, 0x60B, .arabicLetter⟩],
  [⟨0x60C, 0x60C, .sign⟩, ⟨0x60D, 0x60D, .arabicLetter⟩, ⟨0x60E, 0x60F, .neutral⟩],
  [⟨0x61B, 0x64A, .arabicLetter⟩, ⟨0x660, 0x669, .arabicNumber⟩, ⟨0x66A, 0x66A, .sign⟩],
  [⟨0x66B, 0x66C, .arabicNumber⟩, ⟨0x66D, 0x66F, .arabicLetter⟩, ⟨0x671, 0x6D5, .arabicLetter⟩],
  [⟨0x6DE, 0x6DE, .neutral⟩, ⟨0x6E5, 0x6E6, .arabicLetter⟩, ⟨0x6E9, 0x6E9, .neutral⟩],
  [⟨0x6EE, 0x6EF, .arabicLetter⟩, ⟨0x6F0, 0x6F9, .number⟩, ⟨0x6FA, 0x710, .arabicLetter⟩],
  [⟨0x712, 0x72F, .arabicLetter⟩, ⟨0x74D, 0x7A5, .arabicLetter⟩, ⟨0x7B1, 0x7B1, .arabicLetter⟩],
  [⟨0x7C0, 0x7EA, .right⟩, ⟨0x7F4, 0x7F5, .right⟩, ⟨0x7F6, 0x7F9, .neutral⟩],
  [⟨0x7FA, 0x7FA, .right⟩, ⟨0x7FE, 0x815, .right⟩, ⟨0x81A, 0x81A, .right⟩, ⟨0x824, 0x824, .right⟩],
  [⟨0x828, 0x828, .right⟩, ⟨0x830, 0x858, .right⟩, ⟨0x85E, 0x85E, .right⟩],
  [⟨0x860, 0x88E, .arabicLetter⟩, ⟨0x8A0, 0x8C9, .arabicLetter⟩, ⟨0x9F2, 0x9F3, .sign⟩],
  [⟨0x9FB, 0x9FB, .sign⟩, ⟨0xAF1, 0xAF1, .sign⟩, ⟨0xBF3, 0xBF8, .neutral⟩, ⟨0xBF9, 0xBF9, .sign⟩],
  [⟨0xBFA, 0xBFA, .neutral⟩, ⟨0xC78, 0xC7E, .neutral⟩, ⟨0xCBF, 0xCBF, .left⟩],
  [⟨0xCC6, 0xCC6, .left⟩, ⟨0xE3F, 0xE3F, .sign⟩, ⟨0xF3A, 0xF3D, .neutral⟩],
  [⟨0x1390, 0x1399, .neutral⟩, ⟨0x1400, 0x1400, .neutral⟩, ⟨0x169B, 0x169C, .neutral⟩],
  [⟨0x17DB, 0x17DB, .sign⟩, ⟨0x17F0, 0x180A, .neutral⟩, ⟨0x1940, 0x1945, .neutral⟩],
  [⟨0x19DE, 0x19FF, .neutral⟩, ⟨0x200C, 0x200D, .neutral⟩, ⟨0x2010, 0x2027, .neutral⟩],
  [⟨0x2030, 0x2032, .sign⟩, ⟨0x2035, 0x2043, .neutral⟩, ⟨0x2044, 0x2044, .sign⟩],
  [⟨0x2045, 0x205E, .neutral⟩, ⟨0x20A0, 0x20C0, .sign⟩, ⟨0x2104, 0x2129, .neutral⟩],
  [⟨0x212E, 0x212E, .sign⟩, ⟨0x213A, 0x214D, .neutral⟩, ⟨0x218A, 0x2211, .neutral⟩],
  [⟨0x2212, 0x2212, .sign⟩, ⟨0x2213, 0x2213, .sign⟩, ⟨0x2214, 0x2335, .neutral⟩],
  [⟨0x237B, 0x2394, .neutral⟩, ⟨0x2396, 0x2426, .neutral⟩, ⟨0x2440, 0x26AB, .neutral⟩],
  [⟨0x26AD, 0x27FF, .neutral⟩, ⟨0x2900, 0x2B95, .neutral⟩, ⟨0x2B97, 0x2BFF, .neutral⟩],
  [⟨0x2CE5, 0x2CEA, .neutral⟩, ⟨0x2CF9, 0x2CFF, .neutral⟩, ⟨0x2E00, 0x3004, .neutral⟩],
  [⟨0x3008, 0x3020, .neutral⟩, ⟨0x3030, 0x3030, .neutral⟩, ⟨0x3037, 0x3037, .neutral⟩],
  [⟨0x303D, 0x303F, .neutral⟩, ⟨0x30A0, 0x30A0, .neutral⟩, ⟨0x30FB, 0x30FB, .neutral⟩],
  [⟨0x31C0, 0x31E3, .neutral⟩, ⟨0x4DC0, 0x4DFF, .neutral⟩, ⟨0xA490, 0xA4C6, .neutral⟩],
  [⟨0xA60D, 0xA60F, .neutral⟩, ⟨0xA673, 0xA673, .neutral⟩, ⟨0xA67E, 0xA67F, .neutral⟩],
  [⟨0xA700, 0xA721, .neutral⟩, ⟨0xA788, 0xA788, .neutral⟩, ⟨0xA828, 0xA82B, .neutral⟩],
  [⟨0xA838, 0xA839, .sign⟩, ⟨0xA874, 0xA877, .neutral⟩, ⟨0xAB6A, 0xAB6B, .neutral⟩],
  [⟨0xFBB2, 0xFBC2, .arabicLetter⟩, ⟨0xFD3E, 0xFD4F, .neutral⟩, ⟨0xFDCF, 0xFDFF, .neutral⟩],
  [⟨0xFE45, 0xFE46, .neutral⟩, ⟨0xFE73, 0xFE73, .arabicLetter⟩, ⟨0x10101, 0x10101, .neutral⟩],
  [⟨0x10140, 0x1018C, .neutral⟩, ⟨0x10190, 0x101A0, .neutral⟩, ⟨0x102E1, 0x102FB, .number⟩],
  [⟨0x10800, 0x1091B, .right⟩, ⟨0x1091F, 0x1091F, .neutral⟩, ⟨0x10920, 0x1093F, .right⟩],
  [⟨0x10980, 0x10A00, .right⟩, ⟨0x10A10, 0x10A35, .right⟩, ⟨0x10A40, 0x10AE4, .right⟩],
  [⟨0x10AEB, 0x10B35, .right⟩, ⟨0x10B39, 0x10B3F, .neutral⟩, ⟨0x10B40, 0x10CFF, .right⟩],
  [⟨0x10D00, 0x10D23, .arabicLetter⟩, ⟨0x10D30, 0x10D39, .arabicNumber⟩],
  [⟨0x10E60, 0x10E7E, .arabicNumber⟩, ⟨0x10E80, 0x10EA9, .right⟩, ⟨0x10EAD, 0x10EB1, .right⟩],
  [⟨0x10F00, 0x10F27, .right⟩, ⟨0x10F30, 0x10F45, .arabicLetter⟩],
  [⟨0x10F51, 0x10F59, .arabicLetter⟩, ⟨0x10F70, 0x10F81, .right⟩, ⟨0x10F86, 0x10FF6, .right⟩],
  [⟨0x11052, 0x11065, .neutral⟩, ⟨0x11660, 0x1166C, .neutral⟩, ⟨0x11A07, 0x11A08, .left⟩],
  [⟨0x11C3F, 0x11C3F, .left⟩, ⟨0x11FD5, 0x11FDC, .neutral⟩, ⟨0x11FDD, 0x11FE0, .sign⟩],
  [⟨0x11FE1, 0x11FF1, .neutral⟩, ⟨0x16FE2, 0x16FE2, .neutral⟩, ⟨0x1D1E9, 0x1D241, .neutral⟩],
  [⟨0x1D245, 0x1D245, .neutral⟩, ⟨0x1D300, 0x1D356, .neutral⟩, ⟨0x1E2FF, 0x1E2FF, .sign⟩],
  [⟨0x1E800, 0x1E8CF, .right⟩, ⟨0x1E922, 0x1E943, .right⟩, ⟨0x1E94B, 0x1E95F, .right⟩],
  [⟨0x1EC71, 0x1ED3D, .arabicLetter⟩, ⟨0x1EEF0, 0x1F12F, .neutral⟩, ⟨0x1F16D, 0x1F16F, .neutral⟩],
  [⟨0x1F1AD, 0x1F1AD, .neutral⟩, ⟨0x1F260, 0x1F6D7, .neutral⟩, ⟨0x1F6DC, 0x1F776, .neutral⟩],
  [⟨0x1F77B, 0x1F8B1, .neutral⟩, ⟨0x1F900, 0x1FA53, .neutral⟩, ⟨0x1FA60, 0x1FA88, .neutral⟩],
  [⟨0x1FA90, 0x1FABD, .neutral⟩, ⟨0x1FABF, 0x1FAC5, .neutral⟩, ⟨0x1FACE, 0x1FADB, .neutral⟩],
  [⟨0x1FAE0, 0x1FAE8, .neutral⟩, ⟨0x1FAF0, 0x1FBCA, .neutral⟩]]

/-- How a letter joins its neighbours. -/
inductive Joining where
  /-- It joins the letter after it. -/
  | after
  /-- It joins the letter before it. -/
  | before
  | both
  /-- It is looked through. -/
  | through
  deriving DecidableEq, Repr

/-- How letters join. -/
def joiningRows : List (List (CodeRange Joining)) := [
  [⟨0x620, 0x620, .both⟩, ⟨0x622, 0x625, .before⟩, ⟨0x626, 0x626, .both⟩, ⟨0x627, 0x627, .before⟩],
  [⟨0x628, 0x628, .both⟩, ⟨0x629, 0x629, .before⟩, ⟨0x62A, 0x62E, .both⟩, ⟨0x62F, 0x632, .before⟩],
  [⟨0x633, 0x63F, .both⟩, ⟨0x641, 0x647, .both⟩, ⟨0x648, 0x648, .before⟩, ⟨0x649, 0x64A, .both⟩],
  [⟨0x66E, 0x66F, .both⟩, ⟨0x671, 0x673, .before⟩, ⟨0x679, 0x687, .both⟩, ⟨0x688, 0x699, .before⟩],
  [⟨0x69A, 0x6BF, .both⟩, ⟨0x6C0, 0x6C0, .before⟩, ⟨0x6C1, 0x6C2, .both⟩, ⟨0x6C3, 0x6CB, .before⟩],
  [⟨0x6CC, 0x6CC, .both⟩, ⟨0x6CD, 0x6CD, .before⟩, ⟨0x6CE, 0x6CE, .both⟩, ⟨0x6CF, 0x6CF, .before⟩],
  [⟨0x6D0, 0x6D1, .both⟩, ⟨0x6D2, 0x6D3, .before⟩, ⟨0x6D5, 0x6D5, .before⟩],
  [⟨0x6EE, 0x6EF, .before⟩, ⟨0x6FA, 0x6FC, .both⟩, ⟨0x6FF, 0x6FF, .both⟩, ⟨0x710, 0x710, .before⟩],
  [⟨0x712, 0x714, .both⟩, ⟨0x715, 0x719, .before⟩, ⟨0x71A, 0x71D, .both⟩, ⟨0x71E, 0x71E, .before⟩],
  [⟨0x71F, 0x727, .both⟩, ⟨0x728, 0x728, .before⟩, ⟨0x729, 0x729, .both⟩, ⟨0x72A, 0x72A, .before⟩],
  [⟨0x72B, 0x72B, .both⟩, ⟨0x72C, 0x72C, .before⟩, ⟨0x72D, 0x72E, .both⟩, ⟨0x72F, 0x72F, .before⟩],
  [⟨0x74D, 0x74D, .before⟩, ⟨0x74E, 0x758, .both⟩, ⟨0x759, 0x75B, .before⟩, ⟨0x75C, 0x76A, .both⟩],
  [⟨0x76B, 0x76C, .before⟩, ⟨0x76D, 0x770, .both⟩, ⟨0x771, 0x771, .before⟩, ⟨0x772, 0x772, .both⟩],
  [⟨0x773, 0x774, .before⟩, ⟨0x775, 0x777, .both⟩, ⟨0x778, 0x779, .before⟩, ⟨0x77A, 0x77F, .both⟩],
  [⟨0x7CA, 0x7EA, .both⟩, ⟨0x840, 0x840, .before⟩, ⟨0x841, 0x845, .both⟩, ⟨0x846, 0x847, .before⟩],
  [⟨0x848, 0x848, .both⟩, ⟨0x849, 0x849, .before⟩, ⟨0x84A, 0x853, .both⟩, ⟨0x854, 0x854, .before⟩],
  [⟨0x855, 0x855, .both⟩, ⟨0x856, 0x858, .before⟩, ⟨0x860, 0x860, .both⟩, ⟨0x862, 0x865, .both⟩],
  [⟨0x867, 0x867, .before⟩, ⟨0x868, 0x868, .both⟩, ⟨0x869, 0x882, .before⟩, ⟨0x886, 0x886, .both⟩],
  [⟨0x889, 0x88D, .both⟩, ⟨0x88E, 0x88E, .before⟩, ⟨0x8A0, 0x8A9, .both⟩, ⟨0x8AA, 0x8AC, .before⟩],
  [⟨0x8AE, 0x8AE, .before⟩, ⟨0x8AF, 0x8B0, .both⟩, ⟨0x8B1, 0x8B2, .before⟩, ⟨0x8B3, 0x8B8, .both⟩],
  [⟨0x8B9, 0x8B9, .before⟩, ⟨0x8BA, 0x8C8, .both⟩, ⟨0x1807, 0x1807, .both⟩],
  [⟨0x1820, 0x1878, .both⟩, ⟨0x1887, 0x18A8, .both⟩, ⟨0x18AA, 0x18AA, .both⟩],
  [⟨0xA840, 0xA871, .both⟩, ⟨0xA872, 0xA872, .after⟩, ⟨0x10AC0, 0x10AC4, .both⟩],
  [⟨0x10AC5, 0x10AC5, .before⟩, ⟨0x10AC7, 0x10AC7, .before⟩, ⟨0x10AC9, 0x10ACA, .before⟩],
  [⟨0x10ACD, 0x10ACD, .after⟩, ⟨0x10ACE, 0x10AD2, .before⟩, ⟨0x10AD3, 0x10AD6, .both⟩],
  [⟨0x10AD7, 0x10AD7, .after⟩, ⟨0x10AD8, 0x10ADC, .both⟩, ⟨0x10ADD, 0x10ADD, .before⟩],
  [⟨0x10ADE, 0x10AE0, .both⟩, ⟨0x10AE1, 0x10AE1, .before⟩, ⟨0x10AE4, 0x10AE4, .before⟩],
  [⟨0x10AEB, 0x10AEE, .both⟩, ⟨0x10AEF, 0x10AEF, .before⟩, ⟨0x10B80, 0x10B80, .both⟩],
  [⟨0x10B81, 0x10B81, .before⟩, ⟨0x10B82, 0x10B82, .both⟩, ⟨0x10B83, 0x10B85, .before⟩],
  [⟨0x10B86, 0x10B88, .both⟩, ⟨0x10B89, 0x10B89, .before⟩, ⟨0x10B8A, 0x10B8B, .both⟩],
  [⟨0x10B8C, 0x10B8C, .before⟩, ⟨0x10B8D, 0x10B8D, .both⟩, ⟨0x10B8E, 0x10B8F, .before⟩],
  [⟨0x10B90, 0x10B90, .both⟩, ⟨0x10B91, 0x10B91, .before⟩, ⟨0x10BA9, 0x10BAC, .before⟩],
  [⟨0x10BAD, 0x10BAE, .both⟩, ⟨0x10D00, 0x10D00, .after⟩, ⟨0x10D01, 0x10D21, .both⟩],
  [⟨0x10D22, 0x10D22, .before⟩, ⟨0x10D23, 0x10D23, .both⟩, ⟨0x10F30, 0x10F32, .both⟩],
  [⟨0x10F33, 0x10F33, .before⟩, ⟨0x10F34, 0x10F44, .both⟩, ⟨0x10F51, 0x10F53, .both⟩],
  [⟨0x10F54, 0x10F54, .before⟩, ⟨0x10F70, 0x10F73, .both⟩, ⟨0x10F74, 0x10F75, .before⟩],
  [⟨0x10F76, 0x10F81, .both⟩, ⟨0x10FB0, 0x10FB0, .both⟩, ⟨0x10FB2, 0x10FB3, .both⟩],
  [⟨0x10FB4, 0x10FB6, .before⟩, ⟨0x10FB8, 0x10FB8, .both⟩, ⟨0x10FB9, 0x10FBA, .before⟩],
  [⟨0x10FBB, 0x10FBC, .both⟩, ⟨0x10FBD, 0x10FBD, .before⟩, ⟨0x10FBE, 0x10FBF, .both⟩],
  [⟨0x10FC1, 0x10FC1, .both⟩, ⟨0x10FC2, 0x10FC3, .before⟩, ⟨0x10FC4, 0x10FC4, .both⟩],
  [⟨0x10FC9, 0x10FC9, .before⟩, ⟨0x10FCA, 0x10FCA, .both⟩, ⟨0x10FCB, 0x10FCB, .after⟩],
  [⟨0x1E922, 0x1E943, .both⟩, ⟨0x1E94B, 0x1E94B, .through⟩]]

end WlanAdmin.Domain
