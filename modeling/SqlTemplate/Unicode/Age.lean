import SqlTemplate.Unicode.InversionList

/-!
# SqlTemplate.Unicode.Age

The edition of the standard with which each code point came into use.
-/

namespace SqlTemplate.Unicode

/-- The code points that an edition of the standard has added. -/
structure Age where
  major : Nat
  minor : Nat
  added : InversionList
deriving Repr

/-- The code points of the first edition with a settled repertoire. -/
def firstCodePoints : InversionList :=
  [0x0, 0x1F6, 0x1FA, 0x218, 0x250, 0x2A9, 0x2B0, 0x2DF, 0x2E0, 0x2EA, 0x300, 0x346, 0x360, 0x362,
   0x374, 0x376, 0x37A, 0x37B, 0x37E, 0x37F, 0x384, 0x38B, 0x38C, 0x38D, 0x38E, 0x3A2, 0x3A3,
   0x3CF, 0x3D0, 0x3D7, 0x3DA, 0x3DB, 0x3DC, 0x3DD, 0x3DE, 0x3DF, 0x3E0, 0x3E1, 0x3E2, 0x3F4,
   0x401, 0x40D, 0x40E, 0x450, 0x451, 0x45D, 0x45E, 0x487, 0x490, 0x4C5, 0x4C7, 0x4C9, 0x4CB,
   0x4CD, 0x4D0, 0x4EC, 0x4EE, 0x4F6, 0x4F8, 0x4FA, 0x531, 0x557, 0x559, 0x560, 0x561, 0x588,
   0x589, 0x58A, 0x5B0, 0x5BA, 0x5BB, 0x5C4, 0x5D0, 0x5EB, 0x5F0, 0x5F5, 0x60C, 0x60D, 0x61B,
   0x61C, 0x61F, 0x620, 0x621, 0x63B, 0x640, 0x653, 0x660, 0x66E, 0x670, 0x6B8, 0x6BA, 0x6BF,
   0x6C0, 0x6CF, 0x6D0, 0x6EE, 0x6F0, 0x6FA, 0x901, 0x904, 0x905, 0x93A, 0x93C, 0x94E, 0x950,
   0x955, 0x958, 0x971, 0x981, 0x984, 0x985, 0x98D, 0x98F, 0x991, 0x993, 0x9A9, 0x9AA, 0x9B1,
   0x9B2, 0x9B3, 0x9B6, 0x9BA, 0x9BC, 0x9BD, 0x9BE, 0x9C5, 0x9C7, 0x9C9, 0x9CB, 0x9CE, 0x9D7,
   0x9D8, 0x9DC, 0x9DE, 0x9DF, 0x9E4, 0x9E6, 0x9FB, 0xA02, 0xA03, 0xA05, 0xA0B, 0xA0F, 0xA11,
   0xA13, 0xA29, 0xA2A, 0xA31, 0xA32, 0xA34, 0xA35, 0xA37, 0xA38, 0xA3A, 0xA3C, 0xA3D, 0xA3E,
   0xA43, 0xA47, 0xA49, 0xA4B, 0xA4E, 0xA59, 0xA5D, 0xA5E, 0xA5F, 0xA66, 0xA75, 0xA81, 0xA84,
   0xA85, 0xA8C, 0xA8D, 0xA8E, 0xA8F, 0xA92, 0xA93, 0xAA9, 0xAAA, 0xAB1, 0xAB2, 0xAB4, 0xAB5,
   0xABA, 0xABC, 0xAC6, 0xAC7, 0xACA, 0xACB, 0xACE, 0xAD0, 0xAD1, 0xAE0, 0xAE1, 0xAE6, 0xAF0,
   0xB01, 0xB04, 0xB05, 0xB0D, 0xB0F, 0xB11, 0xB13, 0xB29, 0xB2A, 0xB31, 0xB32, 0xB34, 0xB36,
   0xB3A, 0xB3C, 0xB44, 0xB47, 0xB49, 0xB4B, 0xB4E, 0xB56, 0xB58, 0xB5C, 0xB5E, 0xB5F, 0xB62,
   0xB66, 0xB71, 0xB82, 0xB84, 0xB85, 0xB8B, 0xB8E, 0xB91, 0xB92, 0xB96, 0xB99, 0xB9B, 0xB9C,
   0xB9D, 0xB9E, 0xBA0, 0xBA3, 0xBA5, 0xBA8, 0xBAB, 0xBAE, 0xBB6, 0xBB7, 0xBBA, 0xBBE, 0xBC3,
   0xBC6, 0xBC9, 0xBCA, 0xBCE, 0xBD7, 0xBD8, 0xBE7, 0xBF3, 0xC01, 0xC04, 0xC05, 0xC0D, 0xC0E,
   0xC11, 0xC12, 0xC29, 0xC2A, 0xC34, 0xC35, 0xC3A, 0xC3E, 0xC45, 0xC46, 0xC49, 0xC4A, 0xC4E,
   0xC55, 0xC57, 0xC60, 0xC62, 0xC66, 0xC70, 0xC82, 0xC84, 0xC85, 0xC8D, 0xC8E, 0xC91, 0xC92,
   0xCA9, 0xCAA, 0xCB4, 0xCB5, 0xCBA, 0xCBE, 0xCC5, 0xCC6, 0xCC9, 0xCCA, 0xCCE, 0xCD5, 0xCD7,
   0xCDE, 0xCDF, 0xCE0, 0xCE2, 0xCE6, 0xCF0, 0xD02, 0xD04, 0xD05, 0xD0D, 0xD0E, 0xD11, 0xD12,
   0xD29, 0xD2A, 0xD3A, 0xD3E, 0xD44, 0xD46, 0xD49, 0xD4A, 0xD4E, 0xD57, 0xD58, 0xD60, 0xD62,
   0xD66, 0xD70, 0xE01, 0xE3B, 0xE3F, 0xE5C, 0xE81, 0xE83, 0xE84, 0xE85, 0xE87, 0xE89, 0xE8A,
   0xE8B, 0xE8D, 0xE8E, 0xE94, 0xE98, 0xE99, 0xEA0, 0xEA1, 0xEA4, 0xEA5, 0xEA6, 0xEA7, 0xEA8,
   0xEAA, 0xEAC, 0xEAD, 0xEBA, 0xEBB, 0xEBE, 0xEC0, 0xEC5, 0xEC6, 0xEC7, 0xEC8, 0xECE, 0xED0,
   0xEDA, 0xEDC, 0xEDE, 0x10A0, 0x10C6, 0x10D0, 0x10F7, 0x10FB, 0x10FC, 0x1100, 0x115A, 0x115F,
   0x11A3, 0x11A8, 0x11FA, 0x1E00, 0x1E9B, 0x1EA0, 0x1EFA, 0x1F00, 0x1F16, 0x1F18, 0x1F1E, 0x1F20,
   0x1F46, 0x1F48, 0x1F4E, 0x1F50, 0x1F58, 0x1F59, 0x1F5A, 0x1F5B, 0x1F5C, 0x1F5D, 0x1F5E, 0x1F5F,
   0x1F7E, 0x1F80, 0x1FB5, 0x1FB6, 0x1FC5, 0x1FC6, 0x1FD4, 0x1FD6, 0x1FDC, 0x1FDD, 0x1FF0, 0x1FF2,
   0x1FF5, 0x1FF6, 0x1FFF, 0x2000, 0x202F, 0x2030, 0x2047, 0x206A, 0x2071, 0x2074, 0x208F, 0x20A0,
   0x20AB, 0x20D0, 0x20E2, 0x2100, 0x2139, 0x2153, 0x2183, 0x2190, 0x21EB, 0x2200, 0x22F2, 0x2300,
   0x2301, 0x2302, 0x237B, 0x2400, 0x2425, 0x2440, 0x244B, 0x2460, 0x24EB, 0x2500, 0x2596, 0x25A0,
   0x25F0, 0x2600, 0x2614, 0x261A, 0x2670, 0x2701, 0x2705, 0x2706, 0x270A, 0x270C, 0x2728, 0x2729,
   0x274C, 0x274D, 0x274E, 0x274F, 0x2753, 0x2756, 0x2757, 0x2758, 0x275F, 0x2761, 0x2768, 0x2776,
   0x2795, 0x2798, 0x27B0, 0x27B1, 0x27BF, 0x3000, 0x3038, 0x303F, 0x3040, 0x3041, 0x3095, 0x3099,
   0x309F, 0x30A1, 0x30FF, 0x3105, 0x312D, 0x3131, 0x318F, 0x3190, 0x31A0, 0x3200, 0x321D, 0x3220,
   0x3244, 0x3260, 0x327C, 0x327F, 0x32B1, 0x32C0, 0x32CC, 0x32D0, 0x32FF, 0x3300, 0x3377, 0x337B,
   0x33DE, 0x33E0, 0x33FF, 0x4E00, 0x9FA6, 0xE000, 0xFA2E, 0xFB00, 0xFB07, 0xFB13, 0xFB18, 0xFB1E,
   0xFB37, 0xFB38, 0xFB3D, 0xFB3E, 0xFB3F, 0xFB40, 0xFB42, 0xFB43, 0xFB45, 0xFB46, 0xFBB2, 0xFBD3,
   0xFD40, 0xFD50, 0xFD90, 0xFD92, 0xFDC8, 0xFDF0, 0xFDFC, 0xFE20, 0xFE24, 0xFE30, 0xFE45, 0xFE49,
   0xFE53, 0xFE54, 0xFE67, 0xFE68, 0xFE6C, 0xFE70, 0xFE73, 0xFE74, 0xFE75, 0xFE76, 0xFEFD, 0xFEFF,
   0xFF00, 0xFF01, 0xFF5F, 0xFF61, 0xFFBF, 0xFFC2, 0xFFC8, 0xFFCA, 0xFFD0, 0xFFD2, 0xFFD8, 0xFFDA,
   0xFFDD, 0xFFE0, 0xFFE7, 0xFFE8, 0xFFEF, 0xFFFD, 0x10000]

/-- The first editions, in order. -/
def firstAges : List Age :=
  [⟨1, 1, firstCodePoints⟩,
   ⟨2, 0, [0x591, 0x5A2, 0x5A3, 0x5B0, 0x5C4, 0x5C5, 0xF00, 0xF48, 0xF49, 0xF6A, 0xF71, 0xF8C,
     0xF90, 0xF96, 0xF97, 0xF98, 0xF99, 0xFAE, 0xFB1, 0xFB8, 0xFB9, 0xFBA, 0x1E9B, 0x1E9C, 0x20AB,
     0x20AC, 0xAC00, 0xD7A4, 0x1FFFE, 0x20000, 0x2FFFE, 0x30000, 0x3FFFE, 0x40000, 0x4FFFE, 0x50000,
     0x5FFFE, 0x60000, 0x6FFFE, 0x70000, 0x7FFFE, 0x80000, 0x8FFFE, 0x90000, 0x9FFFE, 0xA0000,
     0xAFFFE, 0xB0000, 0xBFFFE, 0xC0000, 0xCFFFE, 0xD0000, 0xDFFFE, 0xE0000, 0xEFFFE, 0x110000]⟩,
   ⟨2, 1, [0x20AC, 0x20AD, 0xFFFC, 0xFFFD]⟩,
   ⟨3, 0, [0x1F6, 0x1FA, 0x218, 0x220, 0x222, 0x234, 0x2A9, 0x2AE, 0x2DF, 0x2E0, 0x2EA, 0x2EF,
     0x346, 0x34F, 0x362, 0x363, 0x3D7, 0x3D8, 0x3DB, 0x3DC, 0x3DD, 0x3DE, 0x3DF, 0x3E0, 0x3E1,
     0x3E2, 0x400, 0x401, 0x40D, 0x40E, 0x450, 0x451, 0x45D, 0x45E, 0x488, 0x48A, 0x48C, 0x490,
     0x4EC, 0x4EE, 0x58A, 0x58B, 0x653, 0x656, 0x6B8, 0x6BA, 0x6BF, 0x6C0, 0x6CF, 0x6D0, 0x6FA,
     0x6FF, 0x700, 0x70E, 0x70F, 0x72D, 0x730, 0x74B, 0x780, 0x7B1, 0xD82, 0xD84, 0xD85, 0xD97,
     0xD9A, 0xDB2, 0xDB3, 0xDBC, 0xDBD, 0xDBE, 0xDC0, 0xDC7, 0xDCA, 0xDCB, 0xDCF, 0xDD5, 0xDD6,
     0xDD7, 0xDD8, 0xDE0, 0xDF2, 0xDF5, 0xF6A, 0xF6B, 0xF96, 0xF97, 0xFAE, 0xFB1, 0xFB8, 0xFB9,
     0xFBA, 0xFBD, 0xFBE, 0xFCD, 0xFCF, 0xFD0, 0x1000, 0x1022, 0x1023, 0x1028, 0x1029, 0x102B,
     0x102C, 0x1033, 0x1036, 0x103A, 0x1040, 0x105A, 0x1200, 0x1207, 0x1208, 0x1247, 0x1248, 0x1249,
     0x124A, 0x124E, 0x1250, 0x1257, 0x1258, 0x1259, 0x125A, 0x125E, 0x1260, 0x1287, 0x1288, 0x1289,
     0x128A, 0x128E, 0x1290, 0x12AF, 0x12B0, 0x12B1, 0x12B2, 0x12B6, 0x12B8, 0x12BF, 0x12C0, 0x12C1,
     0x12C2, 0x12C6, 0x12C8, 0x12CF, 0x12D0, 0x12D7, 0x12D8, 0x12EF, 0x12F0, 0x130F, 0x1310, 0x1311,
     0x1312, 0x1316, 0x1318, 0x131F, 0x1320, 0x1347, 0x1348, 0x135B, 0x1361, 0x137D, 0x13A0, 0x13F5,
     0x1401, 0x1677, 0x1680, 0x169D, 0x16A0, 0x16F1, 0x1780, 0x17DD, 0x17E0, 0x17EA, 0x1800, 0x180F,
     0x1810, 0x181A, 0x1820, 0x1878, 0x1880, 0x18AA, 0x202F, 0x2030, 0x2048, 0x204E, 0x20AD, 0x20B0,
     0x20E2, 0x20E4, 0x2139, 0x213B, 0x2183, 0x2184, 0x21EB, 0x21F4, 0x2301, 0x2302, 0x237B, 0x237C,
     0x237D, 0x239B, 0x2425, 0x2427, 0x25F0, 0x25F8, 0x2619, 0x261A, 0x2670, 0x2672, 0x2800, 0x2900,
     0x2E80, 0x2E9A, 0x2E9B, 0x2EF4, 0x2F00, 0x2FD6, 0x2FF0, 0x2FFC, 0x3038, 0x303B, 0x303E, 0x303F,
     0x31A0, 0x31B8, 0x3400, 0x4DB6, 0xA000, 0xA48D, 0xA490, 0xA4A2, 0xA4A4, 0xA4B4, 0xA4B5, 0xA4C1,
     0xA4C2, 0xA4C5, 0xA4C6, 0xA4C7, 0xFB1D, 0xFB1E, 0xFFF9, 0xFFFC]⟩,
   ⟨3, 1, [0x3F4, 0x3F6, 0xFDD0, 0xFDF0, 0x10300, 0x1031F, 0x10320, 0x10324, 0x10330, 0x1034B,
     0x10400, 0x10426, 0x10428, 0x1044E, 0x1D000, 0x1D0F6, 0x1D100, 0x1D127, 0x1D12A, 0x1D1DE,
     0x1D400, 0x1D455, 0x1D456, 0x1D49D, 0x1D49E, 0x1D4A0, 0x1D4A2, 0x1D4A3, 0x1D4A5, 0x1D4A7,
     0x1D4A9, 0x1D4AD, 0x1D4AE, 0x1D4BA, 0x1D4BB, 0x1D4BC, 0x1D4BD, 0x1D4C1, 0x1D4C2, 0x1D4C4,
     0x1D4C5, 0x1D506, 0x1D507, 0x1D50B, 0x1D50D, 0x1D515, 0x1D516, 0x1D51D, 0x1D51E, 0x1D53A,
     0x1D53B, 0x1D53F, 0x1D540, 0x1D545, 0x1D546, 0x1D547, 0x1D54A, 0x1D551, 0x1D552, 0x1D6A4,
     0x1D6A8, 0x1D7CA, 0x1D7CE, 0x1D800, 0x20000, 0x2A6D7, 0x2F800, 0x2FA1E, 0xE0001, 0xE0002,
     0xE0020, 0xE0080]⟩,
   ⟨3, 2, [0x220, 0x221, 0x34F, 0x350, 0x363, 0x370, 0x3D8, 0x3DA, 0x3F6, 0x3F7, 0x48A, 0x48C,
     0x4C5, 0x4C7, 0x4C9, 0x4CB, 0x4CD, 0x4CF, 0x500, 0x510, 0x66E, 0x670, 0x7B1, 0x7B2, 0x10F7,
     0x10F9, 0x1700, 0x170D, 0x170E, 0x1715, 0x1720, 0x1737, 0x1740, 0x1754, 0x1760, 0x176D, 0x176E,
     0x1771, 0x1772, 0x1774, 0x2047, 0x2048, 0x204E, 0x2053, 0x2057, 0x2058, 0x205F, 0x2064, 0x2071,
     0x2072, 0x20B0, 0x20B2, 0x20E4, 0x20EB, 0x213D, 0x214C, 0x21F4, 0x2200, 0x22F2, 0x2300, 0x237C,
     0x237D, 0x239B, 0x23CF, 0x24EB, 0x24FF, 0x2596, 0x25A0, 0x25F8, 0x2600, 0x2616, 0x2618, 0x2672,
     0x267E, 0x2680, 0x268A, 0x2768, 0x2776, 0x27D0, 0x27EC, 0x27F0, 0x2800, 0x2900, 0x2B00, 0x303B,
     0x303E, 0x3095, 0x3097, 0x309F, 0x30A1, 0x30FF, 0x3100, 0x31F0, 0x3200, 0x3251, 0x3260, 0x32B1,
     0x32C0, 0xA4A2, 0xA4A4, 0xA4B4, 0xA4B5, 0xA4C1, 0xA4C2, 0xA4C5, 0xA4C6, 0xFA30, 0xFA6B, 0xFDFC,
     0xFDFD, 0xFE00, 0xFE10, 0xFE45, 0xFE47, 0xFE73, 0xFE74, 0xFF5F, 0xFF61]⟩,
   ⟨4, 0, [0x221, 0x222, 0x234, 0x237, 0x2AE, 0x2B0, 0x2EF, 0x300, 0x350, 0x358, 0x35D, 0x360,
     0x3F7, 0x3FC, 0x600, 0x604, 0x60D, 0x616, 0x656, 0x659, 0x6EE, 0x6F0, 0x6FF, 0x700, 0x72D,
     0x730, 0x74D, 0x750, 0x904, 0x905, 0x9BD, 0x9BE, 0xA01, 0xA02, 0xA03, 0xA04, 0xA8C, 0xA8D,
     0xAE1, 0xAE4, 0xAF1, 0xAF2, 0xB35, 0xB36, 0xB71, 0xB72, 0xBF3, 0xBFB, 0xCBC, 0xCBE, 0x17DD,
     0x17DE, 0x17F0, 0x17FA, 0x1900, 0x191D, 0x1920, 0x192C, 0x1930, 0x193C, 0x1940, 0x1941, 0x1944,
     0x196E, 0x1970, 0x1975, 0x19E0, 0x1A00, 0x1D00, 0x1D6C, 0x2053, 0x2055, 0x213B, 0x213C, 0x23CF,
     0x23D1, 0x24FF, 0x2500, 0x2614, 0x2616, 0x268A, 0x2692, 0x26A0, 0x26A2, 0x2B00, 0x2B0E, 0x321D,
     0x321F, 0x3250, 0x3251, 0x327C, 0x327E, 0x32CC, 0x32D0, 0x3377, 0x337B, 0x33DE, 0x33E0, 0x33FF,
     0x3400, 0x4DC0, 0x4E00, 0xFDFD, 0xFDFE, 0xFE47, 0xFE49, 0x10000, 0x1000C, 0x1000D, 0x10027,
     0x10028, 0x1003B, 0x1003C, 0x1003E, 0x1003F, 0x1004E, 0x10050, 0x1005E, 0x10080, 0x100FB,
     0x10100, 0x10103, 0x10107, 0x10134, 0x10137, 0x10140, 0x10380, 0x1039E, 0x1039F, 0x103A0,
     0x10426, 0x10428, 0x1044E, 0x1049E, 0x104A0, 0x104AA, 0x10800, 0x10806, 0x10808, 0x10809,
     0x1080A, 0x10836, 0x10837, 0x10839, 0x1083C, 0x1083D, 0x1083F, 0x10840, 0x1D300, 0x1D357,
     0x1D4C1, 0x1D4C2, 0xE0100, 0xE01F0]⟩,
   ⟨4, 1, [0x237, 0x242, 0x358, 0x35D, 0x3FC, 0x400, 0x4F6, 0x4F8, 0x5A2, 0x5A3, 0x5C5, 0x5C8,
     0x60B, 0x60C, 0x61E, 0x61F, 0x659, 0x65F, 0x750, 0x76E, 0x97D, 0x97E, 0x9CE, 0x9CF, 0xBB6,
     0xBB7, 0xBE6, 0xBE7, 0xFD0, 0xFD2, 0x10F9, 0x10FB, 0x10FC, 0x10FD, 0x1207, 0x1208, 0x1247,
     0x1248, 0x1287, 0x1288, 0x12AF, 0x12B0, 0x12CF, 0x12D0, 0x12EF, 0x12F0, 0x130F, 0x1310, 0x131F,
     0x1320, 0x1347, 0x1348, 0x135F, 0x1361, 0x1380, 0x139A, 0x1980, 0x19AA, 0x19B0, 0x19CA, 0x19D0,
     0x19DA, 0x19DE, 0x19E0, 0x1A00, 0x1A1C, 0x1A1E, 0x1A20, 0x1D6C, 0x1DC4, 0x2055, 0x2057, 0x2058,
     0x205F, 0x2090, 0x2095, 0x20B2, 0x20B6, 0x20EB, 0x20EC, 0x213C, 0x213D, 0x214C, 0x214D, 0x23D1,
     0x23DC, 0x2618, 0x2619, 0x267E, 0x2680, 0x2692, 0x269D, 0x26A2, 0x26B2, 0x27C0, 0x27C7, 0x2B0E,
     0x2B14, 0x2C00, 0x2C2F, 0x2C30, 0x2C5F, 0x2C80, 0x2CEB, 0x2CF9, 0x2D26, 0x2D30, 0x2D66, 0x2D6F,
     0x2D70, 0x2D80, 0x2D97, 0x2DA0, 0x2DA7, 0x2DA8, 0x2DAF, 0x2DB0, 0x2DB7, 0x2DB8, 0x2DBF, 0x2DC0,
     0x2DC7, 0x2DC8, 0x2DCF, 0x2DD0, 0x2DD7, 0x2DD8, 0x2DDF, 0x2E00, 0x2E18, 0x2E1C, 0x2E1E, 0x31C0,
     0x31D0, 0x327E, 0x327F, 0x9FA6, 0x9FBC, 0xA700, 0xA717, 0xA800, 0xA82C, 0xFA70, 0xFADA, 0xFE10,
     0xFE1A, 0x10140, 0x1018B, 0x103A0, 0x103C4, 0x103C8, 0x103D6, 0x10A00, 0x10A04, 0x10A05,
     0x10A07, 0x10A0C, 0x10A14, 0x10A15, 0x10A18, 0x10A19, 0x10A34, 0x10A38, 0x10A3B, 0x10A3F,
     0x10A48, 0x10A50, 0x10A59, 0x1D200, 0x1D246, 0x1D6A4, 0x1D6A6]⟩,
   ⟨5, 0, [0x242, 0x250, 0x37B, 0x37E, 0x4CF, 0x4D0, 0x4FA, 0x500, 0x510, 0x514, 0x5BA, 0x5BB,
     0x7C0, 0x7FB, 0x97B, 0x97D, 0x97E, 0x980, 0xCE2, 0xCE4, 0xCF1, 0xCF3, 0x1B00, 0x1B4C, 0x1B50,
     0x1B7D, 0x1DC4, 0x1DCB, 0x1DFE, 0x1E00, 0x20EC, 0x20F0, 0x214D, 0x214F, 0x2184, 0x2185, 0x23DC,
     0x23E8, 0x26B2, 0x26B3, 0x27C7, 0x27CB, 0x2B14, 0x2B1B, 0x2B20, 0x2B24, 0x2C60, 0x2C6D, 0x2C74,
     0x2C78, 0xA717, 0xA71B, 0xA720, 0xA722, 0xA840, 0xA878, 0x10900, 0x1091A, 0x1091F, 0x10920,
     0x12000, 0x1236F, 0x12400, 0x12463, 0x12470, 0x12474, 0x1D360, 0x1D372, 0x1D7CA, 0x1D7CC]⟩,
   ⟨5, 1, [0x370, 0x374, 0x376, 0x378, 0x3CF, 0x3D0, 0x487, 0x488, 0x514, 0x524, 0x606, 0x60B,
     0x616, 0x61B, 0x63B, 0x640, 0x76E, 0x780, 0x971, 0x973, 0xA51, 0xA52, 0xA75, 0xA76, 0xB44,
     0xB45, 0xB62, 0xB64, 0xBD0, 0xBD1, 0xC3D, 0xC3E, 0xC58, 0xC5A, 0xC62, 0xC64, 0xC78, 0xC80,
     0xD3D, 0xD3E, 0xD44, 0xD45, 0xD62, 0xD64, 0xD70, 0xD76, 0xD79, 0xD80, 0xF6B, 0xF6D, 0xFCE,
     0xFCF, 0xFD2, 0xFD5, 0x1022, 0x1023, 0x1028, 0x1029, 0x102B, 0x102C, 0x1033, 0x1036, 0x103A,
     0x1040, 0x105A, 0x109A, 0x109E, 0x10A0, 0x18AA, 0x18AB, 0x1B80, 0x1BAB, 0x1BAE, 0x1BBA, 0x1C00,
     0x1C38, 0x1C3B, 0x1C4A, 0x1C4D, 0x1C80, 0x1DCB, 0x1DE7, 0x1E9C, 0x1EA0, 0x1EFA, 0x1F00, 0x2064,
     0x2065, 0x20F0, 0x20F1, 0x214F, 0x2150, 0x2185, 0x2189, 0x269D, 0x269E, 0x26B3, 0x26BD, 0x26C0,
     0x26C4, 0x27CC, 0x27CD, 0x27EC, 0x27F0, 0x2B1B, 0x2B20, 0x2B24, 0x2B4D, 0x2B50, 0x2B55, 0x2C6D,
     0x2C70, 0x2C71, 0x2C74, 0x2C78, 0x2C7E, 0x2DE0, 0x2E00, 0x2E18, 0x2E1C, 0x2E1E, 0x2E31, 0x312D,
     0x312E, 0x31D0, 0x31E4, 0x9FBC, 0x9FC4, 0xA500, 0xA62C, 0xA640, 0xA660, 0xA662, 0xA674, 0xA67C,
     0xA698, 0xA71B, 0xA720, 0xA722, 0xA78D, 0xA7FB, 0xA800, 0xA880, 0xA8C5, 0xA8CE, 0xA8DA, 0xA900,
     0xA954, 0xA95F, 0xA960, 0xAA00, 0xAA37, 0xAA40, 0xAA4E, 0xAA50, 0xAA5A, 0xAA5C, 0xAA60, 0xFE24,
     0xFE27, 0x10190, 0x1019C, 0x101D0, 0x101FE, 0x10280, 0x1029D, 0x102A0, 0x102D1, 0x10920,
     0x1093A, 0x1093F, 0x10940, 0x1D129, 0x1D12A, 0x1F000, 0x1F02C, 0x1F030, 0x1F094]⟩,
   ⟨5, 2, [0x524, 0x526, 0x800, 0x82E, 0x830, 0x83F, 0x900, 0x901, 0x94E, 0x94F, 0x955, 0x956,
     0x979, 0x97B, 0x9FB, 0x9FC, 0xFD5, 0xFD9, 0x109A, 0x109E, 0x115A, 0x115F, 0x11A3, 0x11A8,
     0x11FA, 0x1200, 0x1400, 0x1401, 0x1677, 0x1680, 0x18B0, 0x18F6, 0x19AA, 0x19AC, 0x19DA, 0x19DB,
     0x1A20, 0x1A5F, 0x1A60, 0x1A7D, 0x1A7F, 0x1A8A, 0x1A90, 0x1A9A, 0x1AA0, 0x1AAE, 0x1CD0, 0x1CF3,
     0x1DFD, 0x1DFE, 0x20B6, 0x20B9, 0x2150, 0x2153, 0x2189, 0x218A, 0x23E8, 0x23E9, 0x269E, 0x26A0,
     0x26BD, 0x26C0, 0x26C4, 0x26CE, 0x26CF, 0x26E2, 0x26E3, 0x26E4, 0x26E8, 0x2700, 0x2757, 0x2758,
     0x2B55, 0x2B5A, 0x2C70, 0x2C71, 0x2C7E, 0x2C80, 0x2CEB, 0x2CF2, 0x2E31, 0x2E32, 0x3244, 0x3250,
     0x9FC4, 0x9FCC, 0xA4D0, 0xA500, 0xA6A0, 0xA6F8, 0xA830, 0xA83A, 0xA8E0, 0xA8FC, 0xA960, 0xA97D,
     0xA980, 0xA9CE, 0xA9CF, 0xA9DA, 0xA9DE, 0xA9E0, 0xAA60, 0xAA7C, 0xAA80, 0xAAC3, 0xAADB, 0xAAE0,
     0xABC0, 0xABEE, 0xABF0, 0xABFA, 0xD7B0, 0xD7C7, 0xD7CB, 0xD7FC, 0xFA6B, 0xFA6E, 0x10840,
     0x10856, 0x10857, 0x10860, 0x1091A, 0x1091C, 0x10A60, 0x10A80, 0x10B00, 0x10B36, 0x10B39,
     0x10B56, 0x10B58, 0x10B73, 0x10B78, 0x10B80, 0x10C00, 0x10C49, 0x10E60, 0x10E7F, 0x11080,
     0x110C2, 0x13000, 0x1342F, 0x1F100, 0x1F10B, 0x1F110, 0x1F12F, 0x1F131, 0x1F132, 0x1F13D,
     0x1F13E, 0x1F13F, 0x1F140, 0x1F142, 0x1F143, 0x1F146, 0x1F147, 0x1F14A, 0x1F14F, 0x1F157,
     0x1F158, 0x1F15F, 0x1F160, 0x1F179, 0x1F17A, 0x1F17B, 0x1F17D, 0x1F17F, 0x1F180, 0x1F18A,
     0x1F18E, 0x1F190, 0x1F191, 0x1F200, 0x1F201, 0x1F210, 0x1F232, 0x1F240, 0x1F249, 0x2A700,
     0x2B735]⟩]

/-- The editions after the first ones, in order. -/
def laterAges : List Age :=
  [⟨6, 0, [0x526, 0x528, 0x620, 0x621, 0x65F, 0x660, 0x840, 0x85C, 0x85E, 0x85F, 0x93A, 0x93C,
     0x94F, 0x950, 0x956, 0x958, 0x973, 0x978, 0xB72, 0xB78, 0xD29, 0xD2A, 0xD3A, 0xD3B, 0xD4E,
     0xD4F, 0xF8C, 0xF90, 0xFD9, 0xFDB, 0x135D, 0x135F, 0x1BC0, 0x1BF4, 0x1BFC, 0x1C00, 0x1DFC,
     0x1DFD, 0x2095, 0x209D, 0x20B9, 0x20BA, 0x23E9, 0x23F4, 0x26CE, 0x26CF, 0x26E2, 0x26E3, 0x26E4,
     0x26E8, 0x2705, 0x2706, 0x270A, 0x270C, 0x2728, 0x2729, 0x274C, 0x274D, 0x274E, 0x274F, 0x2753,
     0x2756, 0x275F, 0x2761, 0x2795, 0x2798, 0x27B0, 0x27B1, 0x27BF, 0x27C0, 0x27CE, 0x27D0, 0x2D70,
     0x2D71, 0x2D7F, 0x2D80, 0x31B8, 0x31BB, 0xA660, 0xA662, 0xA78D, 0xA78F, 0xA790, 0xA792, 0xA7A0,
     0xA7AA, 0xA7FA, 0xA7FB, 0xAB01, 0xAB07, 0xAB09, 0xAB0F, 0xAB11, 0xAB17, 0xAB20, 0xAB27, 0xAB28,
     0xAB2F, 0xFBB2, 0xFBC2, 0x11000, 0x1104E, 0x11052, 0x11070, 0x16800, 0x16A39, 0x1B000, 0x1B002,
     0x1F0A0, 0x1F0AF, 0x1F0B1, 0x1F0BF, 0x1F0C1, 0x1F0D0, 0x1F0D1, 0x1F0E0, 0x1F130, 0x1F131,
     0x1F132, 0x1F13D, 0x1F13E, 0x1F13F, 0x1F140, 0x1F142, 0x1F143, 0x1F146, 0x1F147, 0x1F14A,
     0x1F14F, 0x1F157, 0x1F158, 0x1F15F, 0x1F160, 0x1F16A, 0x1F170, 0x1F179, 0x1F17A, 0x1F17B,
     0x1F17D, 0x1F17F, 0x1F180, 0x1F18A, 0x1F18E, 0x1F190, 0x1F191, 0x1F19B, 0x1F1E6, 0x1F200,
     0x1F201, 0x1F203, 0x1F232, 0x1F23B, 0x1F250, 0x1F252, 0x1F300, 0x1F321, 0x1F330, 0x1F336,
     0x1F337, 0x1F37D, 0x1F380, 0x1F394, 0x1F3A0, 0x1F3C5, 0x1F3C6, 0x1F3CB, 0x1F3E0, 0x1F3F1,
     0x1F400, 0x1F43F, 0x1F440, 0x1F441, 0x1F442, 0x1F4F8, 0x1F4F9, 0x1F4FD, 0x1F500, 0x1F53E,
     0x1F550, 0x1F568, 0x1F5FB, 0x1F600, 0x1F601, 0x1F611, 0x1F612, 0x1F615, 0x1F616, 0x1F617,
     0x1F618, 0x1F619, 0x1F61A, 0x1F61B, 0x1F61C, 0x1F61F, 0x1F620, 0x1F626, 0x1F628, 0x1F62C,
     0x1F62D, 0x1F62E, 0x1F630, 0x1F634, 0x1F635, 0x1F641, 0x1F645, 0x1F650, 0x1F680, 0x1F6C6,
     0x1F700, 0x1F774, 0x2B740, 0x2B81E]⟩,
   ⟨6, 1, [0x58F, 0x590, 0x604, 0x605, 0x8A0, 0x8A1, 0x8A2, 0x8AD, 0x8E4, 0x8FF, 0xAF0, 0xAF1,
     0xEDE, 0xEE0, 0x10C7, 0x10C8, 0x10CD, 0x10CE, 0x10FD, 0x1100, 0x1BAB, 0x1BAE, 0x1BBA, 0x1BC0,
     0x1CC0, 0x1CC8, 0x1CF3, 0x1CF7, 0x27CB, 0x27CC, 0x27CD, 0x27CE, 0x2CF2, 0x2CF4, 0x2D27, 0x2D28,
     0x2D2D, 0x2D2E, 0x2D66, 0x2D68, 0x2E32, 0x2E3C, 0x9FCC, 0x9FCD, 0xA674, 0xA67C, 0xA69F, 0xA6A0,
     0xA792, 0xA794, 0xA7AA, 0xA7AB, 0xA7F8, 0xA7FA, 0xAAE0, 0xAAF7, 0xFA2E, 0xFA30, 0x10980,
     0x109B8, 0x109BE, 0x109C0, 0x110D0, 0x110E9, 0x110F0, 0x110FA, 0x11100, 0x11135, 0x11136,
     0x11144, 0x11180, 0x111C9, 0x111D0, 0x111DA, 0x11680, 0x116B8, 0x116C0, 0x116CA, 0x16F00,
     0x16F45, 0x16F50, 0x16F7F, 0x16F8F, 0x16FA0, 0x1EE00, 0x1EE04, 0x1EE05, 0x1EE20, 0x1EE21,
     0x1EE23, 0x1EE24, 0x1EE25, 0x1EE27, 0x1EE28, 0x1EE29, 0x1EE33, 0x1EE34, 0x1EE38, 0x1EE39,
     0x1EE3A, 0x1EE3B, 0x1EE3C, 0x1EE42, 0x1EE43, 0x1EE47, 0x1EE48, 0x1EE49, 0x1EE4A, 0x1EE4B,
     0x1EE4C, 0x1EE4D, 0x1EE50, 0x1EE51, 0x1EE53, 0x1EE54, 0x1EE55, 0x1EE57, 0x1EE58, 0x1EE59,
     0x1EE5A, 0x1EE5B, 0x1EE5C, 0x1EE5D, 0x1EE5E, 0x1EE5F, 0x1EE60, 0x1EE61, 0x1EE63, 0x1EE64,
     0x1EE65, 0x1EE67, 0x1EE6B, 0x1EE6C, 0x1EE73, 0x1EE74, 0x1EE78, 0x1EE79, 0x1EE7D, 0x1EE7E,
     0x1EE7F, 0x1EE80, 0x1EE8A, 0x1EE8B, 0x1EE9C, 0x1EEA1, 0x1EEA4, 0x1EEA5, 0x1EEAA, 0x1EEAB,
     0x1EEBC, 0x1EEF0, 0x1EEF2, 0x1F16A, 0x1F16C, 0x1F540, 0x1F544, 0x1F600, 0x1F601, 0x1F611,
     0x1F612, 0x1F615, 0x1F616, 0x1F617, 0x1F618, 0x1F619, 0x1F61A, 0x1F61B, 0x1F61C, 0x1F61F,
     0x1F620, 0x1F626, 0x1F628, 0x1F62C, 0x1F62D, 0x1F62E, 0x1F630, 0x1F634, 0x1F635]⟩,
   ⟨6, 2, [0x20BA, 0x20BB]⟩,
   ⟨6, 3, [0x61C, 0x61D, 0x2066, 0x206A]⟩,
   ⟨7, 0, [0x37F, 0x380, 0x528, 0x530, 0x58D, 0x58F, 0x605, 0x606, 0x8A1, 0x8A2, 0x8AD, 0x8B3,
     0x8FF, 0x900, 0x978, 0x979, 0x980, 0x981, 0xC00, 0xC01, 0xC34, 0xC35, 0xC81, 0xC82, 0xD01,
     0xD02, 0xDE6, 0xDF0, 0x16F1, 0x16F9, 0x191D, 0x191F, 0x1AB0, 0x1ABF, 0x1CF8, 0x1CFA, 0x1DE7,
     0x1DF6, 0x20BB, 0x20BE, 0x23F4, 0x23FB, 0x2700, 0x2701, 0x2B4D, 0x2B50, 0x2B5A, 0x2B74, 0x2B76,
     0x2B96, 0x2B98, 0x2BBA, 0x2BBD, 0x2BC9, 0x2BCA, 0x2BD2, 0x2E3C, 0x2E43, 0xA698, 0xA69E, 0xA794,
     0xA7A0, 0xA7AB, 0xA7AE, 0xA7B0, 0xA7B2, 0xA7F7, 0xA7F8, 0xA9E0, 0xA9FF, 0xAA7C, 0xAA80, 0xAB30,
     0xAB60, 0xAB64, 0xAB66, 0xFE27, 0xFE2E, 0x1018B, 0x1018D, 0x101A0, 0x101A1, 0x102E0, 0x102FC,
     0x1031F, 0x10320, 0x10350, 0x1037B, 0x10500, 0x10528, 0x10530, 0x10564, 0x1056F, 0x10570,
     0x10600, 0x10737, 0x10740, 0x10756, 0x10760, 0x10768, 0x10860, 0x1089F, 0x108A7, 0x108B0,
     0x10A80, 0x10AA0, 0x10AC0, 0x10AE7, 0x10AEB, 0x10AF7, 0x10B80, 0x10B92, 0x10B99, 0x10B9D,
     0x10BA9, 0x10BB0, 0x1107F, 0x11080, 0x11150, 0x11177, 0x111CD, 0x111CE, 0x111DA, 0x111DB,
     0x111E1, 0x111F5, 0x11200, 0x11212, 0x11213, 0x1123E, 0x112B0, 0x112EB, 0x112F0, 0x112FA,
     0x11301, 0x11304, 0x11305, 0x1130D, 0x1130F, 0x11311, 0x11313, 0x11329, 0x1132A, 0x11331,
     0x11332, 0x11334, 0x11335, 0x1133A, 0x1133C, 0x11345, 0x11347, 0x11349, 0x1134B, 0x1134E,
     0x11357, 0x11358, 0x1135D, 0x11364, 0x11366, 0x1136D, 0x11370, 0x11375, 0x11480, 0x114C8,
     0x114D0, 0x114DA, 0x11580, 0x115B6, 0x115B8, 0x115CA, 0x11600, 0x11645, 0x11650, 0x1165A,
     0x118A0, 0x118F3, 0x118FF, 0x11900, 0x11AC0, 0x11AF9, 0x1236F, 0x12399, 0x12463, 0x1246F,
     0x12474, 0x12475, 0x16A40, 0x16A5F, 0x16A60, 0x16A6A, 0x16A6E, 0x16A70, 0x16AD0, 0x16AEE,
     0x16AF0, 0x16AF6, 0x16B00, 0x16B46, 0x16B50, 0x16B5A, 0x16B5B, 0x16B62, 0x16B63, 0x16B78,
     0x16B7D, 0x16B90, 0x1BC00, 0x1BC6B, 0x1BC70, 0x1BC7D, 0x1BC80, 0x1BC89, 0x1BC90, 0x1BC9A,
     0x1BC9C, 0x1BCA4, 0x1E800, 0x1E8C5, 0x1E8C7, 0x1E8D7, 0x1F0BF, 0x1F0C0, 0x1F0E0, 0x1F0F6,
     0x1F10B, 0x1F10D, 0x1F321, 0x1F32D, 0x1F336, 0x1F337, 0x1F37D, 0x1F37E, 0x1F394, 0x1F3A0,
     0x1F3C5, 0x1F3C6, 0x1F3CB, 0x1F3CF, 0x1F3D4, 0x1F3E0, 0x1F3F1, 0x1F3F8, 0x1F43F, 0x1F440,
     0x1F441, 0x1F442, 0x1F4F8, 0x1F4F9, 0x1F4FD, 0x1F4FF, 0x1F53E, 0x1F540, 0x1F544, 0x1F54B,
     0x1F568, 0x1F57A, 0x1F57B, 0x1F5A4, 0x1F5A5, 0x1F5FB, 0x1F641, 0x1F643, 0x1F650, 0x1F680,
     0x1F6C6, 0x1F6D0, 0x1F6E0, 0x1F6ED, 0x1F6F0, 0x1F6F4, 0x1F780, 0x1F7D5, 0x1F800, 0x1F80C,
     0x1F810, 0x1F848, 0x1F850, 0x1F85A, 0x1F860, 0x1F888, 0x1F890, 0x1F8AE]⟩,
   ⟨8, 0, [0x8B3, 0x8B5, 0x8E3, 0x8E4, 0xAF9, 0xAFA, 0xC5A, 0xC5B, 0xD5F, 0xD60, 0x13F5, 0x13F6,
     0x13F8, 0x13FE, 0x20BE, 0x20BF, 0x218A, 0x218C, 0x2BEC, 0x2BF0, 0x9FCD, 0x9FD6, 0xA69E, 0xA69F,
     0xA78F, 0xA790, 0xA7B2, 0xA7B8, 0xA8FC, 0xA8FE, 0xAB60, 0xAB64, 0xAB70, 0xABC0, 0xFE2E, 0xFE30,
     0x108E0, 0x108F3, 0x108F4, 0x108F6, 0x108FB, 0x10900, 0x109BC, 0x109BE, 0x109C0, 0x109D0,
     0x109D2, 0x10A00, 0x10C80, 0x10CB3, 0x10CC0, 0x10CF3, 0x10CFA, 0x10D00, 0x111C9, 0x111CD,
     0x111DB, 0x111E0, 0x11280, 0x11287, 0x11288, 0x11289, 0x1128A, 0x1128E, 0x1128F, 0x1129E,
     0x1129F, 0x112AA, 0x11300, 0x11301, 0x11350, 0x11351, 0x115CA, 0x115DE, 0x11700, 0x1171A,
     0x1171D, 0x1172C, 0x11730, 0x11740, 0x12399, 0x1239A, 0x12480, 0x12544, 0x14400, 0x14647,
     0x1D1DE, 0x1D1E9, 0x1D800, 0x1DA8C, 0x1DA9B, 0x1DAA0, 0x1DAA1, 0x1DAB0, 0x1F32D, 0x1F330,
     0x1F37E, 0x1F380, 0x1F3CF, 0x1F3D4, 0x1F3F8, 0x1F400, 0x1F4FF, 0x1F500, 0x1F54B, 0x1F550,
     0x1F643, 0x1F645, 0x1F6D0, 0x1F6D1, 0x1F910, 0x1F919, 0x1F980, 0x1F985, 0x1F9C0, 0x1F9C1,
     0x2B820, 0x2CEA2]⟩,
   ⟨9, 0, [0x8B6, 0x8BE, 0x8D4, 0x8E3, 0xC80, 0xC81, 0xD4F, 0xD50, 0xD54, 0xD57, 0xD58, 0xD5F,
     0xD76, 0xD79, 0x1C80, 0x1C89, 0x1DFB, 0x1DFC, 0x23FB, 0x23FF, 0x2E43, 0x2E45, 0xA7AE, 0xA7AF,
     0xA8C5, 0xA8C6, 0x1018D, 0x1018F, 0x104B0, 0x104D4, 0x104D8, 0x104FC, 0x1123E, 0x1123F,
     0x11400, 0x1145A, 0x1145B, 0x1145C, 0x1145D, 0x1145E, 0x11660, 0x1166D, 0x11C00, 0x11C09,
     0x11C0A, 0x11C37, 0x11C38, 0x11C46, 0x11C50, 0x11C6D, 0x11C70, 0x11C90, 0x11C92, 0x11CA8,
     0x11CA9, 0x11CB7, 0x16FE0, 0x16FE1, 0x17000, 0x187ED, 0x18800, 0x18AF3, 0x1E000, 0x1E007,
     0x1E008, 0x1E019, 0x1E01B, 0x1E022, 0x1E023, 0x1E025, 0x1E026, 0x1E02B, 0x1E900, 0x1E94B,
     0x1E950, 0x1E95A, 0x1E95E, 0x1E960, 0x1F19B, 0x1F1AD, 0x1F23B, 0x1F23C, 0x1F57A, 0x1F57B,
     0x1F5A4, 0x1F5A5, 0x1F6D1, 0x1F6D3, 0x1F6F4, 0x1F6F7, 0x1F919, 0x1F91F, 0x1F920, 0x1F928,
     0x1F930, 0x1F931, 0x1F933, 0x1F93F, 0x1F940, 0x1F94C, 0x1F950, 0x1F95F, 0x1F985, 0x1F992]⟩,
   ⟨10, 0, [0x860, 0x86B, 0x9FC, 0x9FE, 0xAFA, 0xB00, 0xD00, 0xD01, 0xD3B, 0xD3D, 0x1CF7, 0x1CF8,
     0x1DF6, 0x1DFA, 0x20BF, 0x20C0, 0x23FF, 0x2400, 0x2BD2, 0x2BD3, 0x2E45, 0x2E4A, 0x312E, 0x312F,
     0x9FD6, 0x9FEB, 0x1032D, 0x10330, 0x11A00, 0x11A48, 0x11A50, 0x11A84, 0x11A86, 0x11A9D,
     0x11A9E, 0x11AA3, 0x11D00, 0x11D07, 0x11D08, 0x11D0A, 0x11D0B, 0x11D37, 0x11D3A, 0x11D3B,
     0x11D3C, 0x11D3E, 0x11D3F, 0x11D48, 0x11D50, 0x11D5A, 0x16FE1, 0x16FE2, 0x1B002, 0x1B11F,
     0x1B170, 0x1B2FC, 0x1F260, 0x1F266, 0x1F6D3, 0x1F6D5, 0x1F6F7, 0x1F6F9, 0x1F900, 0x1F90C,
     0x1F91F, 0x1F920, 0x1F928, 0x1F930, 0x1F931, 0x1F933, 0x1F94C, 0x1F94D, 0x1F95F, 0x1F96C,
     0x1F992, 0x1F998, 0x1F9D0, 0x1F9E7, 0x2CEB0, 0x2EBE1]⟩,
   ⟨11, 0, [0x560, 0x561, 0x588, 0x589, 0x5EF, 0x5F0, 0x7FD, 0x800, 0x8D3, 0x8D4, 0x9FE, 0x9FF,
     0xA76, 0xA77, 0xC04, 0xC05, 0xC84, 0xC85, 0x1878, 0x1879, 0x1C90, 0x1CBB, 0x1CBD, 0x1CC0,
     0x2BBA, 0x2BBD, 0x2BD3, 0x2BEC, 0x2BF0, 0x2BFF, 0x2E4A, 0x2E4F, 0x312F, 0x3130, 0x9FEB, 0x9FF0,
     0xA7AF, 0xA7B0, 0xA7B8, 0xA7BA, 0xA8FE, 0xA900, 0x10A34, 0x10A36, 0x10A48, 0x10A49, 0x10D00,
     0x10D28, 0x10D30, 0x10D3A, 0x10F00, 0x10F28, 0x10F30, 0x10F5A, 0x110CD, 0x110CE, 0x11144,
     0x11147, 0x1133B, 0x1133C, 0x1145E, 0x1145F, 0x1171A, 0x1171B, 0x11800, 0x1183C, 0x11A9D,
     0x11A9E, 0x11D60, 0x11D66, 0x11D67, 0x11D69, 0x11D6A, 0x11D8F, 0x11D90, 0x11D92, 0x11D93,
     0x11D99, 0x11DA0, 0x11DAA, 0x11EE0, 0x11EF9, 0x16E40, 0x16E9B, 0x187ED, 0x187F2, 0x1D2E0,
     0x1D2F4, 0x1D372, 0x1D379, 0x1EC71, 0x1ECB5, 0x1F12F, 0x1F130, 0x1F6F9, 0x1F6FA, 0x1F7D5,
     0x1F7D9, 0x1F94D, 0x1F950, 0x1F96C, 0x1F971, 0x1F973, 0x1F977, 0x1F97A, 0x1F97B, 0x1F97C,
     0x1F980, 0x1F998, 0x1F9A3, 0x1F9B0, 0x1F9BA, 0x1F9C1, 0x1F9C3, 0x1F9E7, 0x1FA00, 0x1FA60,
     0x1FA6E]⟩,
   ⟨12, 0, [0xC77, 0xC78, 0xE86, 0xE87, 0xE89, 0xE8A, 0xE8C, 0xE8D, 0xE8E, 0xE94, 0xE98, 0xE99,
     0xEA0, 0xEA1, 0xEA8, 0xEAA, 0xEAC, 0xEAD, 0xEBA, 0xEBB, 0x1CFA, 0x1CFB, 0x2BC9, 0x2BCA, 0x2BFF,
     0x2C00, 0x2E4F, 0x2E50, 0xA7BA, 0xA7C0, 0xA7C2, 0xA7C7, 0xAB66, 0xAB68, 0x10FE0, 0x10FF7,
     0x1145F, 0x11460, 0x116B8, 0x116B9, 0x119A0, 0x119A8, 0x119AA, 0x119D8, 0x119DA, 0x119E5,
     0x11A84, 0x11A86, 0x11FC0, 0x11FF2, 0x11FFF, 0x12000, 0x13430, 0x13439, 0x16F45, 0x16F4B,
     0x16F4F, 0x16F50, 0x16F7F, 0x16F88, 0x16FE2, 0x16FE4, 0x187F2, 0x187F8, 0x1B150, 0x1B153,
     0x1B164, 0x1B168, 0x1E100, 0x1E12D, 0x1E130, 0x1E13E, 0x1E140, 0x1E14A, 0x1E14E, 0x1E150,
     0x1E2C0, 0x1E2FA, 0x1E2FF, 0x1E300, 0x1E94B, 0x1E94C, 0x1ED01, 0x1ED3E, 0x1F16C, 0x1F16D,
     0x1F6D5, 0x1F6D6, 0x1F6FA, 0x1F6FB, 0x1F7E0, 0x1F7EC, 0x1F90D, 0x1F910, 0x1F93F, 0x1F940,
     0x1F971, 0x1F972, 0x1F97B, 0x1F97C, 0x1F9A5, 0x1F9AB, 0x1F9AE, 0x1F9B0, 0x1F9BA, 0x1F9C0,
     0x1F9C3, 0x1F9CB, 0x1F9CD, 0x1F9D0, 0x1FA00, 0x1FA54, 0x1FA70, 0x1FA74, 0x1FA78, 0x1FA7B,
     0x1FA80, 0x1FA83, 0x1FA90, 0x1FA96]⟩,
   ⟨12, 1, [0x32FF, 0x3300]⟩,
   ⟨13, 0, [0x8BE, 0x8C8, 0xB55, 0xB56, 0xD04, 0xD05, 0xD81, 0xD82, 0x1ABF, 0x1AC1, 0x2B97, 0x2B98,
     0x2E50, 0x2E53, 0x31BB, 0x31C0, 0x4DB6, 0x4DC0, 0x9FF0, 0x9FFD, 0xA7C7, 0xA7CB, 0xA7F5, 0xA7F7,
     0xA82C, 0xA82D, 0xAB68, 0xAB6C, 0x1019C, 0x1019D, 0x10E80, 0x10EAA, 0x10EAB, 0x10EAE, 0x10EB0,
     0x10EB2, 0x10FB0, 0x10FCC, 0x11147, 0x11148, 0x111CE, 0x111D0, 0x1145A, 0x1145B, 0x11460,
     0x11462, 0x11900, 0x11907, 0x11909, 0x1190A, 0x1190C, 0x11914, 0x11915, 0x11917, 0x11918,
     0x11936, 0x11937, 0x11939, 0x1193B, 0x11947, 0x11950, 0x1195A, 0x11FB0, 0x11FB1, 0x16FE4,
     0x16FE5, 0x16FF0, 0x16FF2, 0x18AF3, 0x18CD6, 0x18D00, 0x18D09, 0x1F10D, 0x1F110, 0x1F16D,
     0x1F170, 0x1F1AD, 0x1F1AE, 0x1F6D6, 0x1F6D8, 0x1F6FB, 0x1F6FD, 0x1F8B0, 0x1F8B2, 0x1F90C,
     0x1F90D, 0x1F972, 0x1F973, 0x1F977, 0x1F979, 0x1F9A3, 0x1F9A5, 0x1F9AB, 0x1F9AE, 0x1F9CB,
     0x1F9CC, 0x1FA74, 0x1FA75, 0x1FA83, 0x1FA87, 0x1FA96, 0x1FAA9, 0x1FAB0, 0x1FAB7, 0x1FAC0,
     0x1FAC3, 0x1FAD0, 0x1FAD7, 0x1FB00, 0x1FB93, 0x1FB94, 0x1FBCB, 0x1FBF0, 0x1FBFA, 0x2A6D7,
     0x2A6DE, 0x30000, 0x3134B]⟩,
   ⟨14, 0, [0x61D, 0x61E, 0x870, 0x88F, 0x890, 0x892, 0x898, 0x8A0, 0x8B5, 0x8B6, 0x8C8, 0x8D3,
     0xC3C, 0xC3D, 0xC5D, 0xC5E, 0xCDD, 0xCDE, 0x170D, 0x170E, 0x1715, 0x1716, 0x171F, 0x1720,
     0x180F, 0x1810, 0x1AC1, 0x1ACF, 0x1B4C, 0x1B4D, 0x1B7D, 0x1B7F, 0x1DFA, 0x1DFB, 0x20C0, 0x20C1,
     0x2C2F, 0x2C30, 0x2C5F, 0x2C60, 0x2E53, 0x2E5E, 0x9FFD, 0xA000, 0xA7C0, 0xA7C2, 0xA7D0, 0xA7D2,
     0xA7D3, 0xA7D4, 0xA7D5, 0xA7DA, 0xA7F2, 0xA7F5, 0xFBC2, 0xFBC3, 0xFD40, 0xFD50, 0xFDCF, 0xFDD0,
     0xFDFE, 0xFE00, 0x10570, 0x1057B, 0x1057C, 0x1058B, 0x1058C, 0x10593, 0x10594, 0x10596,
     0x10597, 0x105A2, 0x105A3, 0x105B2, 0x105B3, 0x105BA, 0x105BB, 0x105BD, 0x10780, 0x10786,
     0x10787, 0x107B1, 0x107B2, 0x107BB, 0x10F70, 0x10F8A, 0x11070, 0x11076, 0x110C2, 0x110C3,
     0x116B9, 0x116BA, 0x11740, 0x11747, 0x11AB0, 0x11AC0, 0x12F90, 0x12FF3, 0x16A70, 0x16ABF,
     0x16AC0, 0x16ACA, 0x1AFF0, 0x1AFF4, 0x1AFF5, 0x1AFFC, 0x1AFFD, 0x1AFFF, 0x1B11F, 0x1B123,
     0x1CF00, 0x1CF2E, 0x1CF30, 0x1CF47, 0x1CF50, 0x1CFC4, 0x1D1E9, 0x1D1EB, 0x1DF00, 0x1DF1F,
     0x1E290, 0x1E2AF, 0x1E7E0, 0x1E7E7, 0x1E7E8, 0x1E7EC, 0x1E7ED, 0x1E7EF, 0x1E7F0, 0x1E7FF,
     0x1F6DD, 0x1F6E0, 0x1F7F0, 0x1F7F1, 0x1F979, 0x1F97A, 0x1F9CC, 0x1F9CD, 0x1FA7B, 0x1FA7D,
     0x1FAA9, 0x1FAAD, 0x1FAB7, 0x1FABB, 0x1FAC3, 0x1FAC6, 0x1FAD7, 0x1FADA, 0x1FAE0, 0x1FAE8,
     0x1FAF0, 0x1FAF7, 0x2A6DE, 0x2A6E0, 0x2B735, 0x2B739]⟩,
   ⟨15, 0, [0xCF3, 0xCF4, 0xECE, 0xECF, 0x10EFD, 0x10F00, 0x1123F, 0x11242, 0x11B00, 0x11B0A,
     0x11F00, 0x11F11, 0x11F12, 0x11F3B, 0x11F3E, 0x11F5A, 0x1342F, 0x13430, 0x13439, 0x13456,
     0x1B132, 0x1B133, 0x1B155, 0x1B156, 0x1D2C0, 0x1D2D4, 0x1DF25, 0x1DF2B, 0x1E030, 0x1E06E,
     0x1E08F, 0x1E090, 0x1E4D0, 0x1E4FA, 0x1F6DC, 0x1F6DD, 0x1F774, 0x1F777, 0x1F77B, 0x1F780,
     0x1F7D9, 0x1F7DA, 0x1FA75, 0x1FA78, 0x1FA87, 0x1FA89, 0x1FAAD, 0x1FAB0, 0x1FABB, 0x1FABE,
     0x1FABF, 0x1FAC0, 0x1FACE, 0x1FAD0, 0x1FADA, 0x1FADC, 0x1FAE8, 0x1FAE9, 0x1FAF7, 0x1FAF9,
     0x2B739, 0x2B73A, 0x31350, 0x323B0]⟩,
   ⟨15, 1, [0x2FFC, 0x3000, 0x31EF, 0x31F0, 0x2EBF0, 0x2EE5E]⟩,
   ⟨16, 0, [0x897, 0x898, 0x1B4E, 0x1B50, 0x1B7F, 0x1B80, 0x1C89, 0x1C8B, 0x2427, 0x242A, 0x31E4,
     0x31E6, 0xA7CB, 0xA7CE, 0xA7DA, 0xA7DD, 0x105C0, 0x105F4, 0x10D40, 0x10D66, 0x10D69, 0x10D86,
     0x10D8E, 0x10D90, 0x10EC2, 0x10EC5, 0x10EFC, 0x10EFD, 0x11380, 0x1138A, 0x1138B, 0x1138C,
     0x1138E, 0x1138F, 0x11390, 0x113B6, 0x113B7, 0x113C1, 0x113C2, 0x113C3, 0x113C5, 0x113C6,
     0x113C7, 0x113CB, 0x113CC, 0x113D6, 0x113D7, 0x113D9, 0x113E1, 0x113E3, 0x116D0, 0x116E4,
     0x11BC0, 0x11BE2, 0x11BF0, 0x11BFA, 0x11F5A, 0x11F5B, 0x13460, 0x143FB, 0x16100, 0x1613A,
     0x16D40, 0x16D7A, 0x18CFF, 0x18D00, 0x1CC00, 0x1CCFA, 0x1CD00, 0x1CEB4, 0x1E5D0, 0x1E5FB,
     0x1E5FF, 0x1E600, 0x1F8B2, 0x1F8BC, 0x1F8C0, 0x1F8C2, 0x1FA89, 0x1FA8A, 0x1FA8F, 0x1FA90,
     0x1FABE, 0x1FABF, 0x1FAC6, 0x1FAC7, 0x1FADC, 0x1FADD, 0x1FADF, 0x1FAE0, 0x1FAE9, 0x1FAEA,
     0x1FBCB, 0x1FBF0]⟩]

def ages : List Age := firstAges ++ laterAges

namespace Age

/-- An edition is written with a dot between its numbers, or with a `v` before them. -/
def isNamed (age : Age) (name : String) : Bool :=
  name == toString age.major ++ "." ++ toString age.minor
    || name == "v" ++ toString age.major ++ toString age.minor

def isUpTo (age limit : Age) : Bool :=
  age.major < limit.major || age.major == limit.major && age.minor ≤ limit.minor

/-- The character was there already in the edition `limit`. -/
def holds (limit : Age) (c : Char) : Bool :=
  ages.any fun age => age.isUpTo limit && age.added.includes c.toNat

end Age

def age? (name : String) : Option Age :=
  ages.find? fun age => age.isNamed name

end SqlTemplate.Unicode
