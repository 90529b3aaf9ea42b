/-! Properties of characters that patterns name: case, the general categories, and the scripts most
asked for. A table lists runs of code points: the first, the last, and the step between them. -/

namespace Telemetry.Property

/-- Capital letters. -/
def upper : Array (Nat × Nat × Nat) := #[
  (0x41, 0x5A, 1), (0xC0, 0xD6, 1), (0xD8, 0xDE, 1), (0x100, 0x136, 2), (0x139, 0x147, 2),
  (0x14A, 0x176, 2), (0x178, 0x179, 1), (0x17B, 0x17D, 2), (0x181, 0x182, 1), (0x184, 0x184, 1),
  (0x186, 0x187, 1), (0x189, 0x18B, 1), (0x18E, 0x191, 1), (0x193, 0x194, 1), (0x196, 0x198, 1),
  (0x19C, 0x19D, 1), (0x19F, 0x1A0, 1), (0x1A2, 0x1A4, 2), (0x1A6, 0x1A7, 1), (0x1A9, 0x1A9, 1),
  (0x1AC, 0x1AC, 1), (0x1AE, 0x1AF, 1), (0x1B1, 0x1B3, 1), (0x1B5, 0x1B5, 1), (0x1B7, 0x1B8, 1),
  (0x1BC, 0x1BC, 1), (0x1C4, 0x1C4, 1), (0x1C7, 0x1C7, 1), (0x1CA, 0x1CA, 1), (0x1CD, 0x1DB, 2),
  (0x1DE, 0x1EE, 2), (0x1F1, 0x1F1, 1), (0x1F4, 0x1F4, 1), (0x1F6, 0x1F8, 1), (0x1FA, 0x232, 2),
  (0x23A, 0x23B, 1), (0x23D, 0x23E, 1), (0x241, 0x241, 1), (0x243, 0x246, 1), (0x248, 0x24E, 2),
  (0x370, 0x372, 2), (0x376, 0x376, 1), (0x37F, 0x37F, 1), (0x386, 0x386, 1), (0x388, 0x38A, 1),
  (0x38C, 0x38C, 1), (0x38E, 0x38F, 1), (0x391, 0x3A1, 1), (0x3A3, 0x3AB, 1), (0x3CF, 0x3CF, 1),
  (0x3D2, 0x3D4, 1), (0x3D8, 0x3EE, 2), (0x3F4, 0x3F4, 1), (0x3F7, 0x3F7, 1), (0x3F9, 0x3FA, 1),
  (0x3FD, 0x42F, 1), (0x460, 0x480, 2), (0x48A, 0x4BE, 2), (0x4C0, 0x4C1, 1), (0x4C3, 0x4CD, 2),
  (0x4D0, 0x52E, 2), (0x531, 0x556, 1), (0x10A0, 0x10C5, 1), (0x10C7, 0x10C7, 1),
  (0x10CD, 0x10CD, 1), (0x13A0, 0x13F5, 1), (0x1C90, 0x1CBA, 1), (0x1CBD, 0x1CBF, 1),
  (0x1E00, 0x1E94, 2), (0x1E9E, 0x1EFE, 2), (0x1F08, 0x1F0F, 1), (0x1F18, 0x1F1D, 1),
  (0x1F28, 0x1F2F, 1), (0x1F38, 0x1F3F, 1), (0x1F48, 0x1F4D, 1), (0x1F59, 0x1F5F, 2),
  (0x1F68, 0x1F6F, 1), (0x1FB8, 0x1FBB, 1), (0x1FC8, 0x1FCB, 1), (0x1FD8, 0x1FDB, 1),
  (0x1FE8, 0x1FEC, 1), (0x1FF8, 0x1FFB, 1), (0x2102, 0x2102, 1), (0x2107, 0x2107, 1),
  (0x210B, 0x210D, 1), (0x2110, 0x2112, 1), (0x2115, 0x2115, 1), (0x2119, 0x211D, 1),
  (0x2124, 0x2128, 2), (0x212A, 0x212D, 1), (0x2130, 0x2133, 1), (0x213E, 0x213F, 1),
  (0x2145, 0x2145, 1), (0x2183, 0x2183, 1), (0x2C00, 0x2C2F, 1), (0x2C60, 0x2C60, 1),
  (0x2C62, 0x2C64, 1), (0x2C67, 0x2C6B, 2), (0x2C6D, 0x2C70, 1), (0x2C72, 0x2C72, 1),
  (0x2C75, 0x2C75, 1), (0x2C7E, 0x2C80, 1), (0x2C82, 0x2CE2, 2), (0x2CEB, 0x2CED, 2),
  (0x2CF2, 0x2CF2, 1), (0xA640, 0xA66C, 2), (0xA680, 0xA69A, 2), (0xA722, 0xA72E, 2),
  (0xA732, 0xA76E, 2), (0xA779, 0xA77B, 2), (0xA77D, 0xA77E, 1), (0xA780, 0xA786, 2),
  (0xA78B, 0xA78D, 2), (0xA790, 0xA792, 2), (0xA796, 0xA7A8, 2), (0xA7AA, 0xA7AE, 1),
  (0xA7B0, 0xA7B4, 1), (0xA7B6, 0xA7C2, 2), (0xA7C4, 0xA7C7, 1), (0xA7C9, 0xA7C9, 1),
  (0xA7D0, 0xA7D0, 1), (0xA7D6, 0xA7D8, 2), (0xA7F5, 0xA7F5, 1), (0xFF21, 0xFF3A, 1),
  (0x10400, 0x10427, 1), (0x104B0, 0x104D3, 1), (0x10570, 0x1057A, 1), (0x1057C, 0x1058A, 1),
  (0x1058C, 0x10592, 1), (0x10594, 0x10595, 1), (0x10C80, 0x10CB2, 1), (0x118A0, 0x118BF, 1),
  (0x16E40, 0x16E5F, 1), (0x1D400, 0x1D419, 1), (0x1D434, 0x1D44D, 1), (0x1D468, 0x1D481, 1),
  (0x1D49C, 0x1D49C, 1), (0x1D49E, 0x1D49F, 1), (0x1D4A2, 0x1D4A2, 1), (0x1D4A5, 0x1D4A6, 1),
  (0x1D4A9, 0x1D4AC, 1), (0x1D4AE, 0x1D4B5, 1), (0x1D4D0, 0x1D4E9, 1), (0x1D504, 0x1D505, 1),
  (0x1D507, 0x1D50A, 1), (0x1D50D, 0x1D514, 1), (0x1D516, 0x1D51C, 1), (0x1D538, 0x1D539, 1),
  (0x1D53B, 0x1D53E, 1), (0x1D540, 0x1D544, 1), (0x1D546, 0x1D546, 1), (0x1D54A, 0x1D550, 1),
  (0x1D56C, 0x1D585, 1), (0x1D5A0, 0x1D5B9, 1), (0x1D5D4, 0x1D5ED, 1), (0x1D608, 0x1D621, 1),
  (0x1D63C, 0x1D655, 1), (0x1D670, 0x1D689, 1), (0x1D6A8, 0x1D6C0, 1), (0x1D6E2, 0x1D6FA, 1),
  (0x1D71C, 0x1D734, 1), (0x1D756, 0x1D76E, 1), (0x1D790, 0x1D7A8, 1), (0x1D7CA, 0x1D7CA, 1),
  (0x1E900, 0x1E921, 1)]

/-- Small letters. -/
def lower : Array (Nat × Nat × Nat) := #[
  (0x61, 0x7A, 1), (0xB5, 0xB5, 1), (0xDF, 0xF6, 1), (0xF8, 0xFF, 1), (0x101, 0x135, 2),
  (0x137, 0x138, 1), (0x13A, 0x146, 2), (0x148, 0x149, 1), (0x14B, 0x177, 2), (0x17A, 0x17C, 2),
  (0x17E, 0x180, 1), (0x183, 0x185, 2), (0x188, 0x188, 1), (0x18C, 0x18D, 1), (0x192, 0x192, 1),
  (0x195, 0x195, 1), (0x199, 0x19B, 1), (0x19E, 0x19E, 1), (0x1A1, 0x1A5, 2), (0x1A8, 0x1A8, 1),
  (0x1AA, 0x1AB, 1), (0x1AD, 0x1AD, 1), (0x1B0, 0x1B0, 1), (0x1B4, 0x1B6, 2), (0x1B9, 0x1BA, 1),
  (0x1BD, 0x1BF, 1), (0x1C6, 0x1C6, 1), (0x1C9, 0x1C9, 1), (0x1CC, 0x1DA, 2), (0x1DC, 0x1DD, 1),
  (0x1DF, 0x1ED, 2), (0x1EF, 0x1F0, 1), (0x1F3, 0x1F5, 2), (0x1F9, 0x231, 2), (0x233, 0x239, 1),
  (0x23C, 0x23C, 1), (0x23F, 0x240, 1), (0x242, 0x242, 1), (0x247, 0x24D, 2), (0x24F, 0x293, 1),
  (0x295, 0x2AF, 1), (0x371, 0x373, 2), (0x377, 0x377, 1), (0x37B, 0x37D, 1), (0x390, 0x390, 1),
  (0x3AC, 0x3CE, 1), (0x3D0, 0x3D1, 1), (0x3D5, 0x3D7, 1), (0x3D9, 0x3ED, 2), (0x3EF, 0x3F3, 1),
  (0x3F5, 0x3F5, 1), (0x3F8, 0x3F8, 1), (0x3FB, 0x3FC, 1), (0x430, 0x45F, 1), (0x461, 0x481, 2),
  (0x48B, 0x4BF, 2), (0x4C2, 0x4CC, 2), (0x4CE, 0x4CF, 1), (0x4D1, 0x52F, 2), (0x560, 0x588, 1),
  (0x10D0, 0x10FA, 1), (0x10FD, 0x10FF, 1), (0x13F8, 0x13FD, 1), (0x1C80, 0x1C88, 1),
  (0x1D00, 0x1D2B, 1), (0x1D6B, 0x1D77, 1), (0x1D79, 0x1D9A, 1), (0x1E01, 0x1E93, 2),
  (0x1E95, 0x1E9D, 1), (0x1E9F, 0x1EFD, 2), (0x1EFF, 0x1F07, 1), (0x1F10, 0x1F15, 1),
  (0x1F20, 0x1F27, 1), (0x1F30, 0x1F37, 1), (0x1F40, 0x1F45, 1), (0x1F50, 0x1F57, 1),
  (0x1F60, 0x1F67, 1), (0x1F70, 0x1F7D, 1), (0x1F80, 0x1F87, 1), (0x1F90, 0x1F97, 1),
  (0x1FA0, 0x1FA7, 1), (0x1FB0, 0x1FB4, 1), (0x1FB6, 0x1FB7, 1), (0x1FBE, 0x1FBE, 1),
  (0x1FC2, 0x1FC4, 1), (0x1FC6, 0x1FC7, 1), (0x1FD0, 0x1FD3, 1), (0x1FD6, 0x1FD7, 1),
  (0x1FE0, 0x1FE7, 1), (0x1FF2, 0x1FF4, 1), (0x1FF6, 0x1FF7, 1), (0x210A, 0x210A, 1),
  (0x210E, 0x210F, 1), (0x2113, 0x2113, 1), (0x212F, 0x212F, 1), (0x2134, 0x2134, 1),
  (0x2139, 0x2139, 1), (0x213C, 0x213D, 1), (0x2146, 0x2149, 1), (0x214E, 0x214E, 1),
  (0x2184, 0x2184, 1), (0x2C30, 0x2C5F, 1), (0x2C61, 0x2C61, 1), (0x2C65, 0x2C66, 1),
  (0x2C68, 0x2C6C, 2), (0x2C71, 0x2C71, 1), (0x2C73, 0x2C74, 1), (0x2C76, 0x2C7B, 1),
  (0x2C81, 0x2CE1, 2), (0x2CE3, 0x2CE4, 1), (0x2CEC, 0x2CEE, 2), (0x2CF3, 0x2CF3, 1),
  (0x2D00, 0x2D25, 1), (0x2D27, 0x2D27, 1), (0x2D2D, 0x2D2D, 1), (0xA641, 0xA66D, 2),
  (0xA681, 0xA69B, 2), (0xA723, 0xA72D, 2), (0xA72F, 0xA731, 1), (0xA733, 0xA76F, 2),
  (0xA771, 0xA778, 1), (0xA77A, 0xA77C, 2), (0xA77F, 0xA787, 2), (0xA78C, 0xA78E, 2),
  (0xA791, 0xA791, 1), (0xA793, 0xA795, 1), (0xA797, 0xA7A9, 2), (0xA7AF, 0xA7AF, 1),
  (0xA7B5, 0xA7C3, 2), (0xA7C8, 0xA7CA, 2), (0xA7D1, 0xA7D9, 2), (0xA7F6, 0xA7F6, 1),
  (0xA7FA, 0xA7FA, 1), (0xAB30, 0xAB5A, 1), (0xAB60, 0xAB68, 1), (0xAB70, 0xABBF, 1),
  (0xFB00, 0xFB06, 1), (0xFB13, 0xFB17, 1), (0xFF41, 0xFF5A, 1), (0x10428, 0x1044F, 1),
  (0x104D8, 0x104FB, 1), (0x10597, 0x105A1, 1), (0x105A3, 0x105B1, 1), (0x105B3, 0x105B9, 1),
  (0x105BB, 0x105BC, 1), (0x10CC0, 0x10CF2, 1), (0x118C0, 0x118DF, 1), (0x16E60, 0x16E7F, 1),
  (0x1D41A, 0x1D433, 1), (0x1D44E, 0x1D454, 1), (0x1D456, 0x1D467, 1), (0x1D482, 0x1D49B, 1),
  (0x1D4B6, 0x1D4B9, 1), (0x1D4BB, 0x1D4BB, 1), (0x1D4BD, 0x1D4C3, 1), (0x1D4C5, 0x1D4CF, 1),
  (0x1D4EA, 0x1D503, 1), (0x1D51E, 0x1D537, 1), (0x1D552, 0x1D56B, 1), (0x1D586, 0x1D59F, 1),
  (0x1D5BA, 0x1D5D3, 1), (0x1D5EE, 0x1D607, 1), (0x1D622, 0x1D63B, 1), (0x1D656, 0x1D66F, 1),
  (0x1D68A, 0x1D6A5, 1), (0x1D6C2, 0x1D6DA, 1), (0x1D6DC, 0x1D6E1, 1), (0x1D6FC, 0x1D714, 1),
  (0x1D716, 0x1D71B, 1), (0x1D736, 0x1D74E, 1), (0x1D750, 0x1D755, 1), (0x1D770, 0x1D788, 1),
  (0x1D78A, 0x1D78F, 1), (0x1D7AA, 0x1D7C2, 1), (0x1D7C4, 0x1D7C9, 1), (0x1D7CB, 0x1D7CB, 1),
  (0x1DF00, 0x1DF09, 1), (0x1DF0B, 0x1DF1E, 1), (0x1DF25, 0x1DF2A, 1), (0x1E922, 0x1E943, 1)]

/-- Digits and other numbers. -/
def numbers : Array (Nat × Nat × Nat) := #[
  (0x30, 0x39, 1), (0xB2, 0xB3, 1), (0xB9, 0xB9, 1), (0xBC, 0xBE, 1), (0x660, 0x669, 1),
  (0x6F0, 0x6F9, 1), (0x7C0, 0x7C9, 1), (0x966, 0x96F, 1), (0x9E6, 0x9EF, 1), (0x9F4, 0x9F9, 1),
  (0xA66, 0xA6F, 1), (0xAE6, 0xAEF, 1), (0xB66, 0xB6F, 1), (0xB72, 0xB77, 1), (0xBE6, 0xBF2, 1),
  (0xC66, 0xC6F, 1), (0xC78, 0xC7E, 1), (0xCE6, 0xCEF, 1), (0xD58, 0xD5E, 1), (0xD66, 0xD78, 1),
  (0xDE6, 0xDEF, 1), (0xE50, 0xE59, 1), (0xED0, 0xED9, 1), (0xF20, 0xF33, 1), (0x1040, 0x1049, 1),
  (0x1090, 0x1099, 1), (0x1369, 0x137C, 1), (0x16EE, 0x16F0, 1), (0x17E0, 0x17E9, 1),
  (0x17F0, 0x17F9, 1), (0x1810, 0x1819, 1), (0x1946, 0x194F, 1), (0x19D0, 0x19DA, 1),
  (0x1A80, 0x1A89, 1), (0x1A90, 0x1A99, 1), (0x1B50, 0x1B59, 1), (0x1BB0, 0x1BB9, 1),
  (0x1C40, 0x1C49, 1), (0x1C50, 0x1C59, 1), (0x2070, 0x2070, 1), (0x2074, 0x2079, 1),
  (0x2080, 0x2089, 1), (0x2150, 0x2182, 1), (0x2185, 0x2189, 1), (0x2460, 0x249B, 1),
  (0x24EA, 0x24FF, 1), (0x2776, 0x2793, 1), (0x2CFD, 0x2CFD, 1), (0x3007, 0x3007, 1),
  (0x3021, 0x3029, 1), (0x3038, 0x303A, 1), (0x3192, 0x3195, 1), (0x3220, 0x3229, 1),
  (0x3248, 0x324F, 1), (0x3251, 0x325F, 1), (0x3280, 0x3289, 1), (0x32B1, 0x32BF, 1),
  (0xA620, 0xA629, 1), (0xA6E6, 0xA6EF, 1), (0xA830, 0xA835, 1), (0xA8D0, 0xA8D9, 1),
  (0xA900, 0xA909, 1), (0xA9D0, 0xA9D9, 1), (0xA9F0, 0xA9F9, 1), (0xAA50, 0xAA59, 1),
  (0xABF0, 0xABF9, 1), (0xFF10, 0xFF19, 1), (0x10107, 0x10133, 1), (0x10140, 0x10178, 1),
  (0x1018A, 0x1018B, 1), (0x102E1, 0x102FB, 1), (0x10320, 0x10323, 1), (0x10341, 0x10341, 1),
  (0x1034A, 0x1034A, 1), (0x103D1, 0x103D5, 1), (0x104A0, 0x104A9, 1), (0x10858, 0x1085F, 1),
  (0x10879, 0x1087F, 1), (0x108A7, 0x108AF, 1), (0x108FB, 0x108FF, 1), (0x10916, 0x1091B, 1),
  (0x109BC, 0x109BD, 1), (0x109C0, 0x109CF, 1), (0x109D2, 0x109FF, 1), (0x10A40, 0x10A48, 1),
  (0x10A7D, 0x10A7E, 1), (0x10A9D, 0x10A9F, 1), (0x10AEB, 0x10AEF, 1), (0x10B58, 0x10B5F, 1),
  (0x10B78, 0x10B7F, 1), (0x10BA9, 0x10BAF, 1), (0x10CFA, 0x10CFF, 1), (0x10D30, 0x10D39, 1),
  (0x10E60, 0x10E7E, 1), (0x10F1D, 0x10F26, 1), (0x10F51, 0x10F54, 1), (0x10FC5, 0x10FCB, 1),
  (0x11052, 0x1106F, 1), (0x110F0, 0x110F9, 1), (0x11136, 0x1113F, 1), (0x111D0, 0x111D9, 1),
  (0x111E1, 0x111F4, 1), (0x112F0, 0x112F9, 1), (0x11450, 0x11459, 1), (0x114D0, 0x114D9, 1),
  (0x11650, 0x11659, 1), (0x116C0, 0x116C9, 1), (0x11730, 0x1173B, 1), (0x118E0, 0x118F2, 1),
  (0x11950, 0x11959, 1), (0x11C50, 0x11C6C, 1), (0x11D50, 0x11D59, 1), (0x11DA0, 0x11DA9, 1),
  (0x11F50, 0x11F59, 1), (0x11FC0, 0x11FD4, 1), (0x12400, 0x1246E, 1), (0x16A60, 0x16A69, 1),
  (0x16AC0, 0x16AC9, 1), (0x16B50, 0x16B59, 1), (0x16B5B, 0x16B61, 1), (0x16E80, 0x16E96, 1),
  (0x1D2C0, 0x1D2D3, 1), (0x1D2E0, 0x1D2F3, 1), (0x1D360, 0x1D378, 1), (0x1D7CE, 0x1D7FF, 1),
  (0x1E140, 0x1E149, 1), (0x1E2F0, 0x1E2F9, 1), (0x1E4F0, 0x1E4F9, 1), (0x1E8C7, 0x1E8CF, 1),
  (0x1E950, 0x1E959, 1), (0x1EC71, 0x1ECAB, 1), (0x1ECAD, 0x1ECAF, 1), (0x1ECB1, 0x1ECB4, 1),
  (0x1ED01, 0x1ED2D, 1), (0x1ED2F, 0x1ED3D, 1), (0x1F100, 0x1F10C, 1), (0x1FBF0, 0x1FBF9, 1)]

/-- Punctuation. -/
def punctuation : Array (Nat × Nat × Nat) := #[
  (0x21, 0x23, 1), (0x25, 0x2A, 1), (0x2C, 0x2F, 1), (0x3A, 0x3B, 1), (0x3F, 0x40, 1),
  (0x5B, 0x5D, 1), (0x5F, 0x5F, 1), (0x7B, 0x7D, 2), (0xA1, 0xA1, 1), (0xA7, 0xA7, 1),
  (0xAB, 0xAB, 1), (0xB6, 0xB7, 1), (0xBB, 0xBB, 1), (0xBF, 0xBF, 1), (0x37E, 0x37E, 1),
  (0x387, 0x387, 1), (0x55A, 0x55F, 1), (0x589, 0x58A, 1), (0x5BE, 0x5C0, 2), (0x5C3, 0x5C3, 1),
  (0x5C6, 0x5C6, 1), (0x5F3, 0x5F4, 1), (0x609, 0x60A, 1), (0x60C, 0x60D, 1), (0x61B, 0x61B, 1),
  (0x61D, 0x61F, 1), (0x66A, 0x66D, 1), (0x6D4, 0x6D4, 1), (0x700, 0x70D, 1), (0x7F7, 0x7F9, 1),
  (0x830, 0x83E, 1), (0x85E, 0x85E, 1), (0x964, 0x965, 1), (0x970, 0x970, 1), (0x9FD, 0x9FD, 1),
  (0xA76, 0xA76, 1), (0xAF0, 0xAF0, 1), (0xC77, 0xC77, 1), (0xC84, 0xC84, 1), (0xDF4, 0xDF4, 1),
  (0xE4F, 0xE4F, 1), (0xE5A, 0xE5B, 1), (0xF04, 0xF12, 1), (0xF14, 0xF14, 1), (0xF3A, 0xF3D, 1),
  (0xF85, 0xF85, 1), (0xFD0, 0xFD4, 1), (0xFD9, 0xFDA, 1), (0x104A, 0x104F, 1),
  (0x10FB, 0x10FB, 1), (0x1360, 0x1368, 1), (0x1400, 0x1400, 1), (0x166E, 0x166E, 1),
  (0x169B, 0x169C, 1), (0x16EB, 0x16ED, 1), (0x1735, 0x1736, 1), (0x17D4, 0x17D6, 1),
  (0x17D8, 0x17DA, 1), (0x1800, 0x180A, 1), (0x1944, 0x1945, 1), (0x1A1E, 0x1A1F, 1),
  (0x1AA0, 0x1AA6, 1), (0x1AA8, 0x1AAD, 1), (0x1B5A, 0x1B60, 1), (0x1B7D, 0x1B7E, 1),
  (0x1BFC, 0x1BFF, 1), (0x1C3B, 0x1C3F, 1), (0x1C7E, 0x1C7F, 1), (0x1CC0, 0x1CC7, 1),
  (0x1CD3, 0x1CD3, 1), (0x2010, 0x2027, 1), (0x2030, 0x2043, 1), (0x2045, 0x2051, 1),
  (0x2053, 0x205E, 1), (0x207D, 0x207E, 1), (0x208D, 0x208E, 1), (0x2308, 0x230B, 1),
  (0x2329, 0x232A, 1), (0x2768, 0x2775, 1), (0x27C5, 0x27C6, 1), (0x27E6, 0x27EF, 1),
  (0x2983, 0x2998, 1), (0x29D8, 0x29DB, 1), (0x29FC, 0x29FD, 1), (0x2CF9, 0x2CFC, 1),
  (0x2CFE, 0x2CFF, 1), (0x2D70, 0x2D70, 1), (0x2E00, 0x2E2E, 1), (0x2E30, 0x2E4F, 1),
  (0x2E52, 0x2E5D, 1), (0x3001, 0x3003, 1), (0x3008, 0x3011, 1), (0x3014, 0x301F, 1),
  (0x3030, 0x3030, 1), (0x303D, 0x303D, 1), (0x30A0, 0x30A0, 1), (0x30FB, 0x30FB, 1),
  (0xA4FE, 0xA4FF, 1), (0xA60D, 0xA60F, 1), (0xA673, 0xA673, 1), (0xA67E, 0xA67E, 1),
  (0xA6F2, 0xA6F7, 1), (0xA874, 0xA877, 1), (0xA8CE, 0xA8CF, 1), (0xA8F8, 0xA8FA, 1),
  (0xA8FC, 0xA8FC, 1), (0xA92E, 0xA92F, 1), (0xA95F, 0xA95F, 1), (0xA9C1, 0xA9CD, 1),
  (0xA9DE, 0xA9DF, 1), (0xAA5C, 0xAA5F, 1), (0xAADE, 0xAADF, 1), (0xAAF0, 0xAAF1, 1),
  (0xABEB, 0xABEB, 1), (0xFD3E, 0xFD3F, 1), (0xFE10, 0xFE19, 1), (0xFE30, 0xFE52, 1),
  (0xFE54, 0xFE61, 1), (0xFE63, 0xFE63, 1), (0xFE68, 0xFE68, 1), (0xFE6A, 0xFE6B, 1),
  (0xFF01, 0xFF03, 1), (0xFF05, 0xFF0A, 1), (0xFF0C, 0xFF0F, 1), (0xFF1A, 0xFF1B, 1),
  (0xFF1F, 0xFF20, 1), (0xFF3B, 0xFF3D, 1), (0xFF3F, 0xFF3F, 1), (0xFF5B, 0xFF5D, 2),
  (0xFF5F, 0xFF65, 1), (0x10100, 0x10102, 1), (0x1039F, 0x1039F, 1), (0x103D0, 0x103D0, 1),
  (0x1056F, 0x1056F, 1), (0x10857, 0x10857, 1), (0x1091F, 0x1091F, 1), (0x1093F, 0x1093F, 1),
  (0x10A50, 0x10A58, 1), (0x10A7F, 0x10A7F, 1), (0x10AF0, 0x10AF6, 1), (0x10B39, 0x10B3F, 1),
  (0x10B99, 0x10B9C, 1), (0x10EAD, 0x10EAD, 1), (0x10F55, 0x10F59, 1), (0x10F86, 0x10F89, 1),
  (0x11047, 0x1104D, 1), (0x110BB, 0x110BC, 1), (0x110BE, 0x110C1, 1), (0x11140, 0x11143, 1),
  (0x11174, 0x11175, 1), (0x111C5, 0x111C8, 1), (0x111CD, 0x111CD, 1), (0x111DB, 0x111DB, 1),
  (0x111DD, 0x111DF, 1), (0x11238, 0x1123D, 1), (0x112A9, 0x112A9, 1), (0x1144B, 0x1144F, 1),
  (0x1145A, 0x1145B, 1), (0x1145D, 0x1145D, 1), (0x114C6, 0x114C6, 1), (0x115C1, 0x115D7, 1),
  (0x11641, 0x11643, 1), (0x11660, 0x1166C, 1), (0x116B9, 0x116B9, 1), (0x1173C, 0x1173E, 1),
  (0x1183B, 0x1183B, 1), (0x11944, 0x11946, 1), (0x119E2, 0x119E2, 1), (0x11A3F, 0x11A46, 1),
  (0x11A9A, 0x11A9C, 1), (0x11A9E, 0x11AA2, 1), (0x11B00, 0x11B09, 1), (0x11C41, 0x11C45, 1),
  (0x11C70, 0x11C71, 1), (0x11EF7, 0x11EF8, 1), (0x11F43, 0x11F4F, 1), (0x11FFF, 0x11FFF, 1),
  (0x12470, 0x12474, 1), (0x12FF1, 0x12FF2, 1), (0x16A6E, 0x16A6F, 1), (0x16AF5, 0x16AF5, 1),
  (0x16B37, 0x16B3B, 1), (0x16B44, 0x16B44, 1), (0x16E97, 0x16E9A, 1), (0x16FE2, 0x16FE2, 1),
  (0x1BC9F, 0x1BC9F, 1), (0x1DA87, 0x1DA8B, 1), (0x1E95E, 0x1E95F, 1)]

/-- Symbols. -/
def symbols : Array (Nat × Nat × Nat) := #[
  (0x24, 0x24, 1), (0x2B, 0x2B, 1), (0x3C, 0x3E, 1), (0x5E, 0x60, 2), (0x7C, 0x7E, 2),
  (0xA2, 0xA6, 1), (0xA8, 0xA9, 1), (0xAC, 0xAC, 1), (0xAE, 0xB1, 1), (0xB4, 0xB4, 1),
  (0xB8, 0xB8, 1), (0xD7, 0xD7, 1), (0xF7, 0xF7, 1), (0x2C2, 0x2C5, 1), (0x2D2, 0x2DF, 1),
  (0x2E5, 0x2EB, 1), (0x2ED, 0x2ED, 1), (0x2EF, 0x2FF, 1), (0x375, 0x375, 1), (0x384, 0x385, 1),
  (0x3F6, 0x3F6, 1), (0x482, 0x482, 1), (0x58D, 0x58F, 1), (0x606, 0x608, 1), (0x60B, 0x60B, 1),
  (0x60E, 0x60F, 1), (0x6DE, 0x6DE, 1), (0x6E9, 0x6E9, 1), (0x6FD, 0x6FE, 1), (0x7F6, 0x7F6, 1),
  (0x7FE, 0x7FF, 1), (0x888, 0x888, 1), (0x9F2, 0x9F3, 1), (0x9FA, 0x9FB, 1), (0xAF1, 0xAF1, 1),
  (0xB70, 0xB70, 1), (0xBF3, 0xBFA, 1), (0xC7F, 0xC7F, 1), (0xD4F, 0xD4F, 1), (0xD79, 0xD79, 1),
  (0xE3F, 0xE3F, 1), (0xF01, 0xF03, 1), (0xF13, 0xF13, 1), (0xF15, 0xF17, 1), (0xF1A, 0xF1F, 1),
  (0xF34, 0xF38, 2), (0xFBE, 0xFC5, 1), (0xFC7, 0xFCC, 1), (0xFCE, 0xFCF, 1), (0xFD5, 0xFD8, 1),
  (0x109E, 0x109F, 1), (0x1390, 0x1399, 1), (0x166D, 0x166D, 1), (0x17DB, 0x17DB, 1),
  (0x1940, 0x1940, 1), (0x19DE, 0x19FF, 1), (0x1B61, 0x1B6A, 1), (0x1B74, 0x1B7C, 1),
  (0x1FBD, 0x1FBD, 1), (0x1FBF, 0x1FC1, 1), (0x1FCD, 0x1FCF, 1), (0x1FDD, 0x1FDF, 1),
  (0x1FED, 0x1FEF, 1), (0x1FFD, 0x1FFE, 1), (0x2044, 0x2044, 1), (0x2052, 0x2052, 1),
  (0x207A, 0x207C, 1), (0x208A, 0x208C, 1), (0x20A0, 0x20C0, 1), (0x2100, 0x2101, 1),
  (0x2103, 0x2106, 1), (0x2108, 0x2109, 1), (0x2114, 0x2114, 1), (0x2116, 0x2118, 1),
  (0x211E, 0x2123, 1), (0x2125, 0x2129, 2), (0x212E, 0x212E, 1), (0x213A, 0x213B, 1),
  (0x2140, 0x2144, 1), (0x214A, 0x214D, 1), (0x214F, 0x214F, 1), (0x218A, 0x218B, 1),
  (0x2190, 0x2307, 1), (0x230C, 0x2328, 1), (0x232B, 0x2426, 1), (0x2440, 0x244A, 1),
  (0x249C, 0x24E9, 1), (0x2500, 0x2767, 1), (0x2794, 0x27C4, 1), (0x27C7, 0x27E5, 1),
  (0x27F0, 0x2982, 1), (0x2999, 0x29D7, 1), (0x29DC, 0x29FB, 1), (0x29FE, 0x2B73, 1),
  (0x2B76, 0x2B95, 1), (0x2B97, 0x2BFF, 1), (0x2CE5, 0x2CEA, 1), (0x2E50, 0x2E51, 1),
  (0x2E80, 0x2E99, 1), (0x2E9B, 0x2EF3, 1), (0x2F00, 0x2FD5, 1), (0x2FF0, 0x2FFB, 1),
  (0x3004, 0x3004, 1), (0x3012, 0x3013, 1), (0x3020, 0x3020, 1), (0x3036, 0x3037, 1),
  (0x303E, 0x303F, 1), (0x309B, 0x309C, 1), (0x3190, 0x3191, 1), (0x3196, 0x319F, 1),
  (0x31C0, 0x31E3, 1), (0x3200, 0x321E, 1), (0x322A, 0x3247, 1), (0x3250, 0x3250, 1),
  (0x3260, 0x327F, 1), (0x328A, 0x32B0, 1), (0x32C0, 0x33FF, 1), (0x4DC0, 0x4DFF, 1),
  (0xA490, 0xA4C6, 1), (0xA700, 0xA716, 1), (0xA720, 0xA721, 1), (0xA789, 0xA78A, 1),
  (0xA828, 0xA82B, 1), (0xA836, 0xA839, 1), (0xAA77, 0xAA79, 1), (0xAB5B, 0xAB5B, 1),
  (0xAB6A, 0xAB6B, 1), (0xFB29, 0xFB29, 1), (0xFBB2, 0xFBC2, 1), (0xFD40, 0xFD4F, 1),
  (0xFDCF, 0xFDCF, 1), (0xFDFC, 0xFDFF, 1), (0xFE62, 0xFE62, 1), (0xFE64, 0xFE66, 1),
  (0xFE69, 0xFE69, 1), (0xFF04, 0xFF04, 1), (0xFF0B, 0xFF0B, 1), (0xFF1C, 0xFF1E, 1),
  (0xFF3E, 0xFF40, 2), (0xFF5C, 0xFF5E, 2), (0xFFE0, 0xFFE6, 1), (0xFFE8, 0xFFEE, 1),
  (0xFFFC, 0xFFFD, 1), (0x10137, 0x1013F, 1), (0x10179, 0x10189, 1), (0x1018C, 0x1018E, 1),
  (0x10190, 0x1019C, 1), (0x101A0, 0x101A0, 1), (0x101D0, 0x101FC, 1), (0x10877, 0x10878, 1),
  (0x10AC8, 0x10AC8, 1), (0x1173F, 0x1173F, 1), (0x11FD5, 0x11FF1, 1), (0x16B3C, 0x16B3F, 1),
  (0x16B45, 0x16B45, 1), (0x1BC9C, 0x1BC9C, 1), (0x1CF50, 0x1CFC3, 1), (0x1D000, 0x1D0F5, 1),
  (0x1D100, 0x1D126, 1), (0x1D129, 0x1D164, 1), (0x1D16A, 0x1D16C, 1), (0x1D183, 0x1D184, 1),
  (0x1D18C, 0x1D1A9, 1), (0x1D1AE, 0x1D1EA, 1), (0x1D200, 0x1D241, 1), (0x1D245, 0x1D245, 1),
  (0x1D300, 0x1D356, 1), (0x1D6C1, 0x1D6C1, 1), (0x1D6DB, 0x1D6DB, 1), (0x1D6FB, 0x1D6FB, 1),
  (0x1D715, 0x1D715, 1), (0x1D735, 0x1D735, 1), (0x1D74F, 0x1D74F, 1), (0x1D76F, 0x1D76F, 1),
  (0x1D789, 0x1D789, 1), (0x1D7A9, 0x1D7A9, 1), (0x1D7C3, 0x1D7C3, 1), (0x1D800, 0x1D9FF, 1),
  (0x1DA37, 0x1DA3A, 1), (0x1DA6D, 0x1DA74, 1), (0x1DA76, 0x1DA83, 1), (0x1DA85, 0x1DA86, 1),
  (0x1E14F, 0x1E14F, 1), (0x1E2FF, 0x1E2FF, 1), (0x1ECAC, 0x1ECAC, 1), (0x1ECB0, 0x1ECB0, 1),
  (0x1ED2E, 0x1ED2E, 1), (0x1EEF0, 0x1EEF1, 1), (0x1F000, 0x1F02B, 1), (0x1F030, 0x1F093, 1),
  (0x1F0A0, 0x1F0AE, 1), (0x1F0B1, 0x1F0BF, 1), (0x1F0C1, 0x1F0CF, 1), (0x1F0D1, 0x1F0F5, 1),
  (0x1F10D, 0x1F1AD, 1), (0x1F1E6, 0x1F202, 1), (0x1F210, 0x1F23B, 1), (0x1F240, 0x1F248, 1),
  (0x1F250, 0x1F251, 1), (0x1F260, 0x1F265, 1), (0x1F300, 0x1F6D7, 1), (0x1F6DC, 0x1F6EC, 1),
  (0x1F6F0, 0x1F6FC, 1), (0x1F700, 0x1F776, 1), (0x1F77B, 0x1F7D9, 1), (0x1F7E0, 0x1F7EB, 1),
  (0x1F7F0, 0x1F7F0, 1), (0x1F800, 0x1F80B, 1), (0x1F810, 0x1F847, 1), (0x1F850, 0x1F859, 1),
  (0x1F860, 0x1F887, 1), (0x1F890, 0x1F8AD, 1), (0x1F8B0, 0x1F8B1, 1), (0x1F900, 0x1FA53, 1),
  (0x1FA60, 0x1FA6D, 1), (0x1FA70, 0x1FA7C, 1), (0x1FA80, 0x1FA88, 1), (0x1FA90, 0x1FABD, 1),
  (0x1FABF, 0x1FAC5, 1), (0x1FACE, 0x1FADB, 1), (0x1FAE0, 0x1FAE8, 1), (0x1FAF0, 0x1FAF8, 1),
  (0x1FB00, 0x1FB92, 1), (0x1FB94, 0x1FBCA, 1)]

/-- Blanks between words, lines and paragraphs. -/
def separators : Array (Nat × Nat × Nat) := #[
  (0x20, 0x20, 1), (0xA0, 0xA0, 1), (0x1680, 0x1680, 1), (0x2000, 0x200A, 1), (0x2028, 0x2029, 1),
  (0x202F, 0x202F, 1), (0x205F, 0x205F, 1), (0x3000, 0x3000, 1)]

/-- The Greek script. -/
def greek : Array (Nat × Nat × Nat) := #[
  (0x370, 0x373, 1), (0x375, 0x377, 1), (0x37A, 0x37D, 1), (0x37F, 0x37F, 1), (0x384, 0x386, 2),
  (0x388, 0x38A, 1), (0x38C, 0x38C, 1), (0x38E, 0x3A1, 1), (0x3A3, 0x3E1, 1), (0x3F0, 0x3FF, 1),
  (0x1D26, 0x1D2A, 1), (0x1D5D, 0x1D61, 1), (0x1D66, 0x1D6A, 1), (0x1DBF, 0x1DBF, 1),
  (0x1F00, 0x1F15, 1), (0x1F18, 0x1F1D, 1), (0x1F20, 0x1F45, 1), (0x1F48, 0x1F4D, 1),
  (0x1F50, 0x1F57, 1), (0x1F59, 0x1F5D, 2), (0x1F5F, 0x1F7D, 1), (0x1F80, 0x1FB4, 1),
  (0x1FB6, 0x1FC4, 1), (0x1FC6, 0x1FD3, 1), (0x1FD6, 0x1FDB, 1), (0x1FDD, 0x1FEF, 1),
  (0x1FF2, 0x1FF4, 1), (0x1FF6, 0x1FFE, 1), (0x2126, 0x2126, 1), (0xAB65, 0xAB65, 1),
  (0x10140, 0x1018E, 1), (0x101A0, 0x101A0, 1), (0x1D200, 0x1D245, 1)]

/-- The Latin script. -/
def latin : Array (Nat × Nat × Nat) := #[
  (0x41, 0x5A, 1), (0x61, 0x7A, 1), (0xAA, 0xAA, 1), (0xBA, 0xBA, 1), (0xC0, 0xD6, 1),
  (0xD8, 0xF6, 1), (0xF8, 0x2B8, 1), (0x2E0, 0x2E4, 1), (0x1D00, 0x1D25, 1), (0x1D2C, 0x1D5C, 1),
  (0x1D62, 0x1D65, 1), (0x1D6B, 0x1D77, 1), (0x1D79, 0x1DBE, 1), (0x1E00, 0x1EFF, 1),
  (0x2071, 0x2071, 1), (0x207F, 0x207F, 1), (0x2090, 0x209C, 1), (0x212A, 0x212B, 1),
  (0x2132, 0x2132, 1), (0x214E, 0x214E, 1), (0x2160, 0x2188, 1), (0x2C60, 0x2C7F, 1),
  (0xA722, 0xA787, 1), (0xA78B, 0xA7CA, 1), (0xA7D0, 0xA7D1, 1), (0xA7D3, 0xA7D3, 1),
  (0xA7D5, 0xA7D9, 1), (0xA7F2, 0xA7FF, 1), (0xAB30, 0xAB5A, 1), (0xAB5C, 0xAB64, 1),
  (0xAB66, 0xAB69, 1), (0xFB00, 0xFB06, 1), (0xFF21, 0xFF3A, 1), (0xFF41, 0xFF5A, 1),
  (0x10780, 0x10785, 1), (0x10787, 0x107B0, 1), (0x107B2, 0x107BA, 1), (0x1DF00, 0x1DF1E, 1),
  (0x1DF25, 0x1DF2A, 1)]

/-- The Cyrillic script. -/
def cyrillic : Array (Nat × Nat × Nat) := #[
  (0x400, 0x484, 1), (0x487, 0x52F, 1), (0x1C80, 0x1C88, 1), (0x1D2B, 0x1D2B, 1),
  (0x1D78, 0x1D78, 1), (0x2DE0, 0x2DFF, 1), (0xA640, 0xA69F, 1), (0xFE2E, 0xFE2F, 1),
  (0x1E030, 0x1E06D, 1), (0x1E08F, 0x1E08F, 1)]

/-- The Han script. -/
def han : Array (Nat × Nat × Nat) := #[
  (0x2E80, 0x2E99, 1), (0x2E9B, 0x2EF3, 1), (0x2F00, 0x2FD5, 1), (0x3005, 0x3007, 2),
  (0x3021, 0x3029, 1), (0x3038, 0x303B, 1), (0x3400, 0x4DBF, 1), (0x4E00, 0x9FFF, 1),
  (0xF900, 0xFA6D, 1), (0xFA70, 0xFAD9, 1), (0x16FE2, 0x16FE3, 1), (0x16FF0, 0x16FF1, 1),
  (0x20000, 0x2A6DF, 1), (0x2A700, 0x2B739, 1), (0x2B740, 0x2B81D, 1), (0x2B820, 0x2CEA1, 1),
  (0x2CEB0, 0x2EBE0, 1), (0x2F800, 0x2FA1D, 1), (0x30000, 0x3134A, 1), (0x31350, 0x323AF, 1)]

/-- Whether a character lies in one of the runs of a table. -/
def holds (table : Array (Nat × Nat × Nat)) (c : Char) : Bool :=
  table.any fun (first, last, step) =>
    first ≤ c.toNat && c.toNat ≤ last && (c.toNat - first) % step == 0

end Telemetry.Property
