/-! Letters that domain names fold: capitals of the scripts that have them, wide forms, and the full
stops of other scripts. -/

namespace Telemetry.Folding

/-- Runs of code points: the first, the last, the step between them, and the code point the first is
folded to. -/
def runs : Array (Nat × Nat × Nat × Nat) := #[
  (0xAA, 0xAA, 1, 0x61), (0xB5, 0xB5, 1, 0x3BC), (0xBA, 0xBA, 1, 0x6F), (0xC0, 0xD6, 1, 0xE0),
  (0xD8, 0xDE, 1, 0xF8), (0x100, 0x12E, 2, 0x101), (0x134, 0x136, 2, 0x135),
  (0x139, 0x13D, 2, 0x13A), (0x141, 0x147, 2, 0x142), (0x14A, 0x176, 2, 0x14B),
  (0x178, 0x178, 1, 0xFF), (0x179, 0x17D, 2, 0x17A), (0x17F, 0x17F, 1, 0x73),
  (0x181, 0x181, 1, 0x253), (0x182, 0x184, 2, 0x183), (0x186, 0x186, 1, 0x254),
  (0x187, 0x187, 1, 0x188), (0x189, 0x18A, 1, 0x256), (0x18B, 0x18B, 1, 0x18C),
  (0x18E, 0x18E, 1, 0x1DD), (0x18F, 0x18F, 1, 0x259), (0x190, 0x190, 1, 0x25B),
  (0x191, 0x191, 1, 0x192), (0x193, 0x193, 1, 0x260), (0x194, 0x194, 1, 0x263),
  (0x196, 0x196, 1, 0x269), (0x197, 0x197, 1, 0x268), (0x198, 0x198, 1, 0x199),
  (0x19C, 0x19C, 1, 0x26F), (0x19D, 0x19D, 1, 0x272), (0x19F, 0x19F, 1, 0x275),
  (0x1A0, 0x1A4, 2, 0x1A1), (0x1A6, 0x1A6, 1, 0x280), (0x1A7, 0x1A7, 1, 0x1A8),
  (0x1A9, 0x1A9, 1, 0x283), (0x1AC, 0x1AC, 1, 0x1AD), (0x1AE, 0x1AE, 1, 0x288),
  (0x1AF, 0x1AF, 1, 0x1B0), (0x1B1, 0x1B2, 1, 0x28A), (0x1B3, 0x1B5, 2, 0x1B4),
  (0x1B7, 0x1B7, 1, 0x292), (0x1B8, 0x1B8, 1, 0x1B9), (0x1BC, 0x1BC, 1, 0x1BD),
  (0x1CD, 0x1DB, 2, 0x1CE), (0x1DE, 0x1EE, 2, 0x1DF), (0x1F4, 0x1F4, 1, 0x1F5),
  (0x1F6, 0x1F6, 1, 0x195), (0x1F7, 0x1F7, 1, 0x1BF), (0x1F8, 0x21E, 2, 0x1F9),
  (0x220, 0x220, 1, 0x19E), (0x222, 0x232, 2, 0x223), (0x23A, 0x23A, 1, 0x2C65),
  (0x23B, 0x23B, 1, 0x23C), (0x23D, 0x23D, 1, 0x19A), (0x23E, 0x23E, 1, 0x2C66),
  (0x241, 0x241, 1, 0x242), (0x243, 0x243, 1, 0x180), (0x244, 0x244, 1, 0x289),
  (0x245, 0x245, 1, 0x28C), (0x246, 0x24E, 2, 0x247), (0x2B0, 0x2B2, 2, 0x68),
  (0x2B1, 0x2B1, 1, 0x266), (0x2B3, 0x2B3, 1, 0x72), (0x2B4, 0x2B4, 1, 0x279),
  (0x2B5, 0x2B5, 1, 0x27B), (0x2B6, 0x2B6, 1, 0x281), (0x2B7, 0x2B7, 1, 0x77),
  (0x2B8, 0x2B8, 1, 0x79), (0x2E0, 0x2E0, 1, 0x263), (0x2E1, 0x2E1, 1, 0x6C),
  (0x2E2, 0x2E2, 1, 0x73), (0x2E3, 0x2E3, 1, 0x78), (0x2E4, 0x2E4, 1, 0x295),
  (0x370, 0x372, 2, 0x371), (0x374, 0x374, 1, 0x2B9), (0x376, 0x376, 1, 0x377),
  (0x37F, 0x37F, 1, 0x3F3), (0x386, 0x386, 1, 0x3AC), (0x388, 0x38A, 1, 0x3AD),
  (0x38C, 0x38C, 1, 0x3CC), (0x38E, 0x38F, 1, 0x3CD), (0x391, 0x3A1, 1, 0x3B1),
  (0x3A3, 0x3AB, 1, 0x3C3), (0x3CF, 0x3CF, 1, 0x3D7), (0x3D0, 0x3D0, 1, 0x3B2),
  (0x3D1, 0x3D1, 1, 0x3B8), (0x3D2, 0x3D2, 1, 0x3C5), (0x3D3, 0x3D3, 1, 0x3CD),
  (0x3D4, 0x3D4, 1, 0x3CB), (0x3D5, 0x3D5, 1, 0x3C6), (0x3D6, 0x3D6, 1, 0x3C0),
  (0x3D8, 0x3EE, 2, 0x3D9), (0x3F0, 0x3F0, 1, 0x3BA), (0x3F1, 0x3F1, 1, 0x3C1),
  (0x3F2, 0x3F2, 1, 0x3C3), (0x3F4, 0x3F4, 1, 0x3B8), (0x3F5, 0x3F5, 1, 0x3B5),
  (0x3F7, 0x3F7, 1, 0x3F8), (0x3F9, 0x3F9, 1, 0x3C3), (0x3FA, 0x3FA, 1, 0x3FB),
  (0x3FD, 0x3FF, 1, 0x37B), (0x400, 0x40F, 1, 0x450), (0x410, 0x42F, 1, 0x430),
  (0x460, 0x480, 2, 0x461), (0x48A, 0x4BE, 2, 0x48B), (0x4C0, 0x4C0, 1, 0x4CF),
  (0x4C1, 0x4CD, 2, 0x4C2), (0x4D0, 0x52E, 2, 0x4D1), (0x531, 0x556, 1, 0x561),
  (0x10A0, 0x10C5, 1, 0x2D00), (0x10C7, 0x10C7, 1, 0x2D27), (0x10CD, 0x10CD, 1, 0x2D2D),
  (0x10FC, 0x10FC, 1, 0x10DC), (0x13F8, 0x13FD, 1, 0x13F0), (0x1C80, 0x1C80, 1, 0x432),
  (0x1C81, 0x1C81, 1, 0x434), (0x1C82, 0x1C82, 1, 0x43E), (0x1C83, 0x1C84, 1, 0x441),
  (0x1C85, 0x1C85, 1, 0x442), (0x1C86, 0x1C86, 1, 0x44A), (0x1C87, 0x1C87, 1, 0x463),
  (0x1C88, 0x1C88, 1, 0xA64B), (0x1C90, 0x1CBA, 1, 0x10D0), (0x1CBD, 0x1CBF, 1, 0x10FD),
  (0x1D2C, 0x1D2C, 1, 0x61), (0x1D2D, 0x1D2D, 1, 0xE6), (0x1D2E, 0x1D30, 2, 0x62),
  (0x1D31, 0x1D39, 2, 0x65), (0x1D32, 0x1D32, 1, 0x1DD), (0x1D34, 0x1D3A, 2, 0x68),
  (0x1D3C, 0x1D3C, 1, 0x6F), (0x1D3D, 0x1D3D, 1, 0x223), (0x1D3E, 0x1D3E, 1, 0x70),
  (0x1D3F, 0x1D3F, 1, 0x72), (0x1D40, 0x1D41, 1, 0x74), (0x1D42, 0x1D42, 1, 0x77),
  (0x1D43, 0x1D43, 1, 0x61), (0x1D44, 0x1D45, 1, 0x250), (0x1D46, 0x1D46, 1, 0x1D02),
  (0x1D47, 0x1D47, 1, 0x62), (0x1D48, 0x1D49, 1, 0x64), (0x1D4A, 0x1D4A, 1, 0x259),
  (0x1D4B, 0x1D4C, 1, 0x25B), (0x1D4D, 0x1D4D, 1, 0x67), (0x1D4F, 0x1D4F, 1, 0x6B),
  (0x1D50, 0x1D52, 2, 0x6D), (0x1D51, 0x1D51, 1, 0x14B), (0x1D53, 0x1D53, 1, 0x254),
  (0x1D54, 0x1D55, 1, 0x1D16), (0x1D56, 0x1D56, 1, 0x70), (0x1D57, 0x1D58, 1, 0x74),
  (0x1D59, 0x1D59, 1, 0x1D1D), (0x1D5A, 0x1D5A, 1, 0x26F), (0x1D5B, 0x1D5B, 1, 0x76),
  (0x1D5C, 0x1D5C, 1, 0x1D25), (0x1D5D, 0x1D5F, 1, 0x3B2), (0x1D60, 0x1D61, 1, 0x3C6),
  (0x1D62, 0x1D62, 1, 0x69), (0x1D63, 0x1D63, 1, 0x72), (0x1D64, 0x1D65, 1, 0x75),
  (0x1D66, 0x1D67, 1, 0x3B2), (0x1D68, 0x1D68, 1, 0x3C1), (0x1D69, 0x1D6A, 1, 0x3C6),
  (0x1D78, 0x1D78, 1, 0x43D), (0x1D9B, 0x1D9B, 1, 0x252), (0x1D9C, 0x1D9C, 1, 0x63),
  (0x1D9D, 0x1D9D, 1, 0x255), (0x1D9E, 0x1D9E, 1, 0xF0), (0x1D9F, 0x1D9F, 1, 0x25C),
  (0x1DA0, 0x1DA0, 1, 0x66), (0x1DA1, 0x1DA1, 1, 0x25F), (0x1DA2, 0x1DA2, 1, 0x261),
  (0x1DA3, 0x1DA3, 1, 0x265), (0x1DA4, 0x1DA6, 1, 0x268), (0x1DA7, 0x1DA7, 1, 0x1D7B),
  (0x1DA8, 0x1DA8, 1, 0x29D), (0x1DA9, 0x1DA9, 1, 0x26D), (0x1DAA, 0x1DAA, 1, 0x1D85),
  (0x1DAB, 0x1DAB, 1, 0x29F), (0x1DAC, 0x1DAC, 1, 0x271), (0x1DAD, 0x1DAD, 1, 0x270),
  (0x1DAE, 0x1DB1, 1, 0x272), (0x1DB2, 0x1DB2, 1, 0x278), (0x1DB3, 0x1DB4, 1, 0x282),
  (0x1DB5, 0x1DB5, 1, 0x1AB), (0x1DB6, 0x1DB7, 1, 0x289), (0x1DB8, 0x1DB8, 1, 0x1D1C),
  (0x1DB9, 0x1DBA, 1, 0x28B), (0x1DBB, 0x1DBB, 1, 0x7A), (0x1DBC, 0x1DBE, 1, 0x290),
  (0x1DBF, 0x1DBF, 1, 0x3B8), (0x1E00, 0x1E94, 2, 0x1E01), (0x1E9B, 0x1E9B, 1, 0x1E61),
  (0x1E9E, 0x1E9E, 1, 0xDF), (0x1EA0, 0x1EFE, 2, 0x1EA1), (0x1F08, 0x1F0F, 1, 0x1F00),
  (0x1F18, 0x1F1D, 1, 0x1F10), (0x1F28, 0x1F2F, 1, 0x1F20), (0x1F38, 0x1F3F, 1, 0x1F30),
  (0x1F48, 0x1F4D, 1, 0x1F40), (0x1F59, 0x1F5F, 2, 0x1F51), (0x1F68, 0x1F6F, 1, 0x1F60),
  (0x1F71, 0x1F71, 1, 0x3AC), (0x1F73, 0x1F73, 1, 0x3AD), (0x1F75, 0x1F75, 1, 0x3AE),
  (0x1F77, 0x1F77, 1, 0x3AF), (0x1F79, 0x1F79, 1, 0x3CC), (0x1F7B, 0x1F7B, 1, 0x3CD),
  (0x1F7D, 0x1F7D, 1, 0x3CE), (0x1FB8, 0x1FB9, 1, 0x1FB0), (0x1FBA, 0x1FBA, 1, 0x1F70),
  (0x1FBB, 0x1FBB, 1, 0x3AC), (0x1FBE, 0x1FBE, 1, 0x3B9), (0x1FC8, 0x1FCA, 2, 0x1F72),
  (0x1FC9, 0x1FC9, 1, 0x3AD), (0x1FCB, 0x1FCB, 1, 0x3AE), (0x1FD3, 0x1FD3, 1, 0x390),
  (0x1FD8, 0x1FD9, 1, 0x1FD0), (0x1FDA, 0x1FDA, 1, 0x1F76), (0x1FDB, 0x1FDB, 1, 0x3AF),
  (0x1FE3, 0x1FE3, 1, 0x3B0), (0x1FE8, 0x1FE9, 1, 0x1FE0), (0x1FEA, 0x1FEA, 1, 0x1F7A),
  (0x1FEB, 0x1FEB, 1, 0x3CD), (0x1FEC, 0x1FEC, 1, 0x1FE5), (0x1FF8, 0x1FF8, 1, 0x1F78),
  (0x1FF9, 0x1FFB, 2, 0x3CC), (0x1FFA, 0x1FFA, 1, 0x1F7C), (0x2C00, 0x2C2F, 1, 0x2C30),
  (0x2C60, 0x2C60, 1, 0x2C61), (0x2C62, 0x2C62, 1, 0x26B), (0x2C63, 0x2C63, 1, 0x1D7D),
  (0x2C64, 0x2C64, 1, 0x27D), (0x2C67, 0x2C6B, 2, 0x2C68), (0x2C6D, 0x2C6D, 1, 0x251),
  (0x2C6E, 0x2C6E, 1, 0x271), (0x2C6F, 0x2C6F, 1, 0x250), (0x2C70, 0x2C70, 1, 0x252),
  (0x2C72, 0x2C72, 1, 0x2C73), (0x2C75, 0x2C75, 1, 0x2C76), (0x2C7C, 0x2C7C, 1, 0x6A),
  (0x2C7D, 0x2C7D, 1, 0x76), (0x2C7E, 0x2C7F, 1, 0x23F), (0x2C80, 0x2CE2, 2, 0x2C81),
  (0x2CEB, 0x2CED, 2, 0x2CEC), (0x2CF2, 0x2CF2, 1, 0x2CF3), (0x2D6F, 0x2D6F, 1, 0x2D61),
  (0x3002, 0x3002, 1, 0x2E), (0xA640, 0xA66C, 2, 0xA641), (0xA680, 0xA69A, 2, 0xA681),
  (0xA69C, 0xA69C, 1, 0x44A), (0xA69D, 0xA69D, 1, 0x44C), (0xA722, 0xA72E, 2, 0xA723),
  (0xA732, 0xA76E, 2, 0xA733), (0xA770, 0xA770, 1, 0xA76F), (0xA779, 0xA77B, 2, 0xA77A),
  (0xA77D, 0xA77D, 1, 0x1D79), (0xA77E, 0xA786, 2, 0xA77F), (0xA78B, 0xA78B, 1, 0xA78C),
  (0xA78D, 0xA78D, 1, 0x265), (0xA790, 0xA792, 2, 0xA791), (0xA796, 0xA7A8, 2, 0xA797),
  (0xA7AA, 0xA7AA, 1, 0x266), (0xA7AB, 0xA7AB, 1, 0x25C), (0xA7AC, 0xA7AC, 1, 0x261),
  (0xA7AD, 0xA7AD, 1, 0x26C), (0xA7AE, 0xA7AE, 1, 0x26A), (0xA7B0, 0xA7B0, 1, 0x29E),
  (0xA7B1, 0xA7B1, 1, 0x287), (0xA7B2, 0xA7B2, 1, 0x29D), (0xA7B3, 0xA7B3, 1, 0xAB53),
  (0xA7B4, 0xA7C2, 2, 0xA7B5), (0xA7C4, 0xA7C4, 1, 0xA794), (0xA7C5, 0xA7C5, 1, 0x282),
  (0xA7C6, 0xA7C6, 1, 0x1D8E), (0xA7C7, 0xA7C9, 2, 0xA7C8), (0xA7D0, 0xA7D0, 1, 0xA7D1),
  (0xA7D6, 0xA7D8, 2, 0xA7D7), (0xA7F2, 0xA7F2, 1, 0x63), (0xA7F3, 0xA7F3, 1, 0x66),
  (0xA7F4, 0xA7F4, 1, 0x71), (0xA7F5, 0xA7F5, 1, 0xA7F6), (0xA7F8, 0xA7F8, 1, 0x127),
  (0xA7F9, 0xA7F9, 1, 0x153), (0xFF0D, 0xFF0E, 1, 0x2D), (0xFF10, 0xFF19, 1, 0x30),
  (0xFF21, 0xFF3A, 1, 0x61), (0xFF41, 0xFF5A, 1, 0x61), (0xFF61, 0xFF61, 1, 0x2E),
  (0xFF66, 0xFF66, 1, 0x30F2), (0xFF67, 0xFF67, 1, 0x30A1), (0xFF68, 0xFF68, 1, 0x30A3),
  (0xFF69, 0xFF69, 1, 0x30A5), (0xFF6A, 0xFF6A, 1, 0x30A7), (0xFF6B, 0xFF6B, 1, 0x30A9),
  (0xFF6C, 0xFF6C, 1, 0x30E3), (0xFF6D, 0xFF6D, 1, 0x30E5), (0xFF6E, 0xFF6E, 1, 0x30E7),
  (0xFF6F, 0xFF6F, 1, 0x30C3), (0xFF70, 0xFF70, 1, 0x30FC), (0xFF71, 0xFF71, 1, 0x30A2),
  (0xFF72, 0xFF72, 1, 0x30A4), (0xFF73, 0xFF73, 1, 0x30A6), (0xFF74, 0xFF74, 1, 0x30A8),
  (0xFF75, 0xFF76, 1, 0x30AA), (0xFF77, 0xFF77, 1, 0x30AD), (0xFF78, 0xFF78, 1, 0x30AF),
  (0xFF79, 0xFF79, 1, 0x30B1), (0xFF7A, 0xFF7A, 1, 0x30B3), (0xFF7B, 0xFF7B, 1, 0x30B5),
  (0xFF7C, 0xFF7C, 1, 0x30B7), (0xFF7D, 0xFF7D, 1, 0x30B9), (0xFF7E, 0xFF7E, 1, 0x30BB),
  (0xFF7F, 0xFF7F, 1, 0x30BD), (0xFF80, 0xFF80, 1, 0x30BF), (0xFF81, 0xFF81, 1, 0x30C1),
  (0xFF82, 0xFF82, 1, 0x30C4), (0xFF83, 0xFF83, 1, 0x30C6), (0xFF84, 0xFF84, 1, 0x30C8),
  (0xFF85, 0xFF8A, 1, 0x30CA), (0xFF8B, 0xFF8B, 1, 0x30D2), (0xFF8C, 0xFF8C, 1, 0x30D5),
  (0xFF8D, 0xFF8D, 1, 0x30D8), (0xFF8E, 0xFF8E, 1, 0x30DB), (0xFF8F, 0xFF93, 1, 0x30DE),
  (0xFF94, 0xFF94, 1, 0x30E4), (0xFF95, 0xFF95, 1, 0x30E6), (0xFF96, 0xFF9B, 1, 0x30E8),
  (0xFF9C, 0xFF9C, 1, 0x30EF), (0xFF9D, 0xFF9D, 1, 0x30F3), (0xFF9E, 0xFF9F, 1, 0x3099),
  (0xFFA0, 0xFFA0, 1, 0x1160), (0xFFA1, 0xFFA2, 1, 0x1100), (0xFFA3, 0xFFA5, 2, 0x11AA),
  (0xFFA4, 0xFFA4, 1, 0x1102), (0xFFA6, 0xFFA6, 1, 0x11AD), (0xFFA7, 0xFFA9, 1, 0x1103),
  (0xFFAA, 0xFFAF, 1, 0x11B0), (0xFFB0, 0xFFB0, 1, 0x111A), (0xFFB1, 0xFFB3, 1, 0x1106),
  (0xFFB4, 0xFFB4, 1, 0x1121), (0xFFB5, 0xFFBE, 1, 0x1109), (0xFFC2, 0xFFC7, 1, 0x1161),
  (0xFFCA, 0xFFCF, 1, 0x1167), (0xFFD2, 0xFFD7, 1, 0x116D), (0xFFDA, 0xFFDC, 1, 0x1173),
  (0x10400, 0x10427, 1, 0x10428), (0x104B0, 0x104D3, 1, 0x104D8), (0x10570, 0x10594, 2, 0x10597),
  (0x10571, 0x10579, 2, 0x10598), (0x1057D, 0x10589, 2, 0x105A4), (0x1058D, 0x10591, 2, 0x105B4),
  (0x10595, 0x10595, 1, 0x105BC), (0x10781, 0x10782, 1, 0x2D0), (0x10783, 0x10783, 1, 0xE6),
  (0x10784, 0x10784, 1, 0x299), (0x10785, 0x10785, 1, 0x253), (0x10787, 0x10789, 2, 0x2A3),
  (0x10788, 0x10788, 1, 0xAB66), (0x1078A, 0x1078A, 1, 0x2A4), (0x1078B, 0x1078C, 1, 0x256),
  (0x1078D, 0x1078D, 1, 0x1D91), (0x1078E, 0x1078E, 1, 0x258), (0x1078F, 0x1078F, 1, 0x25E),
  (0x10790, 0x10790, 1, 0x2A9), (0x10791, 0x10791, 1, 0x264), (0x10792, 0x10792, 1, 0x262),
  (0x10793, 0x10793, 1, 0x260), (0x10794, 0x10794, 1, 0x29B), (0x10795, 0x10795, 1, 0x127),
  (0x10796, 0x10796, 1, 0x29C), (0x10797, 0x10797, 1, 0x267), (0x10798, 0x10798, 1, 0x284),
  (0x10799, 0x1079A, 1, 0x2AA), (0x1079B, 0x1079B, 1, 0x26C), (0x1079C, 0x1079C, 1, 0x1DF04),
  (0x1079D, 0x1079D, 1, 0xA78E), (0x1079E, 0x1079E, 1, 0x26E), (0x1079F, 0x1079F, 1, 0x1DF05),
  (0x107A0, 0x107A0, 1, 0x28E), (0x107A1, 0x107A1, 1, 0x1DF06), (0x107A2, 0x107A2, 1, 0xF8),
  (0x107A3, 0x107A4, 1, 0x276), (0x107A5, 0x107A5, 1, 0x71), (0x107A6, 0x107A6, 1, 0x27A),
  (0x107A7, 0x107A7, 1, 0x1DF08), (0x107A8, 0x107A9, 1, 0x27D), (0x107AA, 0x107AA, 1, 0x280),
  (0x107AB, 0x107AB, 1, 0x2A8), (0x107AC, 0x107AC, 1, 0x2A6), (0x107AD, 0x107AD, 1, 0xAB67),
  (0x107AE, 0x107AE, 1, 0x2A7), (0x107AF, 0x107AF, 1, 0x288), (0x107B0, 0x107B0, 1, 0x2C71),
  (0x107B2, 0x107B2, 1, 0x28F), (0x107B3, 0x107B4, 1, 0x2A1), (0x107B5, 0x107B5, 1, 0x298),
  (0x107B6, 0x107B8, 1, 0x1C0), (0x107B9, 0x107B9, 1, 0x1DF0A), (0x107BA, 0x107BA, 1, 0x1DF1E),
  (0x10C80, 0x10CB2, 1, 0x10CC0)]

/-- The code point a code point beyond ASCII is folded to. -/
def fold (n : Nat) : Nat :=
  match runs.find? fun (a, b, step, _) => a ≤ n && n ≤ b && (n - a) % step == 0 with
  | some (a, _, _, target) => n - a + target
  | none => n

/-- Code points that domain names leave out. -/
def ignored (n : Nat) : Bool :=
  n == 0xAD || n == 0x34F || n == 0x200B || n == 0x2060 || n == 0xFEFF || (0xFE00 ≤ n && n ≤ 0xFE0F)

end Telemetry.Folding
