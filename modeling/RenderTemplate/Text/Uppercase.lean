namespace RenderTemplate.Text

/-- Runs of characters whose upper case lies at a fixed distance: first, last, step from one to the
next, distance. -/
def uppercaseRuns : List (Nat × Nat × Nat × Int) := [
  (0x61, 0x7A, 1, -32), (0xB5, 0xB5, 2, 743), (0xE0, 0xF6, 1, -32), (0xF8, 0xFE, 1, -32),
  (0xFF, 0xFF, 2, 121), (0x101, 0x12F, 2, -1), (0x131, 0x131, 2, -232), (0x133, 0x137, 2, -1),
  (0x13A, 0x148, 2, -1), (0x14B, 0x177, 2, -1), (0x17A, 0x17E, 2, -1), (0x17F, 0x17F, 2, -300),
  (0x180, 0x180, 2, 195), (0x183, 0x185, 2, -1), (0x188, 0x188, 2, -1), (0x18C, 0x18C, 2, -1),
  (0x192, 0x192, 2, -1), (0x195, 0x195, 2, 97), (0x199, 0x199, 2, -1), (0x19A, 0x19A, 2, 163),
  (0x19E, 0x19E, 2, 130), (0x1A1, 0x1A5, 2, -1), (0x1A8, 0x1A8, 2, -1), (0x1AD, 0x1AD, 2, -1),
  (0x1B0, 0x1B0, 2, -1), (0x1B4, 0x1B6, 2, -1), (0x1B9, 0x1B9, 2, -1), (0x1BD, 0x1BD, 2, -1),
  (0x1BF, 0x1BF, 2, 56), (0x1C5, 0x1C5, 2, -1), (0x1C6, 0x1C6, 2, -2), (0x1C8, 0x1C8, 2, -1),
  (0x1C9, 0x1C9, 2, -2), (0x1CB, 0x1CB, 2, -1), (0x1CC, 0x1CC, 2, -2), (0x1CE, 0x1DC, 2, -1),
  (0x1DD, 0x1DD, 2, -79), (0x1DF, 0x1EF, 2, -1), (0x1F2, 0x1F2, 2, -1), (0x1F3, 0x1F3, 2, -2),
  (0x1F5, 0x1F5, 2, -1), (0x1F9, 0x21F, 2, -1), (0x223, 0x233, 2, -1), (0x23C, 0x23C, 2, -1),
  (0x23F, 0x240, 1, 10815), (0x242, 0x242, 2, -1), (0x247, 0x24F, 2, -1), (0x250, 0x250, 2, 10783),
  (0x251, 0x251, 2, 10780), (0x252, 0x252, 2, 10782), (0x253, 0x253, 2, -210),
  (0x254, 0x254, 2, -206), (0x256, 0x257, 1, -205), (0x259, 0x259, 2, -202),
  (0x25B, 0x25B, 2, -203), (0x25C, 0x25C, 2, 42319), (0x260, 0x260, 2, -205),
  (0x261, 0x261, 2, 42315), (0x263, 0x263, 2, -207), (0x265, 0x265, 2, 42280),
  (0x266, 0x266, 2, 42308), (0x268, 0x268, 2, -209), (0x269, 0x269, 2, -211),
  (0x26A, 0x26A, 2, 42308), (0x26B, 0x26B, 2, 10743), (0x26C, 0x26C, 2, 42305),
  (0x26F, 0x26F, 2, -211), (0x271, 0x271, 2, 10749), (0x272, 0x272, 2, -213),
  (0x275, 0x275, 2, -214), (0x27D, 0x27D, 2, 10727), (0x280, 0x280, 2, -218),
  (0x282, 0x282, 2, 42307), (0x283, 0x283, 2, -218), (0x287, 0x287, 2, 42282),
  (0x288, 0x288, 2, -218), (0x289, 0x289, 2, -69), (0x28A, 0x28B, 1, -217), (0x28C, 0x28C, 2, -71),
  (0x292, 0x292, 2, -219), (0x29D, 0x29D, 2, 42261), (0x29E, 0x29E, 2, 42258),
  (0x345, 0x345, 2, 84), (0x371, 0x373, 2, -1), (0x377, 0x377, 2, -1), (0x37B, 0x37D, 1, 130),
  (0x3AC, 0x3AC, 2, -38), (0x3AD, 0x3AF, 1, -37), (0x3B1, 0x3C1, 1, -32), (0x3C2, 0x3C2, 2, -31),
  (0x3C3, 0x3CB, 1, -32), (0x3CC, 0x3CC, 2, -64), (0x3CD, 0x3CE, 1, -63), (0x3D0, 0x3D0, 2, -62),
  (0x3D1, 0x3D1, 2, -57), (0x3D5, 0x3D5, 2, -47), (0x3D6, 0x3D6, 2, -54), (0x3D7, 0x3D7, 2, -8),
  (0x3D9, 0x3EF, 2, -1), (0x3F0, 0x3F0, 2, -86), (0x3F1, 0x3F1, 2, -80), (0x3F2, 0x3F2, 2, 7),
  (0x3F3, 0x3F3, 2, -116), (0x3F5, 0x3F5, 2, -96), (0x3F8, 0x3F8, 2, -1), (0x3FB, 0x3FB, 2, -1),
  (0x430, 0x44F, 1, -32), (0x450, 0x45F, 1, -80), (0x461, 0x481, 2, -1), (0x48B, 0x4BF, 2, -1),
  (0x4C2, 0x4CE, 2, -1), (0x4CF, 0x4CF, 2, -15), (0x4D1, 0x52F, 2, -1), (0x561, 0x586, 1, -48),
  (0x10D0, 0x10FA, 1, 3008), (0x10FD, 0x10FF, 1, 3008), (0x13F8, 0x13FD, 1, -8),
  (0x1C80, 0x1C80, 2, -6254), (0x1C81, 0x1C81, 2, -6253), (0x1C82, 0x1C82, 2, -6244),
  (0x1C83, 0x1C84, 1, -6242), (0x1C85, 0x1C85, 2, -6243), (0x1C86, 0x1C86, 2, -6236),
  (0x1C87, 0x1C87, 2, -6181), (0x1C88, 0x1C88, 2, 35266), (0x1D79, 0x1D79, 2, 35332),
  (0x1D7D, 0x1D7D, 2, 3814), (0x1D8E, 0x1D8E, 2, 35384), (0x1E01, 0x1E95, 2, -1),
  (0x1E9B, 0x1E9B, 2, -59), (0x1EA1, 0x1EFF, 2, -1), (0x1F00, 0x1F07, 1, 8), (0x1F10, 0x1F15, 1, 8),
  (0x1F20, 0x1F27, 1, 8), (0x1F30, 0x1F37, 1, 8), (0x1F40, 0x1F45, 1, 8), (0x1F51, 0x1F57, 2, 8),
  (0x1F60, 0x1F67, 1, 8), (0x1F70, 0x1F71, 1, 74), (0x1F72, 0x1F75, 1, 86),
  (0x1F76, 0x1F77, 1, 100), (0x1F78, 0x1F79, 1, 128), (0x1F7A, 0x1F7B, 1, 112),
  (0x1F7C, 0x1F7D, 1, 126), (0x1FB0, 0x1FB1, 1, 8), (0x1FBE, 0x1FBE, 2, -7205),
  (0x1FD0, 0x1FD1, 1, 8), (0x1FE0, 0x1FE1, 1, 8), (0x1FE5, 0x1FE5, 2, 7), (0x214E, 0x214E, 2, -28),
  (0x2170, 0x217F, 1, -16), (0x2184, 0x2184, 2, -1), (0x24D0, 0x24E9, 1, -26),
  (0x2C30, 0x2C5F, 1, -48), (0x2C61, 0x2C61, 2, -1), (0x2C65, 0x2C65, 2, -10795),
  (0x2C66, 0x2C66, 2, -10792), (0x2C68, 0x2C6C, 2, -1), (0x2C73, 0x2C73, 2, -1),
  (0x2C76, 0x2C76, 2, -1), (0x2C81, 0x2CE3, 2, -1), (0x2CEC, 0x2CEE, 2, -1),
  (0x2CF3, 0x2CF3, 2, -1), (0x2D00, 0x2D25, 1, -7264), (0x2D27, 0x2D27, 2, -7264),
  (0x2D2D, 0x2D2D, 2, -7264), (0xA641, 0xA66D, 2, -1), (0xA681, 0xA69B, 2, -1),
  (0xA723, 0xA72F, 2, -1), (0xA733, 0xA76F, 2, -1), (0xA77A, 0xA77C, 2, -1),
  (0xA77F, 0xA787, 2, -1), (0xA78C, 0xA78C, 2, -1), (0xA791, 0xA793, 2, -1),
  (0xA794, 0xA794, 2, 48), (0xA797, 0xA7A9, 2, -1), (0xA7B5, 0xA7C3, 2, -1),
  (0xA7C8, 0xA7CA, 2, -1), (0xA7D1, 0xA7D1, 2, -1), (0xA7D7, 0xA7D9, 2, -1),
  (0xA7F6, 0xA7F6, 2, -1), (0xAB53, 0xAB53, 2, -928), (0xAB70, 0xABBF, 1, -38864),
  (0xFF41, 0xFF5A, 1, -32), (0x10428, 0x1044F, 1, -40), (0x104D8, 0x104FB, 1, -40),
  (0x10597, 0x105A1, 1, -39), (0x105A3, 0x105B1, 1, -39), (0x105B3, 0x105B9, 1, -39),
  (0x105BB, 0x105BC, 1, -39), (0x10CC0, 0x10CF2, 1, -64), (0x118C0, 0x118DF, 1, -32),
  (0x16E60, 0x16E7F, 1, -32), (0x1E922, 0x1E943, 1, -34)]

/-- Characters whose upper case has more than one character. -/
def uppercaseExpansions : List (Nat × List Nat) := [
  (0xDF, [0x53, 0x53]), (0x149, [0x2BC, 0x4E]), (0x1F0, [0x4A, 0x30C]),
    (0x390, [0x399, 0x308, 0x301]),
  (0x3B0, [0x3A5, 0x308, 0x301]), (0x587, [0x535, 0x552]), (0x1E96, [0x48, 0x331]),
  (0x1E97, [0x54, 0x308]), (0x1E98, [0x57, 0x30A]), (0x1E99, [0x59, 0x30A]),
  (0x1E9A, [0x41, 0x2BE]), (0x1F50, [0x3A5, 0x313]), (0x1F52, [0x3A5, 0x313, 0x300]),
  (0x1F54, [0x3A5, 0x313, 0x301]), (0x1F56, [0x3A5, 0x313, 0x342]), (0x1F80, [0x1F08, 0x399]),
  (0x1F81, [0x1F09, 0x399]), (0x1F82, [0x1F0A, 0x399]), (0x1F83, [0x1F0B, 0x399]),
  (0x1F84, [0x1F0C, 0x399]), (0x1F85, [0x1F0D, 0x399]), (0x1F86, [0x1F0E, 0x399]),
  (0x1F87, [0x1F0F, 0x399]), (0x1F88, [0x1F08, 0x399]), (0x1F89, [0x1F09, 0x399]),
  (0x1F8A, [0x1F0A, 0x399]), (0x1F8B, [0x1F0B, 0x399]), (0x1F8C, [0x1F0C, 0x399]),
  (0x1F8D, [0x1F0D, 0x399]), (0x1F8E, [0x1F0E, 0x399]), (0x1F8F, [0x1F0F, 0x399]),
  (0x1F90, [0x1F28, 0x399]), (0x1F91, [0x1F29, 0x399]), (0x1F92, [0x1F2A, 0x399]),
  (0x1F93, [0x1F2B, 0x399]), (0x1F94, [0x1F2C, 0x399]), (0x1F95, [0x1F2D, 0x399]),
  (0x1F96, [0x1F2E, 0x399]), (0x1F97, [0x1F2F, 0x399]), (0x1F98, [0x1F28, 0x399]),
  (0x1F99, [0x1F29, 0x399]), (0x1F9A, [0x1F2A, 0x399]), (0x1F9B, [0x1F2B, 0x399]),
  (0x1F9C, [0x1F2C, 0x399]), (0x1F9D, [0x1F2D, 0x399]), (0x1F9E, [0x1F2E, 0x399]),
  (0x1F9F, [0x1F2F, 0x399]), (0x1FA0, [0x1F68, 0x399]), (0x1FA1, [0x1F69, 0x399]),
  (0x1FA2, [0x1F6A, 0x399]), (0x1FA3, [0x1F6B, 0x399]), (0x1FA4, [0x1F6C, 0x399]),
  (0x1FA5, [0x1F6D, 0x399]), (0x1FA6, [0x1F6E, 0x399]), (0x1FA7, [0x1F6F, 0x399]),
  (0x1FA8, [0x1F68, 0x399]), (0x1FA9, [0x1F69, 0x399]), (0x1FAA, [0x1F6A, 0x399]),
  (0x1FAB, [0x1F6B, 0x399]), (0x1FAC, [0x1F6C, 0x399]), (0x1FAD, [0x1F6D, 0x399]),
  (0x1FAE, [0x1F6E, 0x399]), (0x1FAF, [0x1F6F, 0x399]), (0x1FB2, [0x1FBA, 0x399]),
  (0x1FB3, [0x391, 0x399]), (0x1FB4, [0x386, 0x399]), (0x1FB6, [0x391, 0x342]),
  (0x1FB7, [0x391, 0x342, 0x399]), (0x1FBC, [0x391, 0x399]), (0x1FC2, [0x1FCA, 0x399]),
  (0x1FC3, [0x397, 0x399]), (0x1FC4, [0x389, 0x399]), (0x1FC6, [0x397, 0x342]),
  (0x1FC7, [0x397, 0x342, 0x399]), (0x1FCC, [0x397, 0x399]), (0x1FD2, [0x399, 0x308, 0x300]),
  (0x1FD3, [0x399, 0x308, 0x301]), (0x1FD6, [0x399, 0x342]), (0x1FD7, [0x399, 0x308, 0x342]),
  (0x1FE2, [0x3A5, 0x308, 0x300]), (0x1FE3, [0x3A5, 0x308, 0x301]), (0x1FE4, [0x3A1, 0x313]),
  (0x1FE6, [0x3A5, 0x342]), (0x1FE7, [0x3A5, 0x308, 0x342]), (0x1FF2, [0x1FFA, 0x399]),
  (0x1FF3, [0x3A9, 0x399]), (0x1FF4, [0x38F, 0x399]), (0x1FF6, [0x3A9, 0x342]),
  (0x1FF7, [0x3A9, 0x342, 0x399]), (0x1FFC, [0x3A9, 0x399]), (0xFB00, [0x46, 0x46]),
  (0xFB01, [0x46, 0x49]), (0xFB02, [0x46, 0x4C]), (0xFB03, [0x46, 0x46, 0x49]),
  (0xFB04, [0x46, 0x46, 0x4C]), (0xFB05, [0x53, 0x54]), (0xFB06, [0x53, 0x54]),
  (0xFB13, [0x544, 0x546]), (0xFB14, [0x544, 0x535]), (0xFB15, [0x544, 0x53B]),
  (0xFB16, [0x54E, 0x546]), (0xFB17, [0x544, 0x53D])]

/-- The upper case of a character. A few characters, such as the sharp s, become several. -/
def uppercase (c : Char) : List Char :=
  match uppercaseExpansions.find? (·.1 == c.toNat) with
  | some (_, expansion) => expansion.map Char.ofNat
  | none =>
    let inRun := fun (run : Nat × Nat × Nat × Int) =>
      run.1 ≤ c.toNat && c.toNat ≤ run.2.1 && (c.toNat - run.1) % run.2.2.1 == 0
    match uppercaseRuns.find? inRun with
    | some (_, _, _, distance) => [Char.ofNat (c.toNat + distance).toNat]
    | none => [c]

end RenderTemplate.Text
