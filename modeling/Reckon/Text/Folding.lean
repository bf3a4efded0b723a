/-
# Reckon.Text.Folding — characters that differ in case only

Two characters are the same up to case when simple case folding sends them to one
character: `K`, `k` and the Kelvin sign, or `ß` and `ẞ`. Simple folding works character by
character, so `ß` is not the same as the two letters `ss`.

The table lists the pairs of different characters that fold together, smaller one first, as
runs `(first, last, step, distance)`: each of `first, first + step, …, last` pairs with the
character `distance` above it. It is that of version 16 of the character database, which is
the version that patterns go by.
-/

namespace Reckon.Text

/-- The pairs of characters that are the same up to case, in runs. -/
def foldingRuns : List (Nat × Nat × Nat × Nat) :=
  [
    (0x41, 0x5A, 1, 32), (0x4B, 0x4B, 1, 8415), (0x53, 0x53, 1, 300), (0x6B, 0x6B, 1, 8383),
    (0x73, 0x73, 1, 268), (0xB5, 0xB5, 1, 743), (0xB5, 0xB5, 1, 775), (0xC0, 0xD6, 1, 32),
    (0xC5, 0xC5, 1, 8294), (0xD8, 0xDE, 1, 32), (0xDF, 0xDF, 1, 7615), (0xE5, 0xE5, 1, 8262),
    (0xFF, 0xFF, 1, 121), (0x100, 0x12E, 2, 1), (0x132, 0x136, 2, 1), (0x139, 0x147, 2, 1),
    (0x14A, 0x176, 2, 1), (0x179, 0x17D, 2, 1), (0x180, 0x180, 1, 195), (0x181, 0x181, 1, 210),
    (0x182, 0x184, 2, 1), (0x186, 0x186, 1, 206), (0x187, 0x187, 1, 1), (0x189, 0x18A, 1, 205),
    (0x18B, 0x18B, 1, 1), (0x18E, 0x18E, 1, 79), (0x18F, 0x18F, 1, 202), (0x190, 0x190, 1, 203),
    (0x191, 0x191, 1, 1), (0x193, 0x193, 1, 205), (0x194, 0x194, 1, 207), (0x195, 0x195, 1, 97),
    (0x196, 0x196, 1, 211), (0x197, 0x197, 1, 209), (0x198, 0x198, 1, 1), (0x19A, 0x19A, 1, 163),
    (0x19B, 0x19B, 1, 42561), (0x19C, 0x19C, 1, 211), (0x19D, 0x19D, 1, 213),
    (0x19E, 0x19E, 1, 130), (0x19F, 0x19F, 1, 214), (0x1A0, 0x1A4, 2, 1), (0x1A6, 0x1A6, 1, 218),
    (0x1A7, 0x1A7, 1, 1), (0x1A9, 0x1A9, 1, 218), (0x1AC, 0x1AC, 1, 1), (0x1AE, 0x1AE, 1, 218),
    (0x1AF, 0x1AF, 1, 1), (0x1B1, 0x1B2, 1, 217), (0x1B3, 0x1B5, 2, 1), (0x1B7, 0x1B7, 1, 219),
    (0x1B8, 0x1B8, 1, 1), (0x1BC, 0x1BC, 1, 1), (0x1BF, 0x1BF, 1, 56), (0x1C4, 0x1C5, 1, 1),
    (0x1C4, 0x1C4, 1, 2), (0x1C7, 0x1C8, 1, 1), (0x1C7, 0x1C7, 1, 2), (0x1CA, 0x1CB, 1, 1),
    (0x1CA, 0x1CA, 1, 2), (0x1CD, 0x1DB, 2, 1), (0x1DE, 0x1EE, 2, 1), (0x1F1, 0x1F2, 1, 1),
    (0x1F1, 0x1F1, 1, 2), (0x1F4, 0x1F4, 1, 1), (0x1F8, 0x21E, 2, 1), (0x222, 0x232, 2, 1),
    (0x23A, 0x23A, 1, 10795), (0x23B, 0x23B, 1, 1), (0x23E, 0x23E, 1, 10792),
    (0x23F, 0x240, 1, 10815), (0x241, 0x241, 1, 1), (0x244, 0x244, 1, 69), (0x245, 0x245, 1, 71),
    (0x246, 0x24E, 2, 1), (0x250, 0x250, 1, 10783), (0x251, 0x251, 1, 10780),
    (0x252, 0x252, 1, 10782), (0x25C, 0x25C, 1, 42319), (0x261, 0x261, 1, 42315),
    (0x264, 0x264, 1, 42343), (0x265, 0x265, 1, 42280), (0x266, 0x266, 1, 42308),
    (0x26A, 0x26A, 1, 42308), (0x26B, 0x26B, 1, 10743), (0x26C, 0x26C, 1, 42305),
    (0x271, 0x271, 1, 10749), (0x27D, 0x27D, 1, 10727), (0x282, 0x282, 1, 42307),
    (0x287, 0x287, 1, 42282), (0x29D, 0x29D, 1, 42261), (0x29E, 0x29E, 1, 42258),
    (0x345, 0x345, 1, 84), (0x345, 0x345, 1, 116), (0x345, 0x345, 1, 7289), (0x370, 0x372, 2, 1),
    (0x376, 0x376, 1, 1), (0x37B, 0x37D, 1, 130), (0x37F, 0x37F, 1, 116), (0x386, 0x386, 1, 38),
    (0x388, 0x38A, 1, 37), (0x38C, 0x38C, 1, 64), (0x38E, 0x38F, 1, 63), (0x390, 0x390, 1, 7235),
    (0x391, 0x3A1, 1, 32), (0x392, 0x392, 1, 62), (0x395, 0x395, 1, 96), (0x398, 0x398, 1, 57),
    (0x398, 0x398, 1, 92), (0x399, 0x399, 1, 7205), (0x39A, 0x39A, 1, 86), (0x3A0, 0x3A0, 1, 54),
    (0x3A1, 0x3A1, 1, 80), (0x3A3, 0x3A3, 1, 31), (0x3A3, 0x3AB, 1, 32), (0x3A6, 0x3A6, 1, 47),
    (0x3A9, 0x3A9, 1, 7549), (0x3B0, 0x3B0, 1, 7219), (0x3B2, 0x3B2, 1, 30), (0x3B5, 0x3B5, 1, 64),
    (0x3B8, 0x3B8, 1, 25), (0x3B8, 0x3B8, 1, 60), (0x3B9, 0x3B9, 1, 7173), (0x3BA, 0x3BA, 1, 54),
    (0x3C0, 0x3C0, 1, 22), (0x3C1, 0x3C1, 1, 48), (0x3C2, 0x3C2, 1, 1), (0x3C6, 0x3C6, 1, 15),
    (0x3C9, 0x3C9, 1, 7517), (0x3CF, 0x3CF, 1, 8), (0x3D1, 0x3D1, 1, 35), (0x3D8, 0x3EE, 2, 1),
    (0x3F2, 0x3F2, 1, 7), (0x3F7, 0x3F7, 1, 1), (0x3FA, 0x3FA, 1, 1), (0x400, 0x40F, 1, 80),
    (0x410, 0x42F, 1, 32), (0x412, 0x412, 1, 6254), (0x414, 0x414, 1, 6253),
    (0x41E, 0x41E, 1, 6244), (0x421, 0x422, 1, 6242), (0x422, 0x422, 1, 6243),
    (0x42A, 0x42A, 1, 6236), (0x432, 0x432, 1, 6222), (0x434, 0x434, 1, 6221),
    (0x43E, 0x43E, 1, 6212), (0x441, 0x442, 1, 6210), (0x442, 0x442, 1, 6211),
    (0x44A, 0x44A, 1, 6204), (0x460, 0x480, 2, 1), (0x462, 0x462, 1, 6181),
    (0x463, 0x463, 1, 6180), (0x48A, 0x4BE, 2, 1), (0x4C0, 0x4C0, 1, 15), (0x4C1, 0x4CD, 2, 1),
    (0x4D0, 0x52E, 2, 1), (0x531, 0x556, 1, 48), (0x10A0, 0x10C5, 1, 7264),
    (0x10C7, 0x10C7, 1, 7264), (0x10CD, 0x10CD, 1, 7264), (0x10D0, 0x10FA, 1, 3008),
    (0x10FD, 0x10FF, 1, 3008), (0x13A0, 0x13EF, 1, 38864), (0x13F0, 0x13F5, 1, 8),
    (0x1C84, 0x1C84, 1, 1), (0x1C88, 0x1C88, 1, 35266), (0x1C88, 0x1C88, 1, 35267),
    (0x1C89, 0x1C89, 1, 1), (0x1D79, 0x1D79, 1, 35332), (0x1D7D, 0x1D7D, 1, 3814),
    (0x1D8E, 0x1D8E, 1, 35384), (0x1E00, 0x1E94, 2, 1), (0x1E60, 0x1E60, 1, 59),
    (0x1E61, 0x1E61, 1, 58), (0x1EA0, 0x1EFE, 2, 1), (0x1F00, 0x1F07, 1, 8),
    (0x1F10, 0x1F15, 1, 8), (0x1F20, 0x1F27, 1, 8), (0x1F30, 0x1F37, 1, 8), (0x1F40, 0x1F45, 1, 8),
    (0x1F51, 0x1F57, 2, 8), (0x1F60, 0x1F67, 1, 8), (0x1F70, 0x1F71, 1, 74),
    (0x1F72, 0x1F75, 1, 86), (0x1F76, 0x1F77, 1, 100), (0x1F78, 0x1F79, 1, 128),
    (0x1F7A, 0x1F7B, 1, 112), (0x1F7C, 0x1F7D, 1, 126), (0x1F80, 0x1F87, 1, 8),
    (0x1F90, 0x1F97, 1, 8), (0x1FA0, 0x1FA7, 1, 8), (0x1FB0, 0x1FB1, 1, 8), (0x1FB3, 0x1FB3, 1, 9),
    (0x1FC3, 0x1FC3, 1, 9), (0x1FD0, 0x1FD1, 1, 8), (0x1FE0, 0x1FE1, 1, 8), (0x1FE5, 0x1FE5, 1, 7),
    (0x1FF3, 0x1FF3, 1, 9), (0x2132, 0x2132, 1, 28), (0x2160, 0x216F, 1, 16),
    (0x2183, 0x2183, 1, 1), (0x24B6, 0x24CF, 1, 26), (0x2C00, 0x2C2F, 1, 48),
    (0x2C60, 0x2C60, 1, 1), (0x2C67, 0x2C6B, 2, 1), (0x2C72, 0x2C72, 1, 1), (0x2C75, 0x2C75, 1, 1),
    (0x2C80, 0x2CE2, 2, 1), (0x2CEB, 0x2CED, 2, 1), (0x2CF2, 0x2CF2, 1, 1), (0xA640, 0xA66C, 2, 1),
    (0xA680, 0xA69A, 2, 1), (0xA722, 0xA72E, 2, 1), (0xA732, 0xA76E, 2, 1), (0xA779, 0xA77B, 2, 1),
    (0xA77E, 0xA786, 2, 1), (0xA78B, 0xA78B, 1, 1), (0xA790, 0xA792, 2, 1),
    (0xA794, 0xA794, 1, 48), (0xA796, 0xA7A8, 2, 1), (0xA7B3, 0xA7B3, 1, 928),
    (0xA7B4, 0xA7C2, 2, 1), (0xA7C7, 0xA7C9, 2, 1), (0xA7CC, 0xA7CC, 1, 1), (0xA7D0, 0xA7D0, 1, 1),
    (0xA7D6, 0xA7DA, 2, 1), (0xA7F5, 0xA7F5, 1, 1), (0xFB05, 0xFB05, 1, 1),
    (0xFF21, 0xFF3A, 1, 32), (0x10400, 0x10427, 1, 40), (0x104B0, 0x104D3, 1, 40),
    (0x10570, 0x10594, 2, 39), (0x10571, 0x10579, 2, 39), (0x1057D, 0x10589, 2, 39),
    (0x1058D, 0x10591, 2, 39), (0x10595, 0x10595, 1, 39), (0x10C80, 0x10CB2, 1, 64),
    (0x10D50, 0x10D65, 1, 32), (0x118A0, 0x118BF, 1, 32), (0x16E40, 0x16E5F, 1, 32),
    (0x1E900, 0x1E921, 1, 34)
  ]

/-- The pairs of characters that are the same up to case, as code points, the smaller one
first. -/
def foldingPairs : List (Nat × Nat) :=
  foldingRuns.flatMap fun (first, last, step, distance) =>
    (List.range ((last - first) / step + 1)).map fun k =>
      (first + step * k, first + step * k + distance)

end Reckon.Text
