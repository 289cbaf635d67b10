/-!
Writing systems: their direction, how their letters join, and some of them by name.
-/

namespace MessageFlow.Domain

/-- Characters written from right to left. -/
def rightToLeftRanges : List (Nat × Nat) :=
  [(0x5d0, 0x5ea), (0x5ef, 0x5f4), (0x620, 0x63f), (0x641, 0x64a), (0x66e, 0x66f), (0x671, 0x674),
   (0x679, 0x6d3), (0x6d5, 0x6d5), (0x6e5, 0x6e6), (0x6ee, 0x6ef), (0x6fa, 0x6ff), (0x710, 0x710),
   (0x712, 0x72f), (0x74d, 0x7a5), (0x7b1, 0x7b1), (0x7c0, 0x7ea), (0x7f4, 0x7f5), (0x800, 0x815),
   (0x81a, 0x81a), (0x824, 0x824), (0x828, 0x828), (0x840, 0x858), (0x860, 0x86a), (0x870, 0x887),
   (0x889, 0x88e), (0x8a0, 0x8c9), (0xfe73, 0xfe73), (0x10800, 0x10805), (0x10808, 0x10808),
   (0x1080a, 0x10835), (0x10837, 0x10838), (0x1083c, 0x1083c), (0x1083f, 0x10855),
   (0x10860, 0x10876), (0x10880, 0x1089e), (0x108e0, 0x108f2), (0x108f4, 0x108f5),
   (0x10900, 0x10915), (0x10920, 0x10939), (0x10980, 0x109b7), (0x109be, 0x109bf),
   (0x10a00, 0x10a00), (0x10a10, 0x10a13), (0x10a15, 0x10a17), (0x10a19, 0x10a35),
   (0x10a60, 0x10a7c), (0x10a80, 0x10a9c), (0x10ac0, 0x10ac7), (0x10ac9, 0x10ae4),
   (0x10b00, 0x10b35), (0x10b40, 0x10b55), (0x10b60, 0x10b72), (0x10b80, 0x10b91),
   (0x10c00, 0x10c48), (0x10cc0, 0x10cf2), (0x10d00, 0x10d23), (0x10e80, 0x10ea9),
   (0x10eb0, 0x10eb1), (0x10f00, 0x10f1c), (0x10f27, 0x10f27), (0x10f30, 0x10f45),
   (0x10f70, 0x10f81), (0x10fb0, 0x10fc4), (0x10fe0, 0x10ff6), (0x1e800, 0x1e8c4),
   (0x1e922, 0x1e943), (0x1e94b, 0x1e94b), (0x1e950, 0x1e959)]

/-- Characters without a direction. -/
def neutralRanges : List (Nat × Nat) :=
  [(0x2d, 0x2d), (0xb7, 0xb7), (0x2b9, 0x2ba), (0x2c6, 0x2cf), (0x2ec, 0x2ec), (0x375, 0x375),
   (0x200c, 0x200d), (0x2e2f, 0x2e2f), (0x30fb, 0x30fb), (0xa67f, 0xa67f), (0xa717, 0xa71f),
   (0xa788, 0xa788)]

/-- Letters that join the letters on both sides. -/
def joinsBothRanges : List (Nat × Nat) :=
  [(0x620, 0x620), (0x626, 0x626), (0x628, 0x628), (0x62a, 0x62e), (0x633, 0x63f), (0x641, 0x647),
   (0x649, 0x64a), (0x66e, 0x66f), (0x679, 0x687), (0x69a, 0x6bf), (0x6c1, 0x6c2), (0x6cc, 0x6cc),
   (0x6ce, 0x6ce), (0x6d0, 0x6d1), (0x6fa, 0x6fc), (0x6ff, 0x6ff), (0x712, 0x714), (0x71a, 0x71d),
   (0x71f, 0x727), (0x729, 0x729), (0x72b, 0x72b), (0x72d, 0x72e), (0x74e, 0x758), (0x75c, 0x76a),
   (0x76d, 0x770), (0x772, 0x772), (0x775, 0x777), (0x77a, 0x77f), (0x7ca, 0x7ea), (0x841, 0x845),
   (0x848, 0x848), (0x84a, 0x853), (0x855, 0x855), (0x860, 0x860), (0x862, 0x865), (0x868, 0x868),
   (0x886, 0x886), (0x889, 0x88d), (0x8a0, 0x8a9), (0x8af, 0x8b0), (0x8b3, 0x8b8), (0x8ba, 0x8c8),
   (0x1820, 0x1878), (0x1887, 0x18a8), (0x18aa, 0x18aa), (0xa840, 0xa871), (0x10ac0, 0x10ac4),
   (0x10ad3, 0x10ad6), (0x10ad8, 0x10adc), (0x10ade, 0x10ae0), (0x10b80, 0x10b80),
   (0x10b82, 0x10b82), (0x10b86, 0x10b88), (0x10b8a, 0x10b8b), (0x10b8d, 0x10b8d),
   (0x10b90, 0x10b90), (0x10d01, 0x10d21), (0x10d23, 0x10d23), (0x10f30, 0x10f32),
   (0x10f34, 0x10f44), (0x10f70, 0x10f73), (0x10f76, 0x10f81), (0x10fb0, 0x10fb0),
   (0x10fb2, 0x10fb3), (0x10fb8, 0x10fb8), (0x10fbb, 0x10fbc), (0x10fbe, 0x10fbf),
   (0x10fc1, 0x10fc1), (0x10fc4, 0x10fc4), (0x1e922, 0x1e943)]

/-- Letters that join only the letter before them. -/
def joinsBeforeRanges : List (Nat × Nat) :=
  [(0x622, 0x625), (0x627, 0x627), (0x629, 0x629), (0x62f, 0x632), (0x648, 0x648), (0x671, 0x673),
   (0x688, 0x699), (0x6c0, 0x6c0), (0x6c3, 0x6cb), (0x6cd, 0x6cd), (0x6cf, 0x6cf), (0x6d2, 0x6d3),
   (0x6d5, 0x6d5), (0x6ee, 0x6ef), (0x710, 0x710), (0x715, 0x719), (0x71e, 0x71e), (0x728, 0x728),
   (0x72a, 0x72a), (0x72c, 0x72c), (0x72f, 0x72f), (0x74d, 0x74d), (0x759, 0x75b), (0x76b, 0x76c),
   (0x771, 0x771), (0x773, 0x774), (0x778, 0x779), (0x840, 0x840), (0x846, 0x847), (0x849, 0x849),
   (0x854, 0x854), (0x856, 0x858), (0x867, 0x867), (0x869, 0x86a), (0x870, 0x882), (0x88e, 0x88e),
   (0x8aa, 0x8ac), (0x8ae, 0x8ae), (0x8b1, 0x8b2), (0x8b9, 0x8b9), (0x10ac5, 0x10ac5),
   (0x10ac7, 0x10ac7), (0x10ac9, 0x10aca), (0x10ace, 0x10ad2), (0x10add, 0x10add),
   (0x10ae1, 0x10ae1), (0x10ae4, 0x10ae4), (0x10b81, 0x10b81), (0x10b83, 0x10b85),
   (0x10b89, 0x10b89), (0x10b8c, 0x10b8c), (0x10b8e, 0x10b8f), (0x10b91, 0x10b91),
   (0x10d22, 0x10d22), (0x10f33, 0x10f33), (0x10f74, 0x10f75), (0x10fb4, 0x10fb6),
   (0x10fb9, 0x10fba), (0x10fbd, 0x10fbd), (0x10fc2, 0x10fc3)]

/-- Letters that join only the letter after them. -/
def joinsAfterRanges : List (Nat × Nat) :=
  [(0xa872, 0xa872), (0x10acd, 0x10acd), (0x10ad7, 0x10ad7), (0x10d00, 0x10d00)]

/-- Greek letters. -/
def greekRanges : List (Nat × Nat) :=
  [(0x371, 0x371), (0x373, 0x373), (0x377, 0x377), (0x37b, 0x37d), (0x390, 0x390), (0x3ac, 0x3ce),
   (0x3d7, 0x3d7), (0x3d9, 0x3d9), (0x3db, 0x3db), (0x3dd, 0x3dd), (0x3df, 0x3df), (0x3e1, 0x3e1),
   (0x3f3, 0x3f3), (0x3f8, 0x3f8), (0x3fb, 0x3fc), (0x1d26, 0x1d2a), (0x1f00, 0x1f07),
   (0x1f10, 0x1f15), (0x1f20, 0x1f27), (0x1f30, 0x1f37), (0x1f40, 0x1f45), (0x1f50, 0x1f57),
   (0x1f60, 0x1f67), (0x1f70, 0x1f70), (0x1f72, 0x1f72), (0x1f74, 0x1f74), (0x1f76, 0x1f76),
   (0x1f78, 0x1f78), (0x1f7a, 0x1f7a), (0x1f7c, 0x1f7c), (0x1fb0, 0x1fb1), (0x1fb6, 0x1fb6),
   (0x1fc6, 0x1fc6), (0x1fd0, 0x1fd2), (0x1fd6, 0x1fd7), (0x1fe0, 0x1fe2), (0x1fe4, 0x1fe7),
   (0x1ff6, 0x1ff6), (0xab65, 0xab65)]

/-- Hebrew letters and marks. -/
def hebrewRanges : List (Nat × Nat) :=
  [(0x591, 0x5bd), (0x5bf, 0x5bf), (0x5c1, 0x5c2), (0x5c4, 0x5c5), (0x5c7, 0x5c7), (0x5d0, 0x5ea),
   (0x5ef, 0x5f4), (0xfb1e, 0xfb1e)]

/-- The syllables and ideographs of Japanese. -/
def kanaRanges : List (Nat × Nat) :=
  [(0x3005, 0x3005), (0x3007, 0x3007), (0x3041, 0x3096), (0x309d, 0x309e), (0x30a1, 0x30fa),
   (0x30fd, 0x30fe), (0x31f0, 0x31ff), (0x3400, 0x4dbf), (0x4e00, 0x9fff), (0xfa0e, 0xfa0f),
   (0xfa11, 0xfa11), (0xfa13, 0xfa14), (0xfa1f, 0xfa1f), (0xfa21, 0xfa21), (0xfa23, 0xfa24),
   (0xfa27, 0xfa29), (0x16fe3, 0x16fe3), (0x16ff0, 0x16ff1), (0x1aff0, 0x1aff3), (0x1aff5, 0x1affb),
   (0x1affd, 0x1affe), (0x1b000, 0x1b122), (0x1b150, 0x1b152), (0x1b164, 0x1b167),
   (0x20000, 0x2a6df), (0x2a700, 0x2b738), (0x2b740, 0x2b81d), (0x2b820, 0x2cea1),
   (0x2ceb0, 0x2ebe0), (0x30000, 0x3134a)]

end MessageFlow.Domain
