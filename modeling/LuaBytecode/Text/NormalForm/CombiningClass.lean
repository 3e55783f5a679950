import LuaBytecode.Text.CodeRange

/-!
# Combining classes

Where a mark attaches to the character before it. Marks of different classes do not touch, so their
order makes no difference; marks of one class are stacked in the order in which they stand. The
table follows version 14 of the Unicode character database.
-/

set_option autoImplicit false

namespace LuaBytecode.Text

/-- The classes of marks, each with the codes of its characters. -/
def combiningClasses : List (Nat × CodeRanges) := [
  (1, [(0x0334, 0x0338), (0x1cd4, 0x1cd4), (0x1ce2, 0x1ce8), (0x20d2, 0x20d3), (0x20d8, 0x20da),
    (0x20e5, 0x20e6), (0x20ea, 0x20eb), (0x10a39, 0x10a39), (0x16af0, 0x16af4),
    (0x1bc9e, 0x1bc9e), (0x1d167, 0x1d169)]),
  (6, [(0x16ff0, 0x16ff1)]),
  (7, [(0x093c, 0x093c), (0x09bc, 0x09bc), (0x0a3c, 0x0a3c), (0x0abc, 0x0abc), (0x0b3c, 0x0b3c),
    (0x0c3c, 0x0c3c), (0x0cbc, 0x0cbc), (0x1037, 0x1037), (0x1b34, 0x1b34), (0x1be6, 0x1be6),
    (0x1c37, 0x1c37), (0xa9b3, 0xa9b3), (0x110ba, 0x110ba), (0x11173, 0x11173),
    (0x111ca, 0x111ca), (0x11236, 0x11236), (0x112e9, 0x112e9), (0x1133b, 0x1133c),
    (0x11446, 0x11446), (0x114c3, 0x114c3), (0x115c0, 0x115c0), (0x116b7, 0x116b7),
    (0x1183a, 0x1183a), (0x11943, 0x11943), (0x11d42, 0x11d42), (0x1e94a, 0x1e94a)]),
  (8, [(0x3099, 0x309a)]),
  (9, [(0x094d, 0x094d), (0x09cd, 0x09cd), (0x0a4d, 0x0a4d), (0x0acd, 0x0acd), (0x0b4d, 0x0b4d),
    (0x0bcd, 0x0bcd), (0x0c4d, 0x0c4d), (0x0ccd, 0x0ccd), (0x0d3b, 0x0d3c), (0x0d4d, 0x0d4d),
    (0x0dca, 0x0dca), (0x0e3a, 0x0e3a), (0x0eba, 0x0eba), (0x0f84, 0x0f84), (0x1039, 0x103a),
    (0x1714, 0x1715), (0x1734, 0x1734), (0x17d2, 0x17d2), (0x1a60, 0x1a60), (0x1b44, 0x1b44),
    (0x1baa, 0x1bab), (0x1bf2, 0x1bf3), (0x2d7f, 0x2d7f), (0xa806, 0xa806), (0xa82c, 0xa82c),
    (0xa8c4, 0xa8c4), (0xa953, 0xa953), (0xa9c0, 0xa9c0), (0xaaf6, 0xaaf6), (0xabed, 0xabed),
    (0x10a3f, 0x10a3f), (0x11046, 0x11046), (0x11070, 0x11070), (0x1107f, 0x1107f),
    (0x110b9, 0x110b9), (0x11133, 0x11134), (0x111c0, 0x111c0), (0x11235, 0x11235),
    (0x112ea, 0x112ea), (0x1134d, 0x1134d), (0x11442, 0x11442), (0x114c2, 0x114c2),
    (0x115bf, 0x115bf), (0x1163f, 0x1163f), (0x116b6, 0x116b6), (0x1172b, 0x1172b),
    (0x11839, 0x11839), (0x1193d, 0x1193e), (0x119e0, 0x119e0), (0x11a34, 0x11a34),
    (0x11a47, 0x11a47), (0x11a99, 0x11a99), (0x11c3f, 0x11c3f), (0x11d44, 0x11d45),
    (0x11d97, 0x11d97)]),
  (10, [(0x05b0, 0x05b0)]),
  (11, [(0x05b1, 0x05b1)]),
  (12, [(0x05b2, 0x05b2)]),
  (13, [(0x05b3, 0x05b3)]),
  (14, [(0x05b4, 0x05b4)]),
  (15, [(0x05b5, 0x05b5)]),
  (16, [(0x05b6, 0x05b6)]),
  (17, [(0x05b7, 0x05b7)]),
  (18, [(0x05b8, 0x05b8), (0x05c7, 0x05c7)]),
  (19, [(0x05b9, 0x05ba)]),
  (20, [(0x05bb, 0x05bb)]),
  (21, [(0x05bc, 0x05bc)]),
  (22, [(0x05bd, 0x05bd)]),
  (23, [(0x05bf, 0x05bf)]),
  (24, [(0x05c1, 0x05c1)]),
  (25, [(0x05c2, 0x05c2)]),
  (26, [(0xfb1e, 0xfb1e)]),
  (27, [(0x064b, 0x064b), (0x08f0, 0x08f0)]),
  (28, [(0x064c, 0x064c), (0x08f1, 0x08f1)]),
  (29, [(0x064d, 0x064d), (0x08f2, 0x08f2)]),
  (30, [(0x0618, 0x0618), (0x064e, 0x064e)]),
  (31, [(0x0619, 0x0619), (0x064f, 0x064f)]),
  (32, [(0x061a, 0x061a), (0x0650, 0x0650)]),
  (33, [(0x0651, 0x0651)]),
  (34, [(0x0652, 0x0652)]),
  (35, [(0x0670, 0x0670)]),
  (36, [(0x0711, 0x0711)]),
  (84, [(0x0c55, 0x0c55)]),
  (91, [(0x0c56, 0x0c56)]),
  (103, [(0x0e38, 0x0e39)]),
  (107, [(0x0e48, 0x0e4b)]),
  (118, [(0x0eb8, 0x0eb9)]),
  (122, [(0x0ec8, 0x0ecb)]),
  (129, [(0x0f71, 0x0f71)]),
  (130, [(0x0f72, 0x0f72), (0x0f7a, 0x0f7d), (0x0f80, 0x0f80)]),
  (132, [(0x0f74, 0x0f74)]),
  (202, [(0x0321, 0x0322), (0x0327, 0x0328), (0x1dd0, 0x1dd0)]),
  (214, [(0x1dce, 0x1dce)]),
  (216, [(0x031b, 0x031b), (0x0f39, 0x0f39), (0x1d165, 0x1d166), (0x1d16e, 0x1d172)]),
  (218, [(0x1dfa, 0x1dfa), (0x302a, 0x302a)]),
  (220, [(0x0316, 0x0319), (0x031c, 0x0320), (0x0323, 0x0326), (0x0329, 0x0333),
    (0x0339, 0x033c), (0x0347, 0x0349), (0x034d, 0x034e), (0x0353, 0x0356), (0x0359, 0x035a),
    (0x0591, 0x0591), (0x0596, 0x0596), (0x059b, 0x059b), (0x05a2, 0x05a7), (0x05aa, 0x05aa),
    (0x05c5, 0x05c5), (0x0655, 0x0656), (0x065c, 0x065c), (0x065f, 0x065f), (0x06e3, 0x06e3),
    (0x06ea, 0x06ea), (0x06ed, 0x06ed), (0x0731, 0x0731), (0x0734, 0x0734), (0x0737, 0x0739),
    (0x073b, 0x073c), (0x073e, 0x073e), (0x0742, 0x0742), (0x0744, 0x0744), (0x0746, 0x0746),
    (0x0748, 0x0748), (0x07f2, 0x07f2), (0x07fd, 0x07fd), (0x0859, 0x085b), (0x0899, 0x089b),
    (0x08cf, 0x08d3), (0x08e3, 0x08e3), (0x08e6, 0x08e6), (0x08e9, 0x08e9), (0x08ed, 0x08ef),
    (0x08f6, 0x08f6), (0x08f9, 0x08fa), (0x0952, 0x0952), (0x0f18, 0x0f19), (0x0f35, 0x0f35),
    (0x0f37, 0x0f37), (0x0fc6, 0x0fc6), (0x108d, 0x108d), (0x193b, 0x193b), (0x1a18, 0x1a18),
    (0x1a7f, 0x1a7f), (0x1ab5, 0x1aba), (0x1abd, 0x1abd), (0x1abf, 0x1ac0), (0x1ac3, 0x1ac4),
    (0x1aca, 0x1aca), (0x1b6c, 0x1b6c), (0x1cd5, 0x1cd9), (0x1cdc, 0x1cdf), (0x1ced, 0x1ced),
    (0x1dc2, 0x1dc2), (0x1dca, 0x1dca), (0x1dcf, 0x1dcf), (0x1df9, 0x1df9), (0x1dfd, 0x1dfd),
    (0x1dff, 0x1dff), (0x20e8, 0x20e8), (0x20ec, 0x20ef), (0xa92b, 0xa92d), (0xaab4, 0xaab4),
    (0xfe27, 0xfe2d), (0x101fd, 0x101fd), (0x102e0, 0x102e0), (0x10a0d, 0x10a0d),
    (0x10a3a, 0x10a3a), (0x10ae6, 0x10ae6), (0x10f46, 0x10f47), (0x10f4b, 0x10f4b),
    (0x10f4d, 0x10f50), (0x10f83, 0x10f83), (0x10f85, 0x10f85), (0x1d17b, 0x1d182),
    (0x1d18a, 0x1d18b), (0x1e8d0, 0x1e8d6)]),
  (222, [(0x059a, 0x059a), (0x05ad, 0x05ad), (0x1939, 0x1939), (0x302d, 0x302d)]),
  (224, [(0x302e, 0x302f)]),
  (226, [(0x1d16d, 0x1d16d)]),
  (228, [(0x05ae, 0x05ae), (0x18a9, 0x18a9), (0x1df7, 0x1df8), (0x302b, 0x302b)]),
  (230, [(0x0300, 0x0314), (0x033d, 0x0344), (0x0346, 0x0346), (0x034a, 0x034c),
    (0x0350, 0x0352), (0x0357, 0x0357), (0x035b, 0x035b), (0x0363, 0x036f), (0x0483, 0x0487),
    (0x0592, 0x0595), (0x0597, 0x0599), (0x059c, 0x05a1), (0x05a8, 0x05a9), (0x05ab, 0x05ac),
    (0x05af, 0x05af), (0x05c4, 0x05c4), (0x0610, 0x0617), (0x0653, 0x0654), (0x0657, 0x065b),
    (0x065d, 0x065e), (0x06d6, 0x06dc), (0x06df, 0x06e2), (0x06e4, 0x06e4), (0x06e7, 0x06e8),
    (0x06eb, 0x06ec), (0x0730, 0x0730), (0x0732, 0x0733), (0x0735, 0x0736), (0x073a, 0x073a),
    (0x073d, 0x073d), (0x073f, 0x0741), (0x0743, 0x0743), (0x0745, 0x0745), (0x0747, 0x0747),
    (0x0749, 0x074a), (0x07eb, 0x07f1), (0x07f3, 0x07f3), (0x0816, 0x0819), (0x081b, 0x0823),
    (0x0825, 0x0827), (0x0829, 0x082d), (0x0898, 0x0898), (0x089c, 0x089f), (0x08ca, 0x08ce),
    (0x08d4, 0x08e1), (0x08e4, 0x08e5), (0x08e7, 0x08e8), (0x08ea, 0x08ec), (0x08f3, 0x08f5),
    (0x08f7, 0x08f8), (0x08fb, 0x08ff), (0x0951, 0x0951), (0x0953, 0x0954), (0x09fe, 0x09fe),
    (0x0f82, 0x0f83), (0x0f86, 0x0f87), (0x135d, 0x135f), (0x17dd, 0x17dd), (0x193a, 0x193a),
    (0x1a17, 0x1a17), (0x1a75, 0x1a7c), (0x1ab0, 0x1ab4), (0x1abb, 0x1abc), (0x1ac1, 0x1ac2),
    (0x1ac5, 0x1ac9), (0x1acb, 0x1ace), (0x1b6b, 0x1b6b), (0x1b6d, 0x1b73), (0x1cd0, 0x1cd2),
    (0x1cda, 0x1cdb), (0x1ce0, 0x1ce0), (0x1cf4, 0x1cf4), (0x1cf8, 0x1cf9), (0x1dc0, 0x1dc1),
    (0x1dc3, 0x1dc9), (0x1dcb, 0x1dcc), (0x1dd1, 0x1df5), (0x1dfb, 0x1dfb), (0x1dfe, 0x1dfe),
    (0x20d0, 0x20d1), (0x20d4, 0x20d7), (0x20db, 0x20dc), (0x20e1, 0x20e1), (0x20e7, 0x20e7),
    (0x20e9, 0x20e9), (0x20f0, 0x20f0), (0x2cef, 0x2cf1), (0x2de0, 0x2dff), (0xa66f, 0xa66f),
    (0xa674, 0xa67d), (0xa69e, 0xa69f), (0xa6f0, 0xa6f1), (0xa8e0, 0xa8f1), (0xaab0, 0xaab0),
    (0xaab2, 0xaab3), (0xaab7, 0xaab8), (0xaabe, 0xaabf), (0xaac1, 0xaac1), (0xfe20, 0xfe26),
    (0xfe2e, 0xfe2f), (0x10376, 0x1037a), (0x10a0f, 0x10a0f), (0x10a38, 0x10a38),
    (0x10ae5, 0x10ae5), (0x10d24, 0x10d27), (0x10eab, 0x10eac), (0x10f48, 0x10f4a),
    (0x10f4c, 0x10f4c), (0x10f82, 0x10f82), (0x10f84, 0x10f84), (0x11100, 0x11102),
    (0x11366, 0x1136c), (0x11370, 0x11374), (0x1145e, 0x1145e), (0x16b30, 0x16b36),
    (0x1d185, 0x1d189), (0x1d1aa, 0x1d1ad), (0x1d242, 0x1d244), (0x1e000, 0x1e006),
    (0x1e008, 0x1e018), (0x1e01b, 0x1e021), (0x1e023, 0x1e024), (0x1e026, 0x1e02a),
    (0x1e130, 0x1e136), (0x1e2ae, 0x1e2ae), (0x1e2ec, 0x1e2ef), (0x1e944, 0x1e949)]),
  (232, [(0x0315, 0x0315), (0x031a, 0x031a), (0x0358, 0x0358), (0x1df6, 0x1df6),
    (0x302c, 0x302c)]),
  (233, [(0x035c, 0x035c), (0x035f, 0x035f), (0x0362, 0x0362), (0x1dfc, 0x1dfc)]),
  (234, [(0x035d, 0x035e), (0x0360, 0x0361), (0x1dcd, 0x1dcd)]),
  (240, [(0x0345, 0x0345)])]

/-- The class of a mark, and zero for a character that is no mark. -/
def combiningClass (char : Char) : Nat :=
  if char.toNat < 0x300 then 0
  else
    ((combiningClasses.find? fun entry => entry.2.includes char.toNat).map Prod.fst).getD 0

end LuaBytecode.Text
