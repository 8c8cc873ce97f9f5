/-!
# Properties of characters in domain names

For the characters beyond ASCII that may stand in a domain name: how they are
composed, in which order marks stand, which are marks, in which direction they
run and how they join. An entry is a first code point, with the length of its
run where runs occur, and what is so of its characters.
-/

namespace Errand.Domain.Table

def compositions1 : List (Nat × Nat × Nat) :=
  [(0xe0, 0x61, 0x300), (0xe1, 0x61, 0x301), (0xe2, 0x61, 0x302),
    (0xe3, 0x61, 0x303), (0xe4, 0x61, 0x308), (0xe5, 0x61, 0x30a),
    (0xe7, 0x63, 0x327), (0xe8, 0x65, 0x300), (0xe9, 0x65, 0x301),
    (0xea, 0x65, 0x302), (0xeb, 0x65, 0x308), (0xec, 0x69, 0x300),
    (0xed, 0x69, 0x301), (0xee, 0x69, 0x302), (0xef, 0x69, 0x308),
    (0xf1, 0x6e, 0x303), (0xf2, 0x6f, 0x300), (0xf3, 0x6f, 0x301),
    (0xf4, 0x6f, 0x302), (0xf5, 0x6f, 0x303), (0xf6, 0x6f, 0x308),
    (0xf9, 0x75, 0x300), (0xfa, 0x75, 0x301), (0xfb, 0x75, 0x302),
    (0xfc, 0x75, 0x308), (0xfd, 0x79, 0x301), (0xff, 0x79, 0x308),
    (0x101, 0x61, 0x304), (0x103, 0x61, 0x306), (0x105, 0x61, 0x328),
    (0x107, 0x63, 0x301), (0x109, 0x63, 0x302), (0x10b, 0x63, 0x307),
    (0x10d, 0x63, 0x30c), (0x10f, 0x64, 0x30c), (0x113, 0x65, 0x304),
    (0x115, 0x65, 0x306), (0x117, 0x65, 0x307), (0x119, 0x65, 0x328),
    (0x11b, 0x65, 0x30c), (0x11d, 0x67, 0x302), (0x11f, 0x67, 0x306),
    (0x121, 0x67, 0x307), (0x123, 0x67, 0x327), (0x125, 0x68, 0x302),
    (0x129, 0x69, 0x303), (0x12b, 0x69, 0x304), (0x12d, 0x69, 0x306),
    (0x12f, 0x69, 0x328), (0x135, 0x6a, 0x302), (0x137, 0x6b, 0x327),
    (0x13a, 0x6c, 0x301), (0x13c, 0x6c, 0x327), (0x13e, 0x6c, 0x30c),
    (0x144, 0x6e, 0x301), (0x146, 0x6e, 0x327), (0x148, 0x6e, 0x30c),
    (0x14d, 0x6f, 0x304), (0x14f, 0x6f, 0x306), (0x151, 0x6f, 0x30b),
    (0x155, 0x72, 0x301), (0x157, 0x72, 0x327), (0x159, 0x72, 0x30c),
    (0x15b, 0x73, 0x301), (0x15d, 0x73, 0x302), (0x15f, 0x73, 0x327),
    (0x161, 0x73, 0x30c), (0x163, 0x74, 0x327), (0x165, 0x74, 0x30c),
    (0x169, 0x75, 0x303), (0x16b, 0x75, 0x304), (0x16d, 0x75, 0x306),
    (0x16f, 0x75, 0x30a), (0x171, 0x75, 0x30b), (0x173, 0x75, 0x328),
    (0x175, 0x77, 0x302), (0x177, 0x79, 0x302), (0x17a, 0x7a, 0x301),
    (0x17c, 0x7a, 0x307), (0x17e, 0x7a, 0x30c), (0x1a1, 0x6f, 0x31b),
    (0x1b0, 0x75, 0x31b), (0x1ce, 0x61, 0x30c), (0x1d0, 0x69, 0x30c),
    (0x1d2, 0x6f, 0x30c), (0x1d4, 0x75, 0x30c), (0x1d6, 0xfc, 0x304),
    (0x1d8, 0xfc, 0x301), (0x1da, 0xfc, 0x30c), (0x1dc, 0xfc, 0x300),
    (0x1df, 0xe4, 0x304), (0x1e1, 0x227, 0x304), (0x1e3, 0xe6, 0x304),
    (0x1e7, 0x67, 0x30c), (0x1e9, 0x6b, 0x30c), (0x1eb, 0x6f, 0x328),
    (0x1ed, 0x1eb, 0x304), (0x1ef, 0x292, 0x30c), (0x1f0, 0x6a, 0x30c),
    (0x1f5, 0x67, 0x301), (0x1f9, 0x6e, 0x300), (0x1fb, 0xe5, 0x301),
    (0x1fd, 0xe6, 0x301), (0x1ff, 0xf8, 0x301), (0x201, 0x61, 0x30f),
    (0x203, 0x61, 0x311), (0x205, 0x65, 0x30f), (0x207, 0x65, 0x311),
    (0x209, 0x69, 0x30f), (0x20b, 0x69, 0x311), (0x20d, 0x6f, 0x30f),
    (0x20f, 0x6f, 0x311), (0x211, 0x72, 0x30f), (0x213, 0x72, 0x311),
    (0x215, 0x75, 0x30f), (0x217, 0x75, 0x311), (0x219, 0x73, 0x326),
    (0x21b, 0x74, 0x326), (0x21f, 0x68, 0x30c), (0x227, 0x61, 0x307),
    (0x229, 0x65, 0x327), (0x22b, 0xf6, 0x304), (0x22d, 0xf5, 0x304),
    (0x22f, 0x6f, 0x307), (0x231, 0x22f, 0x304), (0x233, 0x79, 0x304),
    (0x390, 0x3ca, 0x301), (0x3ac, 0x3b1, 0x301), (0x3ad, 0x3b5, 0x301),
    (0x3ae, 0x3b7, 0x301), (0x3af, 0x3b9, 0x301), (0x3b0, 0x3cb, 0x301),
    (0x3ca, 0x3b9, 0x308), (0x3cb, 0x3c5, 0x308), (0x3cc, 0x3bf, 0x301),
    (0x3cd, 0x3c5, 0x301), (0x3ce, 0x3c9, 0x301), (0x439, 0x438, 0x306),
    (0x450, 0x435, 0x300), (0x451, 0x435, 0x308), (0x453, 0x433, 0x301),
    (0x457, 0x456, 0x308), (0x45c, 0x43a, 0x301), (0x45d, 0x438, 0x300),
    (0x45e, 0x443, 0x306), (0x477, 0x475, 0x30f), (0x4c2, 0x436, 0x306),
    (0x4d1, 0x430, 0x306), (0x4d3, 0x430, 0x308), (0x4d7, 0x435, 0x306),
    (0x4db, 0x4d9, 0x308), (0x4dd, 0x436, 0x308), (0x4df, 0x437, 0x308),
    (0x4e3, 0x438, 0x304), (0x4e5, 0x438, 0x308), (0x4e7, 0x43e, 0x308),
    (0x4eb, 0x4e9, 0x308), (0x4ed, 0x44d, 0x308), (0x4ef, 0x443, 0x304),
    (0x4f1, 0x443, 0x308), (0x4f3, 0x443, 0x30b), (0x4f5, 0x447, 0x308),
    (0x4f9, 0x44b, 0x308), (0x622, 0x627, 0x653), (0x623, 0x627, 0x654),
    (0x624, 0x648, 0x654), (0x625, 0x627, 0x655), (0x626, 0x64a, 0x654),
    (0x6c0, 0x6d5, 0x654), (0x6c2, 0x6c1, 0x654), (0x6d3, 0x6d2, 0x654),
    (0x929, 0x928, 0x93c), (0x931, 0x930, 0x93c), (0x934, 0x933, 0x93c),
    (0x9cb, 0x9c7, 0x9be), (0x9cc, 0x9c7, 0x9d7), (0xb48, 0xb47, 0xb56),
    (0xb4b, 0xb47, 0xb3e), (0xb4c, 0xb47, 0xb57), (0xb94, 0xb92, 0xbd7),
    (0xbca, 0xbc6, 0xbbe), (0xbcb, 0xbc7, 0xbbe), (0xbcc, 0xbc6, 0xbd7),
    (0xc48, 0xc46, 0xc56), (0xcc0, 0xcbf, 0xcd5), (0xcc7, 0xcc6, 0xcd5),
    (0xcc8, 0xcc6, 0xcd6), (0xcca, 0xcc6, 0xcc2), (0xccb, 0xcca, 0xcd5),
    (0xd4a, 0xd46, 0xd3e), (0xd4b, 0xd47, 0xd3e), (0xd4c, 0xd46, 0xd57),
    (0xdda, 0xdd9, 0xdca), (0xddc, 0xdd9, 0xdcf), (0xddd, 0xddc, 0xdca),
    (0xdde, 0xdd9, 0xddf), (0x1026, 0x1025, 0x102e), (0x1b06, 0x1b05, 0x1b35),
    (0x1b08, 0x1b07, 0x1b35), (0x1b0a, 0x1b09, 0x1b35),
    (0x1b0c, 0x1b0b, 0x1b35), (0x1b0e, 0x1b0d, 0x1b35),
    (0x1b12, 0x1b11, 0x1b35), (0x1b3b, 0x1b3a, 0x1b35),
    (0x1b3d, 0x1b3c, 0x1b35), (0x1b40, 0x1b3e, 0x1b35),
    (0x1b41, 0x1b3f, 0x1b35), (0x1b43, 0x1b42, 0x1b35), (0x1e01, 0x61, 0x325),
    (0x1e03, 0x62, 0x307), (0x1e05, 0x62, 0x323), (0x1e07, 0x62, 0x331),
    (0x1e09, 0xe7, 0x301), (0x1e0b, 0x64, 0x307), (0x1e0d, 0x64, 0x323),
    (0x1e0f, 0x64, 0x331), (0x1e11, 0x64, 0x327), (0x1e13, 0x64, 0x32d),
    (0x1e15, 0x113, 0x300), (0x1e17, 0x113, 0x301), (0x1e19, 0x65, 0x32d),
    (0x1e1b, 0x65, 0x330), (0x1e1d, 0x229, 0x306), (0x1e1f, 0x66, 0x307),
    (0x1e21, 0x67, 0x304), (0x1e23, 0x68, 0x307), (0x1e25, 0x68, 0x323),
    (0x1e27, 0x68, 0x308), (0x1e29, 0x68, 0x327), (0x1e2b, 0x68, 0x32e),
    (0x1e2d, 0x69, 0x330), (0x1e2f, 0xef, 0x301), (0x1e31, 0x6b, 0x301),
    (0x1e33, 0x6b, 0x323), (0x1e35, 0x6b, 0x331), (0x1e37, 0x6c, 0x323),
    (0x1e39, 0x1e37, 0x304), (0x1e3b, 0x6c, 0x331), (0x1e3d, 0x6c, 0x32d),
    (0x1e3f, 0x6d, 0x301), (0x1e41, 0x6d, 0x307), (0x1e43, 0x6d, 0x323),
    (0x1e45, 0x6e, 0x307), (0x1e47, 0x6e, 0x323), (0x1e49, 0x6e, 0x331),
    (0x1e4b, 0x6e, 0x32d), (0x1e4d, 0xf5, 0x301), (0x1e4f, 0xf5, 0x308),
    (0x1e51, 0x14d, 0x300), (0x1e53, 0x14d, 0x301)]

def compositions2 : List (Nat × Nat × Nat) :=
  [(0x1e55, 0x70, 0x301), (0x1e57, 0x70, 0x307), (0x1e59, 0x72, 0x307),
    (0x1e5b, 0x72, 0x323), (0x1e5d, 0x1e5b, 0x304), (0x1e5f, 0x72, 0x331),
    (0x1e61, 0x73, 0x307), (0x1e63, 0x73, 0x323), (0x1e65, 0x15b, 0x307),
    (0x1e67, 0x161, 0x307), (0x1e69, 0x1e63, 0x307), (0x1e6b, 0x74, 0x307),
    (0x1e6d, 0x74, 0x323), (0x1e6f, 0x74, 0x331), (0x1e71, 0x74, 0x32d),
    (0x1e73, 0x75, 0x324), (0x1e75, 0x75, 0x330), (0x1e77, 0x75, 0x32d),
    (0x1e79, 0x169, 0x301), (0x1e7b, 0x16b, 0x308), (0x1e7d, 0x76, 0x303),
    (0x1e7f, 0x76, 0x323), (0x1e81, 0x77, 0x300), (0x1e83, 0x77, 0x301),
    (0x1e85, 0x77, 0x308), (0x1e87, 0x77, 0x307), (0x1e89, 0x77, 0x323),
    (0x1e8b, 0x78, 0x307), (0x1e8d, 0x78, 0x308), (0x1e8f, 0x79, 0x307),
    (0x1e91, 0x7a, 0x302), (0x1e93, 0x7a, 0x323), (0x1e95, 0x7a, 0x331),
    (0x1e96, 0x68, 0x331), (0x1e97, 0x74, 0x308), (0x1e98, 0x77, 0x30a),
    (0x1e99, 0x79, 0x30a), (0x1ea1, 0x61, 0x323), (0x1ea3, 0x61, 0x309),
    (0x1ea5, 0xe2, 0x301), (0x1ea7, 0xe2, 0x300), (0x1ea9, 0xe2, 0x309),
    (0x1eab, 0xe2, 0x303), (0x1ead, 0x1ea1, 0x302), (0x1eaf, 0x103, 0x301),
    (0x1eb1, 0x103, 0x300), (0x1eb3, 0x103, 0x309), (0x1eb5, 0x103, 0x303),
    (0x1eb7, 0x1ea1, 0x306), (0x1eb9, 0x65, 0x323), (0x1ebb, 0x65, 0x309),
    (0x1ebd, 0x65, 0x303), (0x1ebf, 0xea, 0x301), (0x1ec1, 0xea, 0x300),
    (0x1ec3, 0xea, 0x309), (0x1ec5, 0xea, 0x303), (0x1ec7, 0x1eb9, 0x302),
    (0x1ec9, 0x69, 0x309), (0x1ecb, 0x69, 0x323), (0x1ecd, 0x6f, 0x323),
    (0x1ecf, 0x6f, 0x309), (0x1ed1, 0xf4, 0x301), (0x1ed3, 0xf4, 0x300),
    (0x1ed5, 0xf4, 0x309), (0x1ed7, 0xf4, 0x303), (0x1ed9, 0x1ecd, 0x302),
    (0x1edb, 0x1a1, 0x301), (0x1edd, 0x1a1, 0x300), (0x1edf, 0x1a1, 0x309),
    (0x1ee1, 0x1a1, 0x303), (0x1ee3, 0x1a1, 0x323), (0x1ee5, 0x75, 0x323),
    (0x1ee7, 0x75, 0x309), (0x1ee9, 0x1b0, 0x301), (0x1eeb, 0x1b0, 0x300),
    (0x1eed, 0x1b0, 0x309), (0x1eef, 0x1b0, 0x303), (0x1ef1, 0x1b0, 0x323),
    (0x1ef3, 0x79, 0x300), (0x1ef5, 0x79, 0x323), (0x1ef7, 0x79, 0x309),
    (0x1ef9, 0x79, 0x303), (0x1f00, 0x3b1, 0x313), (0x1f01, 0x3b1, 0x314),
    (0x1f02, 0x1f00, 0x300), (0x1f03, 0x1f01, 0x300), (0x1f04, 0x1f00, 0x301),
    (0x1f05, 0x1f01, 0x301), (0x1f06, 0x1f00, 0x342), (0x1f07, 0x1f01, 0x342),
    (0x1f10, 0x3b5, 0x313), (0x1f11, 0x3b5, 0x314), (0x1f12, 0x1f10, 0x300),
    (0x1f13, 0x1f11, 0x300), (0x1f14, 0x1f10, 0x301), (0x1f15, 0x1f11, 0x301),
    (0x1f20, 0x3b7, 0x313), (0x1f21, 0x3b7, 0x314), (0x1f22, 0x1f20, 0x300),
    (0x1f23, 0x1f21, 0x300), (0x1f24, 0x1f20, 0x301), (0x1f25, 0x1f21, 0x301),
    (0x1f26, 0x1f20, 0x342), (0x1f27, 0x1f21, 0x342), (0x1f30, 0x3b9, 0x313),
    (0x1f31, 0x3b9, 0x314), (0x1f32, 0x1f30, 0x300), (0x1f33, 0x1f31, 0x300),
    (0x1f34, 0x1f30, 0x301), (0x1f35, 0x1f31, 0x301), (0x1f36, 0x1f30, 0x342),
    (0x1f37, 0x1f31, 0x342), (0x1f40, 0x3bf, 0x313), (0x1f41, 0x3bf, 0x314),
    (0x1f42, 0x1f40, 0x300), (0x1f43, 0x1f41, 0x300), (0x1f44, 0x1f40, 0x301),
    (0x1f45, 0x1f41, 0x301), (0x1f50, 0x3c5, 0x313), (0x1f51, 0x3c5, 0x314),
    (0x1f52, 0x1f50, 0x300), (0x1f53, 0x1f51, 0x300), (0x1f54, 0x1f50, 0x301),
    (0x1f55, 0x1f51, 0x301), (0x1f56, 0x1f50, 0x342), (0x1f57, 0x1f51, 0x342),
    (0x1f60, 0x3c9, 0x313), (0x1f61, 0x3c9, 0x314), (0x1f62, 0x1f60, 0x300),
    (0x1f63, 0x1f61, 0x300), (0x1f64, 0x1f60, 0x301), (0x1f65, 0x1f61, 0x301),
    (0x1f66, 0x1f60, 0x342), (0x1f67, 0x1f61, 0x342), (0x1f70, 0x3b1, 0x300),
    (0x1f72, 0x3b5, 0x300), (0x1f74, 0x3b7, 0x300), (0x1f76, 0x3b9, 0x300),
    (0x1f78, 0x3bf, 0x300), (0x1f7a, 0x3c5, 0x300), (0x1f7c, 0x3c9, 0x300),
    (0x1fb0, 0x3b1, 0x306), (0x1fb1, 0x3b1, 0x304), (0x1fb6, 0x3b1, 0x342),
    (0x1fc6, 0x3b7, 0x342), (0x1fd0, 0x3b9, 0x306), (0x1fd1, 0x3b9, 0x304),
    (0x1fd2, 0x3ca, 0x300), (0x1fd6, 0x3b9, 0x342), (0x1fd7, 0x3ca, 0x342),
    (0x1fe0, 0x3c5, 0x306), (0x1fe1, 0x3c5, 0x304), (0x1fe2, 0x3cb, 0x300),
    (0x1fe4, 0x3c1, 0x313), (0x1fe5, 0x3c1, 0x314), (0x1fe6, 0x3c5, 0x342),
    (0x1fe7, 0x3cb, 0x342), (0x1ff6, 0x3c9, 0x342), (0x219a, 0x2190, 0x338),
    (0x219b, 0x2192, 0x338), (0x21ae, 0x2194, 0x338), (0x21cd, 0x21d0, 0x338),
    (0x21ce, 0x21d4, 0x338), (0x21cf, 0x21d2, 0x338), (0x2204, 0x2203, 0x338),
    (0x2209, 0x2208, 0x338), (0x220c, 0x220b, 0x338), (0x2224, 0x2223, 0x338),
    (0x2226, 0x2225, 0x338), (0x2241, 0x223c, 0x338), (0x2244, 0x2243, 0x338),
    (0x2247, 0x2245, 0x338), (0x2249, 0x2248, 0x338), (0x2260, 0x3d, 0x338),
    (0x2262, 0x2261, 0x338), (0x226d, 0x224d, 0x338), (0x226e, 0x3c, 0x338),
    (0x226f, 0x3e, 0x338), (0x2270, 0x2264, 0x338), (0x2271, 0x2265, 0x338),
    (0x2274, 0x2272, 0x338), (0x2275, 0x2273, 0x338), (0x2278, 0x2276, 0x338),
    (0x2279, 0x2277, 0x338), (0x2280, 0x227a, 0x338), (0x2281, 0x227b, 0x338),
    (0x2284, 0x2282, 0x338), (0x2285, 0x2283, 0x338), (0x2288, 0x2286, 0x338),
    (0x2289, 0x2287, 0x338), (0x22ac, 0x22a2, 0x338), (0x22ad, 0x22a8, 0x338),
    (0x22ae, 0x22a9, 0x338), (0x22af, 0x22ab, 0x338), (0x22e0, 0x227c, 0x338),
    (0x22e1, 0x227d, 0x338), (0x22e2, 0x2291, 0x338), (0x22e3, 0x2292, 0x338),
    (0x22ea, 0x22b2, 0x338), (0x22eb, 0x22b3, 0x338), (0x22ec, 0x22b4, 0x338),
    (0x22ed, 0x22b5, 0x338), (0x304c, 0x304b, 0x3099), (0x304e, 0x304d, 0x3099),
    (0x3050, 0x304f, 0x3099), (0x3052, 0x3051, 0x3099),
    (0x3054, 0x3053, 0x3099), (0x3056, 0x3055, 0x3099),
    (0x3058, 0x3057, 0x3099), (0x305a, 0x3059, 0x3099),
    (0x305c, 0x305b, 0x3099), (0x305e, 0x305d, 0x3099),
    (0x3060, 0x305f, 0x3099), (0x3062, 0x3061, 0x3099),
    (0x3065, 0x3064, 0x3099), (0x3067, 0x3066, 0x3099),
    (0x3069, 0x3068, 0x3099), (0x3070, 0x306f, 0x3099),
    (0x3071, 0x306f, 0x309a), (0x3073, 0x3072, 0x3099),
    (0x3074, 0x3072, 0x309a), (0x3076, 0x3075, 0x3099),
    (0x3077, 0x3075, 0x309a), (0x3079, 0x3078, 0x3099),
    (0x307a, 0x3078, 0x309a), (0x307c, 0x307b, 0x3099),
    (0x307d, 0x307b, 0x309a), (0x3094, 0x3046, 0x3099),
    (0x309e, 0x309d, 0x3099), (0x30ac, 0x30ab, 0x3099),
    (0x30ae, 0x30ad, 0x3099), (0x30b0, 0x30af, 0x3099),
    (0x30b2, 0x30b1, 0x3099), (0x30b4, 0x30b3, 0x3099),
    (0x30b6, 0x30b5, 0x3099), (0x30b8, 0x30b7, 0x3099),
    (0x30ba, 0x30b9, 0x3099), (0x30bc, 0x30bb, 0x3099),
    (0x30be, 0x30bd, 0x3099), (0x30c0, 0x30bf, 0x3099),
    (0x30c2, 0x30c1, 0x3099), (0x30c5, 0x30c4, 0x3099),
    (0x30c7, 0x30c6, 0x3099), (0x30c9, 0x30c8, 0x3099),
    (0x30d0, 0x30cf, 0x3099), (0x30d1, 0x30cf, 0x309a),
    (0x30d3, 0x30d2, 0x3099), (0x30d4, 0x30d2, 0x309a),
    (0x30d6, 0x30d5, 0x3099), (0x30d7, 0x30d5, 0x309a)]

def compositions3 : List (Nat × Nat × Nat) :=
  [(0x30d9, 0x30d8, 0x3099), (0x30da, 0x30d8, 0x309a), (0x30dc, 0x30db, 0x3099),
    (0x30dd, 0x30db, 0x309a), (0x30f4, 0x30a6, 0x3099),
    (0x30f7, 0x30ef, 0x3099), (0x30f8, 0x30f0, 0x3099),
    (0x30f9, 0x30f1, 0x3099), (0x30fa, 0x30f2, 0x3099),
    (0x30fe, 0x30fd, 0x3099), (0x1109a, 0x11099, 0x110ba),
    (0x1109c, 0x1109b, 0x110ba), (0x110ab, 0x110a5, 0x110ba),
    (0x1112e, 0x11131, 0x11127), (0x1112f, 0x11132, 0x11127),
    (0x1134b, 0x11347, 0x1133e), (0x1134c, 0x11347, 0x11357),
    (0x114bb, 0x114b9, 0x114ba), (0x114bc, 0x114b9, 0x114b0),
    (0x114be, 0x114b9, 0x114bd), (0x115ba, 0x115b8, 0x115af),
    (0x115bb, 0x115b9, 0x115af), (0x11938, 0x11935, 0x11930)]

/-- Composed characters, each with the two that it is composed of. -/
def compositions : List (Nat × Nat × Nat) :=
  compositions1 ++ compositions2 ++ compositions3

def combiningClasses1 : List (Nat × Nat × Nat) :=
  [(0x300, 21, 230), (0x315, 1, 232), (0x316, 4, 220), (0x31a, 1, 232),
    (0x31b, 1, 216), (0x31c, 5, 220), (0x321, 2, 202), (0x323, 4, 220),
    (0x327, 2, 202), (0x329, 11, 220), (0x334, 5, 1), (0x339, 4, 220),
    (0x33d, 3, 230), (0x342, 1, 230), (0x346, 1, 230), (0x347, 3, 220),
    (0x34a, 3, 230), (0x34d, 2, 220), (0x350, 3, 230), (0x353, 4, 220),
    (0x357, 1, 230), (0x358, 1, 232), (0x359, 2, 220), (0x35b, 1, 230),
    (0x35c, 1, 233), (0x35d, 2, 234), (0x35f, 1, 233), (0x360, 2, 234),
    (0x362, 1, 233), (0x363, 13, 230), (0x483, 5, 230), (0x591, 1, 220),
    (0x592, 4, 230), (0x596, 1, 220), (0x597, 3, 230), (0x59a, 1, 222),
    (0x59b, 1, 220), (0x59c, 6, 230), (0x5a2, 6, 220), (0x5a8, 2, 230),
    (0x5aa, 1, 220), (0x5ab, 2, 230), (0x5ad, 1, 222), (0x5ae, 1, 228),
    (0x5af, 1, 230), (0x5b0, 1, 10), (0x5b1, 1, 11), (0x5b2, 1, 12),
    (0x5b3, 1, 13), (0x5b4, 1, 14), (0x5b5, 1, 15), (0x5b6, 1, 16),
    (0x5b7, 1, 17), (0x5b8, 1, 18), (0x5b9, 2, 19), (0x5bb, 1, 20),
    (0x5bc, 1, 21), (0x5bd, 1, 22), (0x5bf, 1, 23), (0x5c1, 1, 24),
    (0x5c2, 1, 25), (0x5c4, 1, 230), (0x5c5, 1, 220), (0x5c7, 1, 18),
    (0x610, 8, 230), (0x618, 1, 30), (0x619, 1, 31), (0x61a, 1, 32),
    (0x64b, 1, 27), (0x64c, 1, 28), (0x64d, 1, 29), (0x64e, 1, 30),
    (0x64f, 1, 31), (0x650, 1, 32), (0x651, 1, 33), (0x652, 1, 34),
    (0x653, 2, 230), (0x655, 2, 220), (0x657, 5, 230), (0x65c, 1, 220),
    (0x65d, 2, 230), (0x65f, 1, 220), (0x670, 1, 35), (0x6d6, 7, 230),
    (0x6df, 4, 230), (0x6e3, 1, 220), (0x6e4, 1, 230), (0x6e7, 2, 230),
    (0x6ea, 1, 220), (0x6eb, 2, 230), (0x6ed, 1, 220), (0x711, 1, 36),
    (0x730, 1, 230), (0x731, 1, 220), (0x732, 2, 230), (0x734, 1, 220),
    (0x735, 2, 230), (0x737, 3, 220), (0x73a, 1, 230), (0x73b, 2, 220),
    (0x73d, 1, 230), (0x73e, 1, 220), (0x73f, 3, 230), (0x742, 1, 220),
    (0x743, 1, 230), (0x744, 1, 220), (0x745, 1, 230), (0x746, 1, 220),
    (0x747, 1, 230), (0x748, 1, 220), (0x749, 2, 230), (0x7eb, 7, 230),
    (0x7f2, 1, 220), (0x7f3, 1, 230), (0x7fd, 1, 220), (0x816, 4, 230),
    (0x81b, 9, 230), (0x825, 3, 230), (0x829, 5, 230), (0x859, 3, 220),
    (0x898, 1, 230), (0x899, 3, 220), (0x89c, 4, 230), (0x8ca, 5, 230),
    (0x8cf, 5, 220), (0x8d4, 14, 230), (0x8e3, 1, 220), (0x8e4, 2, 230),
    (0x8e6, 1, 220), (0x8e7, 2, 230), (0x8e9, 1, 220), (0x8ea, 3, 230),
    (0x8ed, 3, 220), (0x8f0, 1, 27), (0x8f1, 1, 28), (0x8f2, 1, 29),
    (0x8f3, 3, 230), (0x8f6, 1, 220), (0x8f7, 2, 230), (0x8f9, 2, 220),
    (0x8fb, 5, 230), (0x93c, 1, 7), (0x94d, 1, 9), (0x951, 1, 230),
    (0x952, 1, 220), (0x953, 2, 230), (0x9bc, 1, 7), (0x9cd, 1, 9),
    (0x9fe, 1, 230), (0xa3c, 1, 7), (0xa4d, 1, 9), (0xabc, 1, 7), (0xacd, 1, 9),
    (0xb3c, 1, 7), (0xb4d, 1, 9), (0xbcd, 1, 9), (0xc3c, 1, 7), (0xc4d, 1, 9),
    (0xc55, 1, 84), (0xc56, 1, 91), (0xcbc, 1, 7), (0xccd, 1, 9), (0xd3b, 2, 9),
    (0xd4d, 1, 9), (0xdca, 1, 9), (0xe38, 2, 103), (0xe3a, 1, 9),
    (0xe48, 4, 107), (0xeb8, 2, 118), (0xeba, 1, 9), (0xec8, 4, 122),
    (0xf18, 2, 220), (0xf35, 1, 220), (0xf37, 1, 220), (0xf39, 1, 216),
    (0xf71, 1, 129), (0xf72, 1, 130), (0xf74, 1, 132), (0xf7a, 4, 130),
    (0xf80, 1, 130), (0xf82, 2, 230), (0xf84, 1, 9), (0xf86, 2, 230),
    (0xfc6, 1, 220), (0x1037, 1, 7), (0x1039, 2, 9), (0x108d, 1, 220),
    (0x135d, 3, 230), (0x1714, 2, 9), (0x1734, 1, 9), (0x17d2, 1, 9),
    (0x17dd, 1, 230), (0x18a9, 1, 228), (0x1939, 1, 222), (0x193a, 1, 230),
    (0x193b, 1, 220), (0x1a17, 1, 230), (0x1a18, 1, 220), (0x1a60, 1, 9),
    (0x1a75, 8, 230), (0x1a7f, 1, 220), (0x1ab0, 5, 230), (0x1ab5, 6, 220),
    (0x1abb, 2, 230), (0x1abd, 1, 220), (0x1abf, 2, 220), (0x1ac1, 2, 230),
    (0x1ac3, 2, 220), (0x1ac5, 5, 230), (0x1aca, 1, 220), (0x1acb, 4, 230),
    (0x1b34, 1, 7), (0x1b44, 1, 9), (0x1b6b, 1, 230), (0x1b6c, 1, 220),
    (0x1b6d, 7, 230), (0x1baa, 2, 9), (0x1be6, 1, 7), (0x1bf2, 2, 9),
    (0x1c37, 1, 7), (0x1cd0, 3, 230), (0x1cd4, 1, 1), (0x1cd5, 5, 220),
    (0x1cda, 2, 230), (0x1cdc, 4, 220), (0x1ce0, 1, 230), (0x1ce2, 7, 1),
    (0x1ced, 1, 220), (0x1cf4, 1, 230), (0x1cf8, 2, 230), (0x1dc0, 2, 230),
    (0x1dc2, 1, 220), (0x1dc3, 7, 230), (0x1dca, 1, 220), (0x1dcb, 2, 230),
    (0x1dcd, 1, 234), (0x1dce, 1, 214), (0x1dcf, 1, 220), (0x1dd0, 1, 202),
    (0x1dd1, 37, 230), (0x1df6, 1, 232), (0x1df7, 2, 228), (0x1df9, 1, 220),
    (0x1dfa, 1, 218), (0x1dfb, 1, 230), (0x1dfc, 1, 233), (0x1dfd, 1, 220),
    (0x1dfe, 1, 230), (0x1dff, 1, 220), (0x20d0, 2, 230)]

def combiningClasses2 : List (Nat × Nat × Nat) :=
  [(0x20d2, 2, 1), (0x20d4, 4, 230), (0x20d8, 3, 1), (0x20db, 2, 230),
    (0x20e1, 1, 230), (0x20e5, 2, 1), (0x20e7, 1, 230), (0x20e8, 1, 220),
    (0x20e9, 1, 230), (0x20ea, 2, 1), (0x20ec, 4, 220), (0x20f0, 1, 230),
    (0x2cef, 3, 230), (0x2d7f, 1, 9), (0x2de0, 32, 230), (0x302a, 1, 218),
    (0x302b, 1, 228), (0x302c, 1, 232), (0x302d, 1, 222), (0x302e, 2, 224),
    (0x3099, 2, 8), (0xa66f, 1, 230), (0xa674, 10, 230), (0xa69e, 2, 230),
    (0xa6f0, 2, 230), (0xa806, 1, 9), (0xa82c, 1, 9), (0xa8c4, 1, 9),
    (0xa8e0, 18, 230), (0xa92b, 3, 220), (0xa953, 1, 9), (0xa9b3, 1, 7),
    (0xa9c0, 1, 9), (0xaab0, 1, 230), (0xaab2, 2, 230), (0xaab4, 1, 220),
    (0xaab7, 2, 230), (0xaabe, 2, 230), (0xaac1, 1, 230), (0xaaf6, 1, 9),
    (0xabed, 1, 9), (0xfb1e, 1, 26), (0xfe20, 7, 230), (0xfe27, 7, 220),
    (0xfe2e, 2, 230), (0x101fd, 1, 220), (0x102e0, 1, 220), (0x10376, 5, 230),
    (0x10a0d, 1, 220), (0x10a0f, 1, 230), (0x10a38, 1, 230), (0x10a39, 1, 1),
    (0x10a3a, 1, 220), (0x10a3f, 1, 9), (0x10ae5, 1, 230), (0x10ae6, 1, 220),
    (0x10d24, 4, 230), (0x10eab, 2, 230), (0x10f46, 2, 220), (0x10f48, 3, 230),
    (0x10f4b, 1, 220), (0x10f4c, 1, 230), (0x10f4d, 4, 220), (0x10f82, 1, 230),
    (0x10f83, 1, 220), (0x10f84, 1, 230), (0x10f85, 1, 220), (0x11046, 1, 9),
    (0x11070, 1, 9), (0x1107f, 1, 9), (0x110b9, 1, 9), (0x110ba, 1, 7),
    (0x11100, 3, 230), (0x11133, 2, 9), (0x11173, 1, 7), (0x111c0, 1, 9),
    (0x111ca, 1, 7), (0x11235, 1, 9), (0x11236, 1, 7), (0x112e9, 1, 7),
    (0x112ea, 1, 9), (0x1133b, 2, 7), (0x1134d, 1, 9), (0x11366, 7, 230),
    (0x11370, 5, 230), (0x11442, 1, 9), (0x11446, 1, 7), (0x1145e, 1, 230),
    (0x114c2, 1, 9), (0x114c3, 1, 7), (0x115bf, 1, 9), (0x115c0, 1, 7),
    (0x1163f, 1, 9), (0x116b6, 1, 9), (0x116b7, 1, 7), (0x1172b, 1, 9),
    (0x11839, 1, 9), (0x1183a, 1, 7), (0x1193d, 2, 9), (0x11943, 1, 7),
    (0x119e0, 1, 9), (0x11a34, 1, 9), (0x11a47, 1, 9), (0x11a99, 1, 9),
    (0x11c3f, 1, 9), (0x11d42, 1, 7), (0x11d44, 2, 9), (0x11d97, 1, 9),
    (0x16af0, 5, 1), (0x16b30, 7, 230), (0x16ff0, 2, 6), (0x1bc9e, 1, 1),
    (0x1d165, 2, 216), (0x1d167, 3, 1), (0x1d16d, 1, 226), (0x1d16e, 5, 216),
    (0x1d17b, 8, 220), (0x1d185, 5, 230), (0x1d18a, 2, 220), (0x1d1aa, 4, 230),
    (0x1d242, 3, 230), (0x1e000, 7, 230), (0x1e008, 17, 230), (0x1e01b, 7, 230),
    (0x1e023, 2, 230), (0x1e026, 5, 230), (0x1e130, 7, 230), (0x1e2ae, 1, 230),
    (0x1e2ec, 4, 230), (0x1e8d0, 7, 220), (0x1e944, 6, 230), (0x1e94a, 1, 7)]

/-- Combining marks with their classes. -/
def combiningClasses : List (Nat × Nat × Nat) :=
  combiningClasses1 ++ combiningClasses2

/-- The marks: how many code points to pass over and to take, in turns, from
0x80 on. -/
def markRuns : List Nat :=
  [640, 64, 2, 1, 3, 9, 1, 32, 275, 7, 263, 45, 1, 1, 1, 2, 1, 2, 1, 1, 72, 11,
    48, 21, 16, 1, 101, 7, 2, 6, 2, 2, 1, 4, 35, 1, 30, 27, 91, 11, 58, 9, 9, 1,
    24, 4, 1, 9, 1, 3, 1, 5, 43, 3, 60, 8, 42, 24, 1, 33, 54, 3, 1, 18, 1, 7,
    10, 2, 29, 3, 56, 1, 1, 7, 2, 2, 2, 3, 9, 1, 10, 2, 26, 1, 2, 3, 56, 1, 1,
    5, 4, 2, 2, 3, 3, 1, 30, 2, 3, 1, 11, 3, 56, 1, 1, 8, 1, 3, 1, 3, 20, 2, 22,
    6, 1, 3, 56, 1, 1, 7, 2, 2, 2, 3, 7, 3, 10, 2, 30, 1, 59, 5, 3, 3, 1, 4, 9,
    1, 40, 5, 55, 1, 1, 7, 1, 3, 1, 4, 7, 2, 11, 2, 29, 3, 56, 1, 1, 7, 1, 3, 1,
    4, 7, 2, 11, 2, 28, 4, 55, 2, 1, 7, 1, 3, 1, 4, 9, 1, 10, 2, 29, 3, 70, 1,
    4, 6, 1, 1, 1, 8, 18, 2, 61, 1, 2, 7, 12, 8, 98, 1, 2, 9, 11, 6, 74, 2, 27,
    1, 1, 1, 1, 1, 4, 2, 49, 2, 1, 1, 5, 7, 1, 3, 1, 2, 5, 6, 1, 4, 1, 4, 1, 4,
    1, 4, 1, 4, 1, 12, 1, 3, 9, 1, 100, 20, 23, 4, 4, 3, 1, 3, 2, 7, 3, 4, 13,
    12, 1, 1, 10, 4, 703, 3, 946, 4, 28, 3, 29, 2, 30, 2, 66, 30, 9, 1, 167, 2,
    34, 1, 118, 12, 4, 12, 219, 5, 57, 10, 1, 29, 2, 1, 48, 31, 49, 5, 47, 17,
    38, 9, 12, 3, 30, 13, 56, 14, 48, 20, 152, 3, 1, 21, 4, 1, 6, 1, 2, 3, 198,
    64, 720, 33, 3070, 3, 141, 1, 96, 32, 554, 6, 105, 2, 30164, 4, 1, 10, 32,
    2, 80, 2, 272, 1, 3, 1, 4, 1, 23, 5, 4, 1, 83, 2, 50, 18, 26, 18, 13, 1, 38,
    8, 25, 13, 44, 4, 47, 14, 36, 1, 67, 14, 12, 1, 8, 2, 45, 3, 50, 1, 1, 3, 2,
    2, 5, 2, 1, 1, 41, 5, 5, 2, 236, 8, 1, 2, 20272, 1, 769, 16, 973, 1, 226, 1,
    149, 5, 1670, 3, 1, 2, 5, 4, 40, 3, 4, 1, 165, 2, 573, 4, 387, 2, 153, 11,
    49, 4, 122, 3, 53, 15, 41, 1, 2, 2, 10, 4, 45, 11, 7, 1, 61, 3, 36, 14, 16,
    2, 44, 1, 12, 3, 48, 14, 8, 4, 1, 2, 92, 12, 6, 1, 160, 12, 21, 4, 55, 2, 1,
    7, 2, 2, 2, 3, 9, 1, 10, 2, 2, 7, 3, 5, 192, 18, 23, 1, 81, 20, 235, 7, 2,
    9, 27, 2, 82, 17, 106, 13, 101, 15, 256, 15, 245, 6, 1, 2, 2, 4, 1, 1, 1, 2,
    141, 7, 2, 7, 3, 1, 28, 10, 40, 7, 1, 4, 8, 1, 9, 11, 46, 16, 405, 8, 1, 8,
    82, 22, 1, 14, 122, 6, 3, 1, 1, 2, 1, 7, 1, 1, 66, 5, 1, 2, 1, 5, 347, 4,
    19449, 5, 59, 7, 1048, 1, 1, 55, 7, 4, 81, 1, 11, 2, 19627, 2, 4705, 46, 2,
    23, 542, 5, 3, 6, 8, 8, 2, 7, 30, 4, 148, 3, 1979, 55, 4, 50, 8, 1, 14, 1,
    22, 5, 1, 15, 1360, 7, 1, 17, 2, 7, 1, 2, 1, 5, 261, 7, 375, 1, 61, 4, 1504,
    7, 109, 7]

def directionRuns1 : List (Nat × Nat × Char) :=
  [(0xa1, 1, 'O'), (0xa2, 4, 'T'), (0xa6, 2, 'O'), (0xa9, 1, 'O'),
    (0xab, 2, 'O'), (0xae, 1, 'O'), (0xb0, 2, 'T'), (0xb6, 2, 'O'),
    (0xbb, 1, 'O'), (0xbf, 1, 'O'), (0xd7, 1, 'O'), (0xf7, 1, 'O'),
    (0x2b9, 2, 'O'), (0x2c2, 14, 'O'), (0x2d2, 6, 'O'), (0x2de, 2, 'O'),
    (0x2e5, 9, 'O'), (0x2ef, 17, 'O'), (0x300, 64, 'M'), (0x342, 1, 'M'),
    (0x346, 9, 'M'), (0x350, 32, 'M'), (0x375, 1, 'O'), (0x3f6, 1, 'O'),
    (0x483, 7, 'M'), (0x58a, 1, 'O'), (0x58d, 2, 'O'), (0x58f, 1, 'T'),
    (0x591, 45, 'M'), (0x5be, 1, 'R'), (0x5bf, 1, 'M'), (0x5c0, 1, 'R'),
    (0x5c1, 2, 'M'), (0x5c3, 1, 'R'), (0x5c4, 2, 'M'), (0x5c6, 1, 'R'),
    (0x5c7, 1, 'M'), (0x5d0, 27, 'R'), (0x5ef, 6, 'R'), (0x606, 2, 'O'),
    (0x608, 1, 'A'), (0x609, 2, 'T'), (0x60b, 1, 'A'), (0x60c, 1, 'C'),
    (0x60d, 1, 'A'), (0x60e, 2, 'O'), (0x610, 11, 'M'), (0x61b, 1, 'A'),
    (0x61d, 46, 'A'), (0x64b, 21, 'M'), (0x660, 10, 'N'), (0x66a, 1, 'T'),
    (0x66b, 2, 'N'), (0x66d, 3, 'A'), (0x670, 1, 'M'), (0x671, 4, 'A'),
    (0x679, 93, 'A'), (0x6d6, 7, 'M'), (0x6de, 1, 'O'), (0x6df, 6, 'M'),
    (0x6e5, 2, 'A'), (0x6e7, 2, 'M'), (0x6e9, 1, 'O'), (0x6ea, 4, 'M'),
    (0x6ee, 2, 'A'), (0x6f0, 10, 'E'), (0x6fa, 20, 'A'), (0x710, 1, 'A'),
    (0x711, 1, 'M'), (0x712, 30, 'A'), (0x730, 27, 'M'), (0x74d, 89, 'A'),
    (0x7a6, 11, 'M'), (0x7b1, 1, 'A'), (0x7c0, 43, 'R'), (0x7eb, 9, 'M'),
    (0x7f4, 2, 'R'), (0x7f6, 4, 'O'), (0x7fa, 1, 'R'), (0x7fd, 1, 'M'),
    (0x7fe, 24, 'R'), (0x816, 4, 'M'), (0x81a, 1, 'R'), (0x81b, 9, 'M'),
    (0x824, 1, 'R'), (0x825, 3, 'M'), (0x828, 1, 'R'), (0x829, 5, 'M'),
    (0x830, 15, 'R'), (0x840, 25, 'R'), (0x859, 3, 'M'), (0x85e, 1, 'R'),
    (0x860, 11, 'A'), (0x870, 31, 'A'), (0x898, 8, 'M'), (0x8a0, 42, 'A'),
    (0x8ca, 24, 'M'), (0x8e3, 32, 'M'), (0x93a, 1, 'M'), (0x93c, 1, 'M'),
    (0x941, 8, 'M'), (0x94d, 1, 'M'), (0x951, 7, 'M'), (0x962, 2, 'M'),
    (0x981, 1, 'M'), (0x9bc, 1, 'M'), (0x9c1, 4, 'M'), (0x9cd, 1, 'M'),
    (0x9e2, 2, 'M'), (0x9f2, 2, 'T'), (0x9fb, 1, 'T'), (0x9fe, 1, 'M'),
    (0xa01, 2, 'M'), (0xa3c, 1, 'M'), (0xa41, 2, 'M'), (0xa47, 2, 'M'),
    (0xa4b, 3, 'M'), (0xa51, 1, 'M'), (0xa70, 2, 'M'), (0xa75, 1, 'M'),
    (0xa81, 2, 'M'), (0xabc, 1, 'M'), (0xac1, 5, 'M'), (0xac7, 2, 'M'),
    (0xacd, 1, 'M'), (0xae2, 2, 'M'), (0xaf1, 1, 'T'), (0xafa, 6, 'M'),
    (0xb01, 1, 'M'), (0xb3c, 1, 'M'), (0xb3f, 1, 'M'), (0xb41, 4, 'M'),
    (0xb4d, 1, 'M'), (0xb55, 2, 'M'), (0xb62, 2, 'M'), (0xb82, 1, 'M'),
    (0xbc0, 1, 'M'), (0xbcd, 1, 'M'), (0xbf3, 6, 'O'), (0xbf9, 1, 'T'),
    (0xbfa, 1, 'O'), (0xc00, 1, 'M'), (0xc04, 1, 'M'), (0xc3c, 1, 'M'),
    (0xc3e, 3, 'M'), (0xc46, 3, 'M'), (0xc4a, 4, 'M'), (0xc55, 2, 'M'),
    (0xc62, 2, 'M'), (0xc78, 7, 'O'), (0xc81, 1, 'M'), (0xcbc, 1, 'M'),
    (0xccc, 2, 'M'), (0xce2, 2, 'M'), (0xd00, 2, 'M'), (0xd3b, 2, 'M'),
    (0xd41, 4, 'M'), (0xd4d, 1, 'M'), (0xd62, 2, 'M'), (0xd81, 1, 'M'),
    (0xdca, 1, 'M'), (0xdd2, 3, 'M'), (0xdd6, 1, 'M'), (0xe31, 1, 'M'),
    (0xe34, 7, 'M'), (0xe3f, 1, 'T'), (0xe47, 8, 'M'), (0xeb1, 1, 'M'),
    (0xeb4, 9, 'M'), (0xec8, 6, 'M'), (0xf18, 2, 'M'), (0xf35, 1, 'M'),
    (0xf37, 1, 'M'), (0xf39, 1, 'M'), (0xf3a, 4, 'O'), (0xf71, 2, 'M'),
    (0xf74, 1, 'M'), (0xf7a, 5, 'M'), (0xf80, 1, 'M'), (0xf82, 3, 'M'),
    (0xf86, 2, 'M'), (0xf8d, 6, 'M'), (0xf94, 4, 'M'), (0xf99, 4, 'M'),
    (0xf9e, 4, 'M'), (0xfa3, 4, 'M'), (0xfa8, 4, 'M'), (0xfad, 12, 'M'),
    (0xfba, 3, 'M'), (0xfc6, 1, 'M'), (0x102d, 4, 'M'), (0x1032, 6, 'M'),
    (0x1039, 2, 'M'), (0x103d, 2, 'M'), (0x1058, 2, 'M'), (0x105e, 3, 'M'),
    (0x1071, 4, 'M'), (0x1082, 1, 'M'), (0x1085, 2, 'M'), (0x108d, 1, 'M'),
    (0x109d, 1, 'M'), (0x135d, 3, 'M'), (0x1390, 10, 'O'), (0x1400, 1, 'O'),
    (0x169b, 2, 'O'), (0x1712, 3, 'M'), (0x1732, 2, 'M'), (0x1752, 2, 'M'),
    (0x1772, 2, 'M'), (0x17b7, 7, 'M'), (0x17c6, 1, 'M'), (0x17c9, 11, 'M'),
    (0x17db, 1, 'T'), (0x17dd, 1, 'M'), (0x17f0, 10, 'O'), (0x1800, 11, 'O'),
    (0x1885, 2, 'M'), (0x18a9, 1, 'M'), (0x1920, 3, 'M'), (0x1927, 2, 'M'),
    (0x1932, 1, 'M'), (0x1939, 3, 'M'), (0x1940, 1, 'O'), (0x1944, 2, 'O'),
    (0x19de, 34, 'O'), (0x1a17, 2, 'M'), (0x1a1b, 1, 'M'), (0x1a56, 1, 'M'),
    (0x1a58, 7, 'M'), (0x1a60, 1, 'M'), (0x1a62, 1, 'M'), (0x1a65, 8, 'M'),
    (0x1a73, 10, 'M'), (0x1a7f, 1, 'M'), (0x1ab0, 31, 'M'), (0x1b00, 4, 'M'),
    (0x1b34, 1, 'M'), (0x1b36, 5, 'M'), (0x1b3c, 1, 'M'), (0x1b42, 1, 'M'),
    (0x1b6b, 9, 'M'), (0x1b80, 2, 'M'), (0x1ba2, 4, 'M'), (0x1ba8, 2, 'M'),
    (0x1bab, 3, 'M'), (0x1be6, 1, 'M'), (0x1be8, 2, 'M'), (0x1bed, 1, 'M'),
    (0x1bef, 3, 'M'), (0x1c2c, 8, 'M')]

def directionRuns2 : List (Nat × Nat × Char) :=
  [(0x1c36, 2, 'M'), (0x1cd0, 3, 'M'), (0x1cd4, 13, 'M'), (0x1ce2, 7, 'M'),
    (0x1ced, 1, 'M'), (0x1cf4, 1, 'M'), (0x1cf8, 2, 'M'), (0x1dc0, 64, 'M'),
    (0x200c, 2, 'B'), (0x2010, 1, 'O'), (0x2012, 5, 'O'), (0x2018, 12, 'O'),
    (0x2027, 1, 'O'), (0x2030, 3, 'T'), (0x2035, 1, 'O'), (0x2038, 4, 'O'),
    (0x203d, 1, 'O'), (0x203f, 5, 'O'), (0x2044, 1, 'C'), (0x2045, 2, 'O'),
    (0x204a, 13, 'O'), (0x2058, 7, 'O'), (0x20a0, 8, 'T'), (0x20a9, 24, 'T'),
    (0x20d0, 33, 'M'), (0x2104, 1, 'O'), (0x2108, 1, 'O'), (0x2114, 1, 'O'),
    (0x2117, 2, 'O'), (0x211e, 2, 'O'), (0x2123, 1, 'O'), (0x2125, 1, 'O'),
    (0x2127, 1, 'O'), (0x2129, 1, 'O'), (0x212e, 1, 'T'), (0x213a, 1, 'O'),
    (0x2141, 4, 'O'), (0x214a, 4, 'O'), (0x218a, 2, 'O'), (0x2190, 130, 'O'),
    (0x2212, 1, 'S'), (0x2213, 1, 'T'), (0x2214, 24, 'O'), (0x222e, 1, 'O'),
    (0x2231, 248, 'O'), (0x232b, 11, 'O'), (0x237b, 26, 'O'),
    (0x2396, 145, 'O'), (0x2440, 11, 'O'), (0x24eb, 449, 'O'),
    (0x26ad, 339, 'O'), (0x2900, 268, 'O'), (0x2a0d, 103, 'O'),
    (0x2a77, 101, 'O'), (0x2add, 151, 'O'), (0x2b76, 32, 'O'),
    (0x2b97, 105, 'O'), (0x2ce5, 6, 'O'), (0x2cef, 3, 'M'), (0x2cf9, 7, 'O'),
    (0x2d7f, 1, 'M'), (0x2de0, 32, 'M'), (0x2e00, 94, 'O'), (0x2e80, 26, 'O'),
    (0x2e9b, 4, 'O'), (0x2ea0, 83, 'O'), (0x3001, 1, 'O'), (0x3003, 2, 'O'),
    (0x3008, 25, 'O'), (0x302a, 4, 'M'), (0x3030, 1, 'O'), (0x3037, 1, 'O'),
    (0x303d, 3, 'O'), (0x3099, 2, 'M'), (0x30a0, 1, 'O'), (0x30fb, 1, 'O'),
    (0x31c0, 36, 'O'), (0x4dc0, 64, 'O'), (0xa490, 55, 'O'), (0xa60d, 3, 'O'),
    (0xa66f, 4, 'M'), (0xa673, 1, 'O'), (0xa674, 10, 'M'), (0xa67e, 2, 'O'),
    (0xa69e, 2, 'M'), (0xa6f0, 2, 'M'), (0xa700, 34, 'O'), (0xa788, 1, 'O'),
    (0xa802, 1, 'M'), (0xa806, 1, 'M'), (0xa80b, 1, 'M'), (0xa825, 2, 'M'),
    (0xa828, 4, 'O'), (0xa82c, 1, 'M'), (0xa838, 2, 'T'), (0xa874, 4, 'O'),
    (0xa8c4, 2, 'M'), (0xa8e0, 18, 'M'), (0xa8ff, 1, 'M'), (0xa926, 8, 'M'),
    (0xa947, 11, 'M'), (0xa980, 3, 'M'), (0xa9b3, 1, 'M'), (0xa9b6, 4, 'M'),
    (0xa9bc, 2, 'M'), (0xa9e5, 1, 'M'), (0xaa29, 6, 'M'), (0xaa31, 2, 'M'),
    (0xaa35, 2, 'M'), (0xaa43, 1, 'M'), (0xaa4c, 1, 'M'), (0xaa7c, 1, 'M'),
    (0xaab0, 1, 'M'), (0xaab2, 3, 'M'), (0xaab7, 2, 'M'), (0xaabe, 2, 'M'),
    (0xaac1, 1, 'M'), (0xaaec, 2, 'M'), (0xaaf6, 1, 'M'), (0xab6a, 2, 'O'),
    (0xabe5, 1, 'M'), (0xabe8, 1, 'M'), (0xabed, 1, 'M'), (0xfb1e, 1, 'M'),
    (0xfbb2, 17, 'A'), (0xfd3e, 18, 'O'), (0xfdcf, 1, 'O'), (0xfdfd, 3, 'O'),
    (0xfe20, 16, 'M'), (0xfe45, 2, 'O'), (0xfe73, 1, 'A'), (0x10101, 1, 'O'),
    (0x10140, 77, 'O'), (0x10190, 13, 'O'), (0x101a0, 1, 'O'),
    (0x101fd, 1, 'M'), (0x102e0, 1, 'M'), (0x102e1, 27, 'E'), (0x10376, 5, 'M'),
    (0x10800, 6, 'R'), (0x10808, 1, 'R'), (0x1080a, 44, 'R'), (0x10837, 2, 'R'),
    (0x1083c, 1, 'R'), (0x1083f, 23, 'R'), (0x10857, 72, 'R'),
    (0x108a7, 9, 'R'), (0x108e0, 19, 'R'), (0x108f4, 2, 'R'),
    (0x108fb, 33, 'R'), (0x1091f, 1, 'O'), (0x10920, 26, 'R'),
    (0x1093f, 1, 'R'), (0x10980, 56, 'R'), (0x109bc, 20, 'R'),
    (0x109d2, 47, 'R'), (0x10a01, 3, 'M'), (0x10a05, 2, 'M'), (0x10a0c, 4, 'M'),
    (0x10a10, 4, 'R'), (0x10a15, 3, 'R'), (0x10a19, 29, 'R'), (0x10a38, 3, 'M'),
    (0x10a3f, 1, 'M'), (0x10a40, 9, 'R'), (0x10a50, 9, 'R'), (0x10a60, 64, 'R'),
    (0x10ac0, 37, 'R'), (0x10ae5, 2, 'M'), (0x10aeb, 12, 'R'),
    (0x10b00, 54, 'R'), (0x10b39, 7, 'O'), (0x10b40, 22, 'R'),
    (0x10b58, 27, 'R'), (0x10b78, 26, 'R'), (0x10b99, 4, 'R'),
    (0x10ba9, 7, 'R'), (0x10c00, 73, 'R'), (0x10cc0, 51, 'R'),
    (0x10cfa, 6, 'R'), (0x10d00, 36, 'A'), (0x10d24, 4, 'M'),
    (0x10d30, 10, 'N'), (0x10e60, 31, 'N'), (0x10e80, 42, 'R'),
    (0x10eab, 2, 'M'), (0x10ead, 1, 'R'), (0x10eb0, 2, 'R'), (0x10f00, 40, 'R'),
    (0x10f30, 22, 'A'), (0x10f46, 11, 'M'), (0x10f51, 9, 'A'),
    (0x10f70, 18, 'R'), (0x10f82, 4, 'M'), (0x10f86, 4, 'R'),
    (0x10fb0, 28, 'R'), (0x10fe0, 23, 'R'), (0x11001, 1, 'M'),
    (0x11038, 15, 'M'), (0x11052, 20, 'O'), (0x11070, 1, 'M'),
    (0x11073, 2, 'M'), (0x1107f, 3, 'M'), (0x110b3, 4, 'M'), (0x110b9, 2, 'M'),
    (0x110c2, 1, 'M'), (0x11100, 3, 'M'), (0x11127, 5, 'M'), (0x1112d, 8, 'M'),
    (0x11173, 1, 'M'), (0x11180, 2, 'M'), (0x111b6, 9, 'M'), (0x111c9, 4, 'M'),
    (0x111cf, 1, 'M'), (0x1122f, 3, 'M'), (0x11234, 1, 'M'), (0x11236, 2, 'M'),
    (0x1123e, 1, 'M'), (0x112df, 1, 'M'), (0x112e3, 8, 'M'), (0x11300, 2, 'M'),
    (0x1133b, 2, 'M'), (0x11340, 1, 'M'), (0x11366, 7, 'M'), (0x11370, 5, 'M'),
    (0x11438, 8, 'M'), (0x11442, 3, 'M'), (0x11446, 1, 'M'), (0x1145e, 1, 'M'),
    (0x114b3, 6, 'M'), (0x114ba, 1, 'M'), (0x114bf, 2, 'M'), (0x114c2, 2, 'M'),
    (0x115b2, 4, 'M'), (0x115bc, 2, 'M'), (0x115bf, 2, 'M'), (0x115dc, 2, 'M'),
    (0x11633, 8, 'M'), (0x1163d, 1, 'M'), (0x1163f, 2, 'M'), (0x11660, 13, 'O'),
    (0x116ab, 1, 'M'), (0x116ad, 1, 'M'), (0x116b0, 6, 'M'), (0x116b7, 1, 'M'),
    (0x1171d, 3, 'M'), (0x11722, 4, 'M'), (0x11727, 5, 'M'), (0x1182f, 9, 'M'),
    (0x11839, 2, 'M')]

def directionRuns3 : List (Nat × Nat × Char) :=
  [(0x1193b, 2, 'M'), (0x1193e, 1, 'M'), (0x11943, 1, 'M'), (0x119d4, 4, 'M'),
    (0x119da, 2, 'M'), (0x119e0, 1, 'M'), (0x11a01, 6, 'M'), (0x11a09, 2, 'M'),
    (0x11a33, 6, 'M'), (0x11a3b, 4, 'M'), (0x11a47, 1, 'M'), (0x11a51, 6, 'M'),
    (0x11a59, 3, 'M'), (0x11a8a, 13, 'M'), (0x11a98, 2, 'M'), (0x11c30, 7, 'M'),
    (0x11c38, 6, 'M'), (0x11c92, 22, 'M'), (0x11caa, 7, 'M'), (0x11cb2, 2, 'M'),
    (0x11cb5, 2, 'M'), (0x11d31, 6, 'M'), (0x11d3a, 1, 'M'), (0x11d3c, 2, 'M'),
    (0x11d3f, 7, 'M'), (0x11d47, 1, 'M'), (0x11d90, 2, 'M'), (0x11d95, 1, 'M'),
    (0x11d97, 1, 'M'), (0x11ef3, 2, 'M'), (0x11fd5, 8, 'O'), (0x11fdd, 4, 'T'),
    (0x11fe1, 17, 'O'), (0x16af0, 5, 'M'), (0x16b30, 7, 'M'), (0x16f4f, 1, 'M'),
    (0x16f8f, 4, 'M'), (0x16fe2, 1, 'O'), (0x16fe4, 1, 'M'), (0x1bc9d, 2, 'M'),
    (0x1cf00, 46, 'M'), (0x1cf30, 23, 'M'), (0x1d167, 3, 'M'),
    (0x1d17b, 8, 'M'), (0x1d185, 7, 'M'), (0x1d1aa, 4, 'M'), (0x1d1e9, 2, 'O'),
    (0x1d200, 66, 'O'), (0x1d242, 3, 'M'), (0x1d245, 1, 'O'),
    (0x1d300, 87, 'O'), (0x1da00, 55, 'M'), (0x1da3b, 50, 'M'),
    (0x1da75, 1, 'M'), (0x1da84, 1, 'M'), (0x1da9b, 5, 'M'), (0x1daa1, 15, 'M'),
    (0x1e000, 7, 'M'), (0x1e008, 17, 'M'), (0x1e01b, 7, 'M'), (0x1e023, 2, 'M'),
    (0x1e026, 5, 'M'), (0x1e130, 7, 'M'), (0x1e2ae, 1, 'M'), (0x1e2ec, 4, 'M'),
    (0x1e2ff, 1, 'T'), (0x1e800, 197, 'R'), (0x1e8c7, 9, 'R'),
    (0x1e8d0, 7, 'M'), (0x1e922, 34, 'R'), (0x1e944, 7, 'M'), (0x1e94b, 1, 'R'),
    (0x1e950, 10, 'R'), (0x1e95e, 2, 'R'), (0x1ec71, 68, 'A'),
    (0x1ed01, 61, 'A'), (0x1eef0, 2, 'O'), (0x1f000, 44, 'O'),
    (0x1f030, 100, 'O'), (0x1f0a0, 15, 'O'), (0x1f0b1, 15, 'O'),
    (0x1f0c1, 15, 'O'), (0x1f0d1, 37, 'O'), (0x1f10b, 5, 'O'),
    (0x1f12f, 1, 'O'), (0x1f16d, 3, 'O'), (0x1f1ad, 1, 'O'), (0x1f260, 6, 'O'),
    (0x1f300, 984, 'O'), (0x1f6dd, 16, 'O'), (0x1f6f0, 13, 'O'),
    (0x1f700, 116, 'O'), (0x1f780, 89, 'O'), (0x1f7e0, 12, 'O'),
    (0x1f7f0, 1, 'O'), (0x1f800, 12, 'O'), (0x1f810, 56, 'O'),
    (0x1f850, 10, 'O'), (0x1f860, 40, 'O'), (0x1f890, 30, 'O'),
    (0x1f8b0, 2, 'O'), (0x1f900, 340, 'O'), (0x1fa60, 14, 'O'),
    (0x1fa70, 5, 'O'), (0x1fa78, 5, 'O'), (0x1fa80, 7, 'O'), (0x1fa90, 29, 'O'),
    (0x1fab0, 11, 'O'), (0x1fac0, 6, 'O'), (0x1fad0, 10, 'O'),
    (0x1fae0, 8, 'O'), (0x1faf0, 7, 'O'), (0x1fb00, 147, 'O'),
    (0x1fb94, 55, 'O')]

/-- Characters that do not run from left to right: `R` and `A` for those from
right to left, `N` and `E` for numbers, `S`, `C` and `T` for signs within
numbers, `O` for neutral ones, `B` for boundaries, `M` for marks, and `X` for
what separates texts. -/
def directionRuns : List (Nat × Nat × Char) :=
  directionRuns1 ++ directionRuns2 ++ directionRuns3

def joiningRuns1 : List (Nat × Nat × Char) :=
  [(0x300, 64, 'T'), (0x342, 1, 'T'), (0x346, 9, 'T'), (0x350, 32, 'T'),
    (0x483, 7, 'T'), (0x591, 45, 'T'), (0x5bf, 1, 'T'), (0x5c1, 2, 'T'),
    (0x5c4, 2, 'T'), (0x5c7, 1, 'T'), (0x610, 11, 'T'), (0x620, 1, 'D'),
    (0x622, 4, 'R'), (0x626, 1, 'D'), (0x627, 1, 'R'), (0x628, 1, 'D'),
    (0x629, 1, 'R'), (0x62a, 5, 'D'), (0x62f, 4, 'R'), (0x633, 13, 'D'),
    (0x641, 7, 'D'), (0x648, 1, 'R'), (0x649, 2, 'D'), (0x64b, 21, 'T'),
    (0x66e, 2, 'D'), (0x670, 1, 'T'), (0x671, 3, 'R'), (0x679, 15, 'D'),
    (0x688, 18, 'R'), (0x69a, 38, 'D'), (0x6c0, 1, 'R'), (0x6c1, 2, 'D'),
    (0x6c3, 9, 'R'), (0x6cc, 1, 'D'), (0x6cd, 1, 'R'), (0x6ce, 1, 'D'),
    (0x6cf, 1, 'R'), (0x6d0, 2, 'D'), (0x6d2, 2, 'R'), (0x6d5, 1, 'R'),
    (0x6d6, 7, 'T'), (0x6df, 6, 'T'), (0x6e7, 2, 'T'), (0x6ea, 4, 'T'),
    (0x6ee, 2, 'R'), (0x6fa, 3, 'D'), (0x6ff, 1, 'D'), (0x710, 1, 'R'),
    (0x711, 1, 'T'), (0x712, 3, 'D'), (0x715, 5, 'R'), (0x71a, 4, 'D'),
    (0x71e, 1, 'R'), (0x71f, 9, 'D'), (0x728, 1, 'R'), (0x729, 1, 'D'),
    (0x72a, 1, 'R'), (0x72b, 1, 'D'), (0x72c, 1, 'R'), (0x72d, 2, 'D'),
    (0x72f, 1, 'R'), (0x730, 27, 'T'), (0x74d, 1, 'R'), (0x74e, 11, 'D'),
    (0x759, 3, 'R'), (0x75c, 15, 'D'), (0x76b, 2, 'R'), (0x76d, 4, 'D'),
    (0x771, 1, 'R'), (0x772, 1, 'D'), (0x773, 2, 'R'), (0x775, 3, 'D'),
    (0x778, 2, 'R'), (0x77a, 6, 'D'), (0x7a6, 11, 'T'), (0x7ca, 33, 'D'),
    (0x7eb, 9, 'T'), (0x7fd, 1, 'T'), (0x816, 4, 'T'), (0x81b, 9, 'T'),
    (0x825, 3, 'T'), (0x829, 5, 'T'), (0x840, 1, 'R'), (0x841, 5, 'D'),
    (0x846, 2, 'R'), (0x848, 1, 'D'), (0x849, 1, 'R'), (0x84a, 10, 'D'),
    (0x854, 1, 'R'), (0x855, 1, 'D'), (0x856, 3, 'R'), (0x859, 3, 'T'),
    (0x860, 1, 'D'), (0x862, 4, 'D'), (0x867, 1, 'R'), (0x868, 1, 'D'),
    (0x869, 2, 'R'), (0x870, 19, 'R'), (0x886, 1, 'D'), (0x889, 5, 'D'),
    (0x88e, 1, 'R'), (0x88f, 1, 'D'), (0x897, 9, 'T'), (0x8a0, 10, 'D'),
    (0x8aa, 3, 'R'), (0x8ae, 1, 'R'), (0x8af, 2, 'D'), (0x8b1, 2, 'R'),
    (0x8b3, 6, 'D'), (0x8b9, 1, 'R'), (0x8ba, 15, 'D'), (0x8ca, 24, 'T'),
    (0x8e3, 32, 'T'), (0x93a, 1, 'T'), (0x93c, 1, 'T'), (0x941, 8, 'T'),
    (0x94d, 1, 'T'), (0x951, 7, 'T'), (0x962, 2, 'T'), (0x981, 1, 'T'),
    (0x9bc, 1, 'T'), (0x9c1, 4, 'T'), (0x9cd, 1, 'T'), (0x9e2, 2, 'T'),
    (0x9fe, 1, 'T'), (0xa01, 2, 'T'), (0xa3c, 1, 'T'), (0xa41, 2, 'T'),
    (0xa47, 2, 'T'), (0xa4b, 3, 'T'), (0xa51, 1, 'T'), (0xa70, 2, 'T'),
    (0xa75, 1, 'T'), (0xa81, 2, 'T'), (0xabc, 1, 'T'), (0xac1, 5, 'T'),
    (0xac7, 2, 'T'), (0xacd, 1, 'T'), (0xae2, 2, 'T'), (0xafa, 6, 'T'),
    (0xb01, 1, 'T'), (0xb3c, 1, 'T'), (0xb3f, 1, 'T'), (0xb41, 4, 'T'),
    (0xb4d, 1, 'T'), (0xb55, 2, 'T'), (0xb62, 2, 'T'), (0xb82, 1, 'T'),
    (0xbc0, 1, 'T'), (0xbcd, 1, 'T'), (0xc00, 1, 'T'), (0xc04, 1, 'T'),
    (0xc3c, 1, 'T'), (0xc3e, 3, 'T'), (0xc46, 3, 'T'), (0xc4a, 4, 'T'),
    (0xc55, 2, 'T'), (0xc62, 2, 'T'), (0xc81, 1, 'T'), (0xcbc, 1, 'T'),
    (0xcbf, 1, 'T'), (0xcc6, 1, 'T'), (0xccc, 2, 'T'), (0xce2, 2, 'T'),
    (0xd00, 2, 'T'), (0xd3b, 2, 'T'), (0xd41, 4, 'T'), (0xd4d, 1, 'T'),
    (0xd62, 2, 'T'), (0xd81, 1, 'T'), (0xdca, 1, 'T'), (0xdd2, 3, 'T'),
    (0xdd6, 1, 'T'), (0xe31, 1, 'T'), (0xe34, 7, 'T'), (0xe47, 8, 'T'),
    (0xeb1, 1, 'T'), (0xeb4, 9, 'T'), (0xec8, 7, 'T'), (0xf18, 2, 'T'),
    (0xf35, 1, 'T'), (0xf37, 1, 'T'), (0xf39, 1, 'T'), (0xf71, 2, 'T'),
    (0xf74, 1, 'T'), (0xf7a, 5, 'T'), (0xf80, 1, 'T'), (0xf82, 3, 'T'),
    (0xf86, 2, 'T'), (0xf8d, 6, 'T'), (0xf94, 4, 'T'), (0xf99, 4, 'T'),
    (0xf9e, 4, 'T'), (0xfa3, 4, 'T'), (0xfa8, 4, 'T'), (0xfad, 12, 'T'),
    (0xfba, 3, 'T'), (0xfc6, 1, 'T'), (0x102d, 4, 'T'), (0x1032, 6, 'T'),
    (0x1039, 2, 'T'), (0x103d, 2, 'T'), (0x1058, 2, 'T'), (0x105e, 3, 'T'),
    (0x1071, 4, 'T'), (0x1082, 1, 'T'), (0x1085, 2, 'T'), (0x108d, 1, 'T'),
    (0x109d, 1, 'T'), (0x135d, 3, 'T'), (0x1712, 3, 'T'), (0x1732, 2, 'T'),
    (0x1752, 2, 'T'), (0x1772, 2, 'T'), (0x17b7, 7, 'T'), (0x17c6, 1, 'T'),
    (0x17c9, 11, 'T'), (0x17dd, 1, 'T'), (0x1807, 1, 'D'), (0x1820, 89, 'D'),
    (0x1885, 2, 'T'), (0x1887, 34, 'D'), (0x18a9, 1, 'T'), (0x18aa, 1, 'D'),
    (0x1920, 3, 'T'), (0x1927, 2, 'T'), (0x1932, 1, 'T'), (0x1939, 3, 'T'),
    (0x1a17, 2, 'T'), (0x1a1b, 1, 'T'), (0x1a56, 1, 'T'), (0x1a58, 7, 'T'),
    (0x1a60, 1, 'T'), (0x1a62, 1, 'T'), (0x1a65, 8, 'T'), (0x1a73, 10, 'T'),
    (0x1a7f, 1, 'T'), (0x1ab0, 46, 'T'), (0x1ae0, 12, 'T'), (0x1b00, 4, 'T'),
    (0x1b34, 1, 'T'), (0x1b36, 5, 'T'), (0x1b3c, 1, 'T'), (0x1b42, 1, 'T'),
    (0x1b6b, 9, 'T'), (0x1b80, 2, 'T'), (0x1ba2, 4, 'T'), (0x1ba8, 2, 'T'),
    (0x1bab, 3, 'T'), (0x1be6, 1, 'T')]

def joiningRuns2 : List (Nat × Nat × Char) :=
  [(0x1be8, 2, 'T'), (0x1bed, 1, 'T'), (0x1bef, 3, 'T'), (0x1c2c, 8, 'T'),
    (0x1c36, 2, 'T'), (0x1cd0, 3, 'T'), (0x1cd4, 13, 'T'), (0x1ce2, 7, 'T'),
    (0x1ced, 1, 'T'), (0x1cf4, 1, 'T'), (0x1cf8, 2, 'T'), (0x1dc0, 64, 'T'),
    (0x20d0, 33, 'T'), (0x2cef, 3, 'T'), (0x2d7f, 1, 'T'), (0x2de0, 32, 'T'),
    (0x302a, 4, 'T'), (0x3099, 2, 'T'), (0xa66f, 4, 'T'), (0xa674, 10, 'T'),
    (0xa69e, 2, 'T'), (0xa6f0, 2, 'T'), (0xa802, 1, 'T'), (0xa806, 1, 'T'),
    (0xa80b, 1, 'T'), (0xa825, 2, 'T'), (0xa82c, 1, 'T'), (0xa840, 50, 'D'),
    (0xa872, 1, 'L'), (0xa8c4, 2, 'T'), (0xa8e0, 18, 'T'), (0xa8ff, 1, 'T'),
    (0xa926, 8, 'T'), (0xa947, 11, 'T'), (0xa980, 3, 'T'), (0xa9b3, 1, 'T'),
    (0xa9b6, 4, 'T'), (0xa9bc, 2, 'T'), (0xa9e5, 1, 'T'), (0xaa29, 6, 'T'),
    (0xaa31, 2, 'T'), (0xaa35, 2, 'T'), (0xaa43, 1, 'T'), (0xaa4c, 1, 'T'),
    (0xaa7c, 1, 'T'), (0xaab0, 1, 'T'), (0xaab2, 3, 'T'), (0xaab7, 2, 'T'),
    (0xaabe, 2, 'T'), (0xaac1, 1, 'T'), (0xaaec, 2, 'T'), (0xaaf6, 1, 'T'),
    (0xabe5, 1, 'T'), (0xabe8, 1, 'T'), (0xabed, 1, 'T'), (0xfb1e, 1, 'T'),
    (0xfe20, 16, 'T'), (0x101fd, 1, 'T'), (0x102e0, 1, 'T'), (0x10376, 5, 'T'),
    (0x10a01, 3, 'T'), (0x10a05, 2, 'T'), (0x10a0c, 4, 'T'), (0x10a38, 3, 'T'),
    (0x10a3f, 1, 'T'), (0x10ac0, 5, 'D'), (0x10ac5, 1, 'R'), (0x10ac7, 1, 'R'),
    (0x10ac9, 2, 'R'), (0x10acd, 1, 'L'), (0x10ace, 5, 'R'), (0x10ad3, 4, 'D'),
    (0x10ad7, 1, 'L'), (0x10ad8, 5, 'D'), (0x10add, 1, 'R'), (0x10ade, 3, 'D'),
    (0x10ae1, 1, 'R'), (0x10ae4, 1, 'R'), (0x10ae5, 2, 'T'), (0x10aeb, 4, 'D'),
    (0x10aef, 1, 'R'), (0x10b80, 1, 'D'), (0x10b81, 1, 'R'), (0x10b82, 1, 'D'),
    (0x10b83, 3, 'R'), (0x10b86, 3, 'D'), (0x10b89, 1, 'R'), (0x10b8a, 2, 'D'),
    (0x10b8c, 1, 'R'), (0x10b8d, 1, 'D'), (0x10b8e, 2, 'R'), (0x10b90, 1, 'D'),
    (0x10b91, 1, 'R'), (0x10ba9, 4, 'R'), (0x10bad, 2, 'D'), (0x10d00, 1, 'L'),
    (0x10d01, 33, 'D'), (0x10d22, 1, 'R'), (0x10d23, 1, 'D'), (0x10d24, 4, 'T'),
    (0x10d69, 5, 'T'), (0x10eab, 2, 'T'), (0x10ec2, 1, 'R'), (0x10ec3, 2, 'D'),
    (0x10ec6, 2, 'D'), (0x10efa, 6, 'T'), (0x10f30, 3, 'D'), (0x10f33, 1, 'R'),
    (0x10f34, 17, 'D'), (0x10f46, 11, 'T'), (0x10f51, 3, 'D'),
    (0x10f54, 1, 'R'), (0x10f70, 4, 'D'), (0x10f74, 2, 'R'), (0x10f76, 12, 'D'),
    (0x10f82, 4, 'T'), (0x10fb0, 1, 'D'), (0x10fb2, 2, 'D'), (0x10fb4, 3, 'R'),
    (0x10fb8, 1, 'D'), (0x10fb9, 2, 'R'), (0x10fbb, 2, 'D'), (0x10fbd, 1, 'R'),
    (0x10fbe, 2, 'D'), (0x10fc1, 1, 'D'), (0x10fc2, 2, 'R'), (0x10fc4, 1, 'D'),
    (0x10fc9, 1, 'R'), (0x10fca, 1, 'D'), (0x10fcb, 1, 'L'), (0x11001, 1, 'T'),
    (0x11038, 15, 'T'), (0x11070, 1, 'T'), (0x11073, 2, 'T'), (0x1107f, 3, 'T'),
    (0x110b3, 4, 'T'), (0x110b9, 2, 'T'), (0x110c2, 1, 'T'), (0x11100, 3, 'T'),
    (0x11127, 5, 'T'), (0x1112d, 8, 'T'), (0x11173, 1, 'T'), (0x11180, 2, 'T'),
    (0x111b6, 9, 'T'), (0x111c9, 4, 'T'), (0x111cf, 1, 'T'), (0x1122f, 3, 'T'),
    (0x11234, 1, 'T'), (0x11236, 2, 'T'), (0x1123e, 1, 'T'), (0x11241, 1, 'T'),
    (0x112df, 1, 'T'), (0x112e3, 8, 'T'), (0x11300, 2, 'T'), (0x1133b, 2, 'T'),
    (0x11340, 1, 'T'), (0x11366, 7, 'T'), (0x11370, 5, 'T'), (0x113bb, 6, 'T'),
    (0x113ce, 1, 'T'), (0x113d0, 1, 'T'), (0x113d2, 1, 'T'), (0x113e1, 2, 'T'),
    (0x11438, 8, 'T'), (0x11442, 3, 'T'), (0x11446, 1, 'T'), (0x1145e, 1, 'T'),
    (0x114b3, 6, 'T'), (0x114ba, 1, 'T'), (0x114bf, 2, 'T'), (0x114c2, 2, 'T'),
    (0x115b2, 4, 'T'), (0x115bc, 2, 'T'), (0x115bf, 2, 'T'), (0x115dc, 2, 'T'),
    (0x11633, 8, 'T'), (0x1163d, 1, 'T'), (0x1163f, 2, 'T'), (0x116ab, 1, 'T'),
    (0x116ad, 1, 'T'), (0x116b0, 6, 'T'), (0x116b7, 1, 'T'), (0x1171d, 1, 'T'),
    (0x1171f, 1, 'T'), (0x11722, 4, 'T'), (0x11727, 5, 'T'), (0x1182f, 9, 'T'),
    (0x11839, 2, 'T'), (0x1193b, 2, 'T'), (0x1193e, 1, 'T'), (0x11943, 1, 'T'),
    (0x119d4, 4, 'T'), (0x119da, 2, 'T'), (0x119e0, 1, 'T'), (0x11a01, 10, 'T'),
    (0x11a33, 6, 'T'), (0x11a3b, 4, 'T'), (0x11a47, 1, 'T'), (0x11a51, 6, 'T'),
    (0x11a59, 3, 'T'), (0x11a8a, 13, 'T'), (0x11a98, 2, 'T'), (0x11b60, 1, 'T'),
    (0x11b62, 3, 'T'), (0x11b66, 1, 'T'), (0x11c30, 7, 'T'), (0x11c38, 6, 'T'),
    (0x11c3f, 1, 'T'), (0x11c92, 22, 'T'), (0x11caa, 7, 'T'), (0x11cb2, 2, 'T'),
    (0x11cb5, 2, 'T'), (0x11d31, 6, 'T'), (0x11d3a, 1, 'T'), (0x11d3c, 2, 'T'),
    (0x11d3f, 7, 'T'), (0x11d47, 1, 'T'), (0x11d90, 2, 'T'), (0x11d95, 1, 'T'),
    (0x11d97, 1, 'T'), (0x11ef3, 2, 'T'), (0x11f00, 2, 'T'), (0x11f36, 5, 'T'),
    (0x11f40, 1, 'T'), (0x11f42, 1, 'T'), (0x11f5a, 1, 'T'), (0x13440, 1, 'T'),
    (0x13447, 15, 'T'), (0x1611e, 12, 'T'), (0x1612d, 3, 'T'),
    (0x16af0, 5, 'T'), (0x16b30, 7, 'T'), (0x16f4f, 1, 'T'), (0x16f8f, 4, 'T'),
    (0x16fe4, 1, 'T'), (0x1bc9d, 2, 'T'), (0x1cf00, 46, 'T'),
    (0x1cf30, 23, 'T'), (0x1d167, 3, 'T'), (0x1d17b, 8, 'T'), (0x1d185, 7, 'T'),
    (0x1d1aa, 4, 'T'), (0x1d242, 3, 'T'), (0x1da00, 55, 'T'),
    (0x1da3b, 50, 'T'), (0x1da75, 1, 'T'), (0x1da84, 1, 'T'), (0x1da9b, 5, 'T'),
    (0x1daa1, 15, 'T'), (0x1e000, 7, 'T')]

def joiningRuns3 : List (Nat × Nat × Char) :=
  [(0x1e008, 17, 'T'), (0x1e01b, 7, 'T'), (0x1e023, 2, 'T'), (0x1e026, 5, 'T'),
    (0x1e08f, 1, 'T'), (0x1e130, 7, 'T'), (0x1e2ae, 1, 'T'), (0x1e2ec, 4, 'T'),
    (0x1e4ec, 4, 'T'), (0x1e5ee, 2, 'T'), (0x1e6e3, 1, 'T'), (0x1e6e6, 1, 'T'),
    (0x1e6ee, 2, 'T'), (0x1e6f5, 1, 'T'), (0x1e8d0, 7, 'T'), (0x1e922, 34, 'D'),
    (0x1e944, 8, 'T')]

/-- Characters that join their neighbours: `L`, `R` or `D` for one that joins
the left, the right or both, and `T` for one that is looked through. -/
def joiningRuns : List (Nat × Nat × Char) :=
  joiningRuns1 ++ joiningRuns2 ++ joiningRuns3

end Errand.Domain.Table
