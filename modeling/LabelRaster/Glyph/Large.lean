/-!
# Glyphs of 12 by 24 pixels

By code point, in ascending order. A glyph is one number: its rows from top to
bottom, 12 bits each, the leftmost pixel in bit 11.
-/

namespace LabelRaster.Glyph

/-- The glyphs of 12 by 24 pixels. -/
def largeGlyphs : Array (Nat × Nat) := #[
    (0x0, 0x30c1980f01f830c30c30c30c1f80f019830c000000000000000000),
    (0x1, 0x60060060060060060060060000000060060060060060060060060000000000),
    (0x2, 0x30c30c000000000000000000000000000000000000000000000000000000000),
    (0x3, 0x3187bcffeffeffeffe7fc7fc3f81f00e0040000000000000000000),
    (0x4, 0x400e01f03f87fcffe7fc3f81f00e0040000000000000000000),
    (0x5, 0x1f830c6066766c66c66c66c667660630c1f8000000000000000),
    (0x6, 0x1f830c6066e66d66d66e66d66d660630c1f8000000000000000),
    (0x7, 0xf01f81f81f81f80f0000000000000000000000000000),
    (0x8, 0xffffffffffffffffffffffffffff0fe07e07e07e07f0ffffffffffffffffffffffffffff),
    (0x9, 0xf019830c30c30c30c1980f0000000000000000000000000),
    (0xa, 0xfffffffffffffffffffffffff0fe67cf3cf3cf3cf3e67f0fffffffffffffffffffffffff),
    (0xb, 0x1f8000000000000000000000000000000000000000000000000000000000000000),
    (0xc, 0xf01980180700180181980f0000000000000000000000000000000000000000),
    (0xd, 0x180300600c0000000000000000000000000000000000000000000000000000000),
    (0xe, 0x300300300600c0),
    (0xf, 0x600e01e00600600600600f0000000000000000000000000000000000000000),
    (0x10, 0x3c06600601c00606663cc0180300600c018030066006006c06c07e00c00c000000),
    (0x11, 0x1800c00600001f830c6066066066066067fe606606606606606606606000000000000000),
    (0x12, 0x180300600001f830c6066066066066067fe606606606606606606606000000000000000),
    (0x13, 0x30c30c30c30c30c30c30c30c30c30c30c00000030c30c000000000000000),
    (0x14, 0x1fe3666666666666663661e6066066066066066066066000000000000000),
    (0x15, 0xf81983183001800e01f830c30c30c30c1f807001800c18c1981f0000000000),
    (0x16, 0xf019830c0001f830c6066066066066067fe606606606606606606606000000000000000),
    (0x17, 0x1c63fc6380001f830c6066066066066067fe606606606606606606606000000000000000),
    (0x18, 0x1800c00600001fe3006006006006006007f86006006006006003001fe000000000000000),
    (0x19, 0xf019830c0001fe3006006006006006007f86006006006006003001fe000000000000000),
    (0x1a, 0x30c30c0001fe3006006006006006007f86006006006006003001fe000000000000000),
    (0x1b, 0xc00600300003fc0600600600600600600600600600600600600603fc000000000000000),
    (0x1c, 0x300600c00003fc0600600600600600600600600600600600600603fc000000000000000),
    (0x1d, 0xf019830c0003fc0600600600600600600600600600600600600603fc000000000000000),
    (0x1e, 0x30c30c0003fc0600600600600600600600600600600600600603fc000000000000000),
    (0x1f, 0x7fc60e606606606606606fc660660660660660660e7fc000000000000000), (0x20, 0x0),
    (0x21, 0x60060060060060060060060060060060000000060060000000000000000),
    (0x22, 0x30c30c30c30c30c30c30c000000000000000000000000000000000000000000000),
    (0x23, 0x30c30c30c7fe30c30c30c30c30c30c30c7fe30c30c30c000000000000000),
    (0x24, 0x600601fe3606606606606603601f806c06606606606606c7f8060060000000000),
    (0x25, 0xc38c6d86d83b00300600600c00dc1b61b631c300000000000000000),
    (0x26, 0xf019830c30c30c30c1980f033061a60e60c60c31e1f3000000000000000),
    (0x27, 0x60060060060060060060000000000000000000000000000000000000000000000),
    (0x28, 0xe0180300600c00c01801801801801801801801800c00c006003001800e000000),
    (0x29, 0x7001800c00600300300180180180180180180180180300300600c0180700000000),
    (0x2a, 0x30c1980f00607fe0600f019830c000000000000000000000),
    (0x2b, 0x600600603fc060060060000000000000000000000000), (0x2c, 0x600600600c0180000000000),
    (0x2d, 0x3fc000000000000000000000000000000000), (0x2e, 0x60060000000000000000),
    (0x2f, 0x300300600600c00c0180180300300600600c00c0180180300300600600000000),
    (0x30, 0x1f830c60660660e61e6366666c678670660660630c1f8000000000000000),
    (0x31, 0xe01e03602600600600600600600600600600600603fc000000000000000),
    (0x32, 0x1f830c60600600600600c0180300600c01803006067fe000000000000000),
    (0x33, 0x1f830c60600600600c0f800c00600600600660630c1f8000000000000000),
    (0x34, 0x6006006006186186186186186186187fe018018018018000000000000000),
    (0x35, 0x7fe6066006006006007f800c00600600600660630c1f8000000000000000),
    (0x36, 0x1fc3066006006006007f860c60660660660660630c1f8000000000000000),
    (0x37, 0x7fe60600600600600c0180300600c00c00c00c00c00c0000000000000000),
    (0x38, 0x1f830c60660660630c1f830c60660660660660630c1f8000000000000000),
    (0x39, 0x1f830c6066066066066063061fe00600600600660c3f8000000000000000),
    (0x3a, 0x60060000000000000000060060000000000000000),
    (0x3b, 0x600600000000000000600600600c0180000000000),
    (0x3c, 0x600c0180300600c01803001800c006003001800c006000000000000000),
    (0x3d, 0x7fe0000000000007fe000000000000000000000000000),
    (0x3e, 0x3001800c006003001800c00600c0180300600c0180300000000000000000),
    (0x3f, 0x1f830c60600600600c018030060060060000000060060000000000000000),
    (0x40, 0x1f830c60660667667667667667667667e6003001fc000000000000000),
    (0x41, 0x1f830c6066066066066067fe606606606606606606606000000000000000),
    (0x42, 0x7f860c60660660660660c7f860c60660660660660c7f8000000000000000),
    (0x43, 0x1fe3006006006006006006006006006006006003001fe000000000000000),
    (0x44, 0x7f860c60660660660660660660660660660660660c7f8000000000000000),
    (0x45, 0x1fe3006006006006006007f86006006006006003001fe000000000000000),
    (0x46, 0x1fe3006006006006006007f8600600600600600600600000000000000000),
    (0x47, 0x1fe30060060060060060063e6066066066066063061fe000000000000000),
    (0x48, 0x6066066066066066066067fe606606606606606606606000000000000000),
    (0x49, 0x3fc0600600600600600600600600600600600600603fc000000000000000),
    (0x4a, 0x3fc0600600600600600600600600600600600600e07c0000000000000000),
    (0x4b, 0x60660660660660660c6187f061860c606606606606606000000000000000),
    (0x4c, 0x6006006006006006006006006006006006006003001fe000000000000000),
    (0x4d, 0x60670e79e6f6666606606606606606606606606606606000000000000000),
    (0x4e, 0x6067067067867866c66c666666663663661e61e60e60e000000000000000),
    (0x4f, 0x1f830c60660660660660660660660660660660630c1f8000000000000000),
    (0x50, 0x7f860c60660660660660c7f8600600600600600600600000000000000000),
    (0x51, 0x1f830c60660660660660660660660666666663633c1f801800c00c000000),
    (0x52, 0x7f860c60660660660660c7f860c606606606606606606000000000000000),
    (0x53, 0x1fe3006006006006003001f800c00600600600600c7f8000000000000000),
    (0x54, 0x7fe060060060060060060060060060060060060060060000000000000000),
    (0x55, 0x6066066066066066066066066066066066066063061fe000000000000000),
    (0x56, 0x60660660660660660660660660660630c30c1980f0060000000000000000),
    (0x57, 0x6066066066066066066066066066066666f679e70e606000000000000000),
    (0x58, 0x60660660660660660630c1f830c606606606606606606000000000000000),
    (0x59, 0x6066066066066066063061fe00600600600600600e7fc000000000000000),
    (0x5a, 0x7fe00600600600c0180300600c01803006006006007fe000000000000000),
    (0x5b, 0x1fe1801801801801801801801801801801801801801801801801801801801801fe000),
    (0x5c, 0xc00c006006003003001801800c00c006006003003001801800c00c006006000000),
    (0x5d, 0x7f80180180180180180180180180180180180180180180180180180180180187f8000),
    (0x5e, 0x400e01b031860cc06000000000000000000000000000000000000000000000000), (0x5f, 0x7fe000),
    (0x60, 0x1800c0060030000000000000000000000000000000000000000000000000000000),
    (0x61, 0x3f800c0060061fe3066066066063061fe000000000000000),
    (0x62, 0x6006006006007f860c60660660660660660660660c7f8000000000000000),
    (0x63, 0x1fe3006006006006006006006003001fe000000000000000),
    (0x64, 0x60060060061fe3066066066066066066066063061fe000000000000000),
    (0x65, 0x1fe3066066066067fe6006006003001fe000000000000000),
    (0x66, 0x7c0e00c00c00c00c03f80c00c00c00c00c00c00c00c0000000000000000),
    (0x67, 0x1fe3066066066066066066066063061fc00c00600600c3f8),
    (0x68, 0x6006006006007f860c606606606606606606606606606000000000000000),
    (0x69, 0x600600000001e0060060060060060060060060060078000000000000000),
    (0x6a, 0x600600000000600600600600600600600600600600600600600600c0780),
    (0x6b, 0x30030030030030c30c3183303e036033031830c306306000000000000000),
    (0x6c, 0xc00c00c00c00c00c00c00c00c00c00c00c00c00e007c000000000000000),
    (0x6d, 0x79866c666666666666666666606606606000000000000000),
    (0x6e, 0x7f860c606606606606606606606606606000000000000000),
    (0x6f, 0x1f830c60660660660660660660630c1f8000000000000000),
    (0x70, 0x7f860c60660660660660660660660c7f8600600600600600),
    (0x71, 0x1fe3066066066066066066066063061fe006006006006006),
    (0x72, 0x1fe306600600600600600600600600600000000000000000),
    (0x73, 0x3fe6006006006003fc0060060060067fc000000000000000),
    (0x74, 0xc00c00c00c03f80c00c00c00c00c00c00c00c00e007c000000000000000),
    (0x75, 0x6066066066066066066066066063061fe000000000000000),
    (0x76, 0x60660660660660660630c30c1980f0060000000000000000),
    (0x77, 0x60660660666666666666666666636619e000000000000000),
    (0x78, 0x60660630c1980f00f019830c30c606606000000000000000),
    (0x79, 0x6066066066066066066066066063061fe00600600600c7f8),
    (0x7a, 0x7fe00600c0180300600c01803006007fe000000000000000),
    (0x7b, 0x1e0300600600600600600600600c03803800c006006006006006006006003001e000),
    (0x7c, 0x60060060060060060060060060060060060060060060060060060000000000),
    (0x7d, 0x3c006003003003003003003003001800e00e0180300300300300300300300603c0000),
    (0x7e, 0x3866c6c6cc38000000000000000000000000000000),
    (0x7f, 0x1800c00600001f830c60660660660660660660660660660660630c1f8000000000000000),
    (0xa1, 0x60060000000060060060060060060060060060060060000000000000000),
    (0xa2, 0x300301fe3306306306306306306306303301fe030030000000000),
    (0xa3, 0x700d818c18c1801801807f81801801801803003007fe000000000000000),
    (0xa4, 0x30c1980f01f830c30c30c30c1f80f019830c000000000000000000),
    (0xa5, 0x60660630c30c1981980f00f00603fc0600603fc060060000000000000000),
    (0xa6, 0x60060060060060060060060000000060060060060060060060060000000000),
    (0xa7, 0xf81983183001800e01f830c30c30c30c1f807001800c18c1981f0000000000),
    (0xa8, 0x30c30c000000000000000000000000000000000000000000000000000000000),
    (0xa9, 0x1f830c6066766c66c66c66c667660630c1f8000000000000000),
    (0xaa, 0xf00180180f81981980f80001f8000000000000000000000000000000000000000),
    (0xac, 0x7fe006006006006006000000000000000000000000000),
    (0xae, 0x1f830c6066e66d66d66e66d66d660630c1f8000000000000000),
    (0xb0, 0xf01981981981980f0000000000000000000000000000000000000000000000),
    (0xb1, 0x600600603fc0600600600000003fc000000000000000000000),
    (0xb2, 0xf01980180300600c01981f8000000000000000000000000000000000000000),
    (0xb3, 0xf01980180700180181980f0000000000000000000000000000000000000000),
    (0xb4, 0x180300600c0000000000000000000000000000000000000000000000000000000),
    (0xb6, 0x1fe3666666666666663661e6066066066066066066066000000000000000),
    (0xb7, 0x60060000000000000000000000000000000000), (0xb8, 0x300300300600c0),
    (0xb9, 0x600e01e00600600600600f0000000000000000000000000000000000000000),
    (0xba, 0xf01981981981980f00001f8000000000000000000000000000000000000000),
    (0xbc, 0x18038078018018018618c3d80300600c018030066006006c06c07e00c00c000000),
    (0xbd, 0x18038078018018018618c3d80300600c018033c66600600c01803006607e000000),
    (0xbe, 0x3c06600601c00606663cc0180300600c018030066006006c06c07e00c00c000000),
    (0xbf, 0x600600000000600600600c018030060060060630c1f8000000000000000),
    (0xc0, 0x1800c00600001f830c6066066066066067fe606606606606606606606000000000000000),
    (0xc1, 0x180300600001f830c6066066066066067fe606606606606606606606000000000000000),
    (0xc2, 0xf019830c0001f830c6066066066066067fe606606606606606606606000000000000000),
    (0xc3, 0x1c63fc6380001f830c6066066066066067fe606606606606606606606000000000000000),
    (0xc4, 0x30c30c0001f830c6066066066066067fe606606606606606606606000000000000000),
    (0xc6, 0x1fe3306306306306306307fc63063063063063063063e000000000000000),
    (0xc7, 0x1fe3006006006006006006006006006006006003001fe0300300300600c0),
    (0xc8, 0x1800c00600001fe3006006006006006007f86006006006006003001fe000000000000000),
    (0xc9, 0x180300600001fe3006006006006006007f86006006006006003001fe000000000000000),
    (0xca, 0xf019830c0001fe3006006006006006007f86006006006006003001fe000000000000000),
    (0xcc, 0xc00600300003fc0600600600600600600600600600600600600603fc000000000000000),
    (0xcd, 0x300600c00003fc0600600600600600600600600600600600600603fc000000000000000),
    (0xce, 0xf019830c0003fc0600600600600600600600600600600600600603fc000000000000000),
    (0xd1, 0x1c63fc6380006067067067867866c66c666666663663661e61e60e60e000000000000000),
    (0xd2, 0x1800c00600001f830c60660660660660660660660660660660630c1f8000000000000000),
    (0xd3, 0x180300600001f830c60660660660660660660660660660660630c1f8000000000000000),
    (0xd4, 0xf019830c0001f830c60660660660660660660660660660660630c1f8000000000000000),
    (0xd5, 0x1c63fc6380001f830c60660660660660660660660660660660630c1f8000000000000000),
    (0xd6, 0x30c30c0001f830c60660660660660660660660660660660630c1f8000000000000000),
    (0xd7, 0x60630c1980f00600600f019830c606000000000000000000000),
    (0xd8, 0x61fe30c60e61e61e6366366666666c66c678678630c3f8600600000000000),
    (0xd9, 0x1800c00600006066066066066066066066066066066066066063061fe000000000000000),
    (0xda, 0x180300600006066066066066066066066066066066066066063061fe000000000000000),
    (0xdb, 0xf019830c0006066066066066066066066066066066066066063061fe000000000000000),
    (0xdc, 0x30c30c0006066066066066066066066066066066066066063061fe000000000000000),
    (0xdd, 0x180300600006066066066066066063061fe00600600600600600e7fc000000000000000),
    (0xde, 0x6006006007f860c60660660660660660660660c7f8600600600000000),
    (0xdf, 0x1e03306186186186186306f063860c6066066066866cc678000000000000),
    (0xe0, 0x1800c00600300000003f800c0060061fe3066066066063061fe000000000000000),
    (0xe1, 0x180300600c00000003f800c0060061fe3066066066063061fe000000000000000),
    (0xe2, 0x600f019830c0000003f800c0060061fe3066066066063061fe000000000000000),
    (0xe3, 0x1863c666c6380000003f800c0060061fe3066066066063061fe000000000000000),
    (0xe4, 0x30c30c0000000003f800c0060061fe3066066066063061fe000000000000000),
    (0xe5, 0xf01981980f00000003f800c0060061fe3066066066063061fe000000000000000),
    (0xe6, 0x39e0f60660661fe3606606606603701de000000000000000),
    (0xe7, 0x1fe3006006006006006006006003001fe0300300300600c0),
    (0xe8, 0x1800c00600300000001fe3066066066067fe6006006003001fe000000000000000),
    (0xe9, 0x180300600c00000001fe3066066066067fe6006006003001fe000000000000000),
    (0xea, 0x600f019830c0000001fe3066066066067fe6006006003001fe000000000000000),
    (0xec, 0x1800c00600300000001e0060060060060060060060060060078000000000000000),
    (0xed, 0x180300600c00000001e0060060060060060060060060060078000000000000000),
    (0xee, 0x600f019830c0000001e0060060060060060060060060060078000000000000000),
    (0xf0, 0x6603c01803c06600301f830c60660660660660660660630c1f8000000000000000),
    (0xf1, 0x1863c666c6380000007f860c606606606606606606606606606000000000000000),
    (0xf2, 0x1800c00600300000001f830c60660660660660660660630c1f8000000000000000),
    (0xf3, 0x180300600c00000001f830c60660660660660660660630c1f8000000000000000),
    (0xf4, 0x600f019830c0000001f830c60660660660660660660630c1f8000000000000000),
    (0xf5, 0x1863c666c6380000001f830c60660660660660660660630c1f8000000000000000),
    (0xf6, 0x30c30c0000000001f830c60660660660660660660630c1f8000000000000000),
    (0xf7, 0x600600000003fc000000060060000000000000000000000),
    (0xf8, 0x11fb30e60e61e6366666c678670670cdf8800000000000000),
    (0xf9, 0x1800c00600300000006066066066066066066066066063061fe000000000000000),
    (0xfa, 0x180300600c00000006066066066066066066066066063061fe000000000000000),
    (0xfb, 0x600f019830c0000006066066066066066066066066063061fe000000000000000),
    (0xfc, 0x30c30c0000000006066066066066066066066066063061fe000000000000000),
    (0xfd, 0x180300600c00000006066066066066066066066066063061fe00600600600c7f8),
    (0xfe, 0x6006006006006007f860c60660660660660660660660c7f8600600600600600),
    (0xff, 0x30c30c0000000006066066066066066066066066063061fe00600600600c7f8),
    (0x100, 0x3fc0000001f830c6066066066066067fe606606606606606606606000000000000000),
    (0x101, 0x3fc0000003f800c0060061fe3066066066063061fe000000000000000),
    (0x104, 0x1f830c6066066066066067fe60660660660660660660600e01801800f000),
    (0x105, 0x3f800c0060061fe3066066066063061fe00c01801800f000),
    (0x106, 0x180300600001fe3006006006006006006006006006006006003001fe000000000000000),
    (0x107, 0x180300600c00000001fe3006006006006006006006003001fe000000000000000),
    (0x108, 0xf019830c0001fe3006006006006006006006006006006006003001fe000000000000000),
    (0x109, 0x600f019830c0000001fe3006006006006006006006003001fe000000000000000),
    (0x10a, 0x600600001fe3006006006006006006006006006006006003001fe000000000000000),
    (0x10b, 0x600600000000001fe3006006006006006006006003001fe000000000000000),
    (0x10c, 0x30c1980f00001fe3006006006006006006006006006006006003001fe000000000000000),
    (0x10d, 0x30c1980f00600000001fe3006006006006006006006003001fe000000000000000),
    (0x10e, 0x30c1980f00007f860c60660660660660660660660660660660660c7f8000000000000000),
    (0x10f, 0x30c1980f00000060060060061fe3066066066066066066066063061fe000000000000000),
    (0x111, 0x603f0060061fe3066066066066066066066063061fe000000000000000),
    (0x112, 0x3fc0000001fe3006006006006006007f86006006006006003001fe000000000000000),
    (0x113, 0x3fc0000001fe3066066066067fe6006006003001fe000000000000000),
    (0x116, 0x600600001fe3006006006006006007f86006006006006003001fe000000000000000),
    (0x117, 0x600600000000001fe3066066066067fe6006006003001fe000000000000000),
    (0x118, 0x1fe3006006006006006007f86006006006006003001fe00c01801800f000),
    (0x119, 0x1fe3066066066067fe6006006003001fe00c01801800f000),
    (0x11a, 0x30c1980f00001fe3006006006006006007f86006006006006003001fe000000000000000),
    (0x11b, 0x30c1980f00600000001fe3066066066067fe6006006003001fe000000000000000),
    (0x11c, 0xf019830c0001fe30060060060060060063e6066066066066063061fe000000000000000),
    (0x11d, 0x600f019830c0000001fe3066066066066066066066063061fc00c00600600c3f8),
    (0x11e, 0x1981980f00001fe30060060060060060063e6066066066066063061fe000000000000000),
    (0x11f, 0x1981980f00000001fe3066066066066066066066063061fc00c00600600c3f8),
    (0x120, 0x600600001fe30060060060060060063e6066066066066063061fe000000000000000),
    (0x121, 0x600600000000001fe3066066066066066066066063061fc00c00600600c3f8),
    (0x122, 0x1fe30060060060060060063e6066066066066063061fe0300300300600c0),
    (0x123, 0x300300300600c00000001fe3066066066066066066066063061fc00c00600600c3f8),
    (0x124, 0xf019830c0006066066066066066066067fe606606606606606606606000000000000000),
    (0x125, 0xf019830c0006006006006007f860c606606606606606606606606606000000000000000),
    (0x126, 0x606606fff6066066066067fe606606606606606606606000000000000000),
    (0x127, 0x600fc06006007f860c606606606606606606606606606000000000000000),
    (0x128, 0x1c63fc6380003fc0600600600600600600600600600600600600603fc000000000000000),
    (0x129, 0x1863c666c6380000001e0060060060060060060060060060078000000000000000),
    (0x12a, 0x3fc0000003fc0600600600600600600600600600600600600603fc000000000000000),
    (0x12b, 0x3fc0000001e0060060060060060060060060060078000000000000000),
    (0x12e, 0x3fc0600600600600600600600600600600600600603fc01803003001e000),
    (0x12f, 0x600600000001e006006006006006006006006006007803006006003c000),
    (0x130, 0x600600003fc0600600600600600600600600600600600600603fc000000000000000),
    (0x131, 0x1e0060060060060060060060060060078000000000000000),
    (0x134, 0xf019830c0003fc0600600600600600600600600600600600600e07c0000000000000000),
    (0x135, 0x600f019830c0000000600600600600600600600600600600600600600600c0780),
    (0x136, 0x60660660660660660c6187f061860c6066066066066060600600600c0180),
    (0x137, 0x30030030030030c30c3183303e036033031830c3063060300300300600c0),
    (0x138, 0x30c30c3183303603c036033031830c30c000000000000000),
    (0x139, 0x180300600006006006006006006006006006006006006006003001fe000000000000000),
    (0x13a, 0x180300600000c00c00c00c00c00c00c00c00c00c00c00c00c00e007c000000000000000),
    (0x13b, 0x6006006006006006006006006006006006006003001fe0300300300600c0),
    (0x13c, 0xc00c00c00c00c00c00c00c00c00c00c00c00c00e007c0300300300600c0),
    (0x13d, 0x30c1980f00006006006006006006006006006006006006006003001fe000000000000000),
    (0x13e, 0x30c1980f00000c00c00c00c00c00c00c00c00c00c00c00c00c00e007c000000000000000),
    (0x141, 0x6006006006006c0780700600e00e006006006003001fe000000000000000),
    (0x142, 0xc00c00c00c00d80f00e00c01c01c00c00c00c00e007c000000000000000),
    (0x143, 0x300600c00006067067067867866c66c666666663663661e61e60e60e000000000000000),
    (0x144, 0x180300600c00000007f860c606606606606606606606606606000000000000000),
    (0x145, 0x6067067067867866c66c666666663663661e61e60e60e0600600600c0180),
    (0x146, 0x7f860c6066066066066066066066066060600600600c0180),
    (0x147, 0x30c1980f00006067067067867866c66c666666663663661e61e60e60e000000000000000),
    (0x148, 0x30c1980f00600000007f860c606606606606606606606606606000000000000000),
    (0x14a, 0x6067067067867866c66c666666663663661e61e60e60e00600600c038000),
    (0x14b, 0x7f860c60660660660660660660660660600600600c038000),
    (0x14c, 0x3fc0000001f830c60660660660660660660660660660660630c1f8000000000000000),
    (0x14d, 0x3fc0000001f830c60660660660660660660630c1f8000000000000000),
    (0x150, 0x660cc1980001f830c60660660660660660660660660660660630c1f8000000000000000),
    (0x151, 0x660cc1983300000001f830c60660660660660660660630c1f8000000000000000),
    (0x152, 0x1fe33063063063063063063c6306306306306303301fe000000000000000),
    (0x153, 0x1de37666666667e6606606606603701de000000000000000),
    (0x154, 0x180300600007f860c60660660660660c7f860c606606606606606606000000000000000),
    (0x155, 0x180300600c00000001fe306600600600600600600600600600000000000000000),
    (0x156, 0x7f860c60660660660660c7f860c6066066066066066060600600600c0180),
    (0x157, 0x1fe3066006006006006006006006006000600600600c0180),
    (0x158, 0x30c1980f00007f860c60660660660660c7f860c606606606606606606000000000000000),
    (0x159, 0x30c1980f00600000001fe306600600600600600600600600600000000000000000),
    (0x15a, 0x180300600001fe3006006006006003001f800c00600600600600c7f8000000000000000),
    (0x15b, 0x180300600c00000003fe6006006006003fc0060060060067fc000000000000000),
    (0x15c, 0xf019830c0001fe3006006006006003001f800c00600600600600c7f8000000000000000),
    (0x15d, 0x600f019830c0000003fe6006006006003fc0060060060067fc000000000000000),
    (0x15e, 0x1fe3006006006006003001f800c00600600600600c7f80600600600c0180),
    (0x15f, 0x3fe6006006006003fc0060060060067fc0600600600c0180),
    (0x160, 0x30c1980f00001fe3006006006006003001f800c00600600600600c7f8000000000000000),
    (0x161, 0x30c1980f00600000003fe6006006006003fc0060060060067fc000000000000000),
    (0x162, 0x7fe0600600600600600600600600600600600600600600300300300600c0),
    (0x163, 0xc00c00c00c03f80c00c00c00c00c00c00c00c00e007c0300300300600c0),
    (0x164, 0x30c1980f00007fe060060060060060060060060060060060060060060000000000000000),
    (0x165, 0x30c1980f00000c00c00c00c03f80c00c00c00c00c00c00c00c00e007c000000000000000),
    (0x166, 0x7fe0600600600600600601f8060060060060060060060000000000000000),
    (0x167, 0xc00c00c00c03f80c00c03f80c00c00c00c00c00e007c000000000000000),
    (0x168, 0x1c63fc6380006066066066066066066066066066066066066063061fe000000000000000),
    (0x169, 0x1863c666c6380000006066066066066066066066066063061fe000000000000000),
    (0x16a, 0x3fc0000006066066066066066066066066066066066066063061fe000000000000000),
    (0x16b, 0x3fc0000006066066066066066066066066063061fe000000000000000),
    (0x16c, 0x1981980f00006066066066066066066066066066066066066063061fe000000000000000),
    (0x16d, 0x1981980f00000006066066066066066066066066063061fe000000000000000),
    (0x16e, 0xf01981980f06066066066066066066066066066066066066063061fe000000000000000),
    (0x16f, 0xf01981980f00000006066066066066066066066066063061fe000000000000000),
    (0x170, 0x660cc1980006066066066066066066066066066066066066063061fe000000000000000),
    (0x171, 0x660cc1983300000006066066066066066066066066063061fe000000000000000),
    (0x172, 0x6066066066066066066066066066066066066063061fe00c01801800f000),
    (0x173, 0x6066066066066066066066066063061fe00c01801800f000),
    (0x178, 0x30c30c0006066066066066066063061fe00600600600600600e7fc000000000000000),
    (0x179, 0x180300600007fe00600600600c0180300600c01803006006006007fe000000000000000),
    (0x17a, 0x180300600c00000007fe00600c0180300600c01803006007fe000000000000000),
    (0x17b, 0x600600007fe00600600600c0180300600c01803006006006007fe000000000000000),
    (0x17c, 0x600600000000007fe00600c0180300600c01803006007fe000000000000000),
    (0x17d, 0x30c1980f00007fe00600600600c0180300600c01803006006006007fe000000000000000),
    (0x17e, 0x30c1980f00600000007fe00600c0180300600c01803006007fe000000000000000),
    (0x2d8, 0x30c1980f0000000000000000000000000000000000000000000000000000000000000000),
    (0x2d9, 0x60060000000000000000000000000000000000000000000000000000000000000000),
    (0x2db, 0xc01801800f000),
    (0x2dc, 0x1c63fc638000000000000000000000000000000000000000000000000000000000000000),
    (0x2dd, 0x660cc198000000000000000000000000000000000000000000000000000000000000000),
    (0x40e, 0x1981980f00006066066066066066063061fe00600600600600600e7fc000000000000000),
    (0x411, 0x7f86006006006006006007f860c60660660660660c7f8000000000000000),
    (0x414, 0xfc18c30c30c30c30c30c30c30c30c30c30c3fc606606000000000000000),
    (0x416, 0x66666666666666666636c1f836c666666666666666666000000000000000),
    (0x417, 0x7f800c00600600600c1f800c00600600600600600c7f8000000000000000),
    (0x418, 0x60660e60e61e61e6366366666666c66c6786786706706000000000000000),
    (0x419, 0x1981980f000060660e60e61e61e6366366666666c66c6786786706706000000000000000),
    (0x41b, 0x1fe306606606606606606606606606606606606606606000000000000000),
    (0x423, 0x6066066066066066063061fe00600600600600600e7fc000000000000000),
    (0x426, 0x6066066066066066066066066066066066066063061ff00300300300600c),
    (0x427, 0x6066066066066066063061fe006006006006006006006000000000000000),
    (0x428, 0x66666666666666666666666666666666666666636c1f8000000000000000),
    (0x429, 0x6666666666666666666666666666666666666663661ff00300300300600c),
    (0x42a, 0xf801801801801801801801f818c18618618618618c1f8000000000000000),
    (0x42b, 0x6066066066066066066067c66666366366366366667c6000000000000000),
    (0x42c, 0x1801801801801801801801f818c18618618618618c1f8000000000000000),
    (0x42d, 0x7f800c0060060060060061fe00600600600600600c7f8000000000000000),
    (0x42e, 0x63866c6c66c66c66c66c67c66c66c66c66c66c666c638000000000000000),
    (0x42f, 0x1fe3066066066066063061fe306606606606606606606000000000000000),
    (0x431, 0x1fc3006006007f860c60660660630c1f8000000000000000),
    (0x432, 0x1c03606306306306307607f860c60660660660630c1f8000000000000000),
    (0x433, 0x7fc0060060060063fc6006006006003fe000000000000000),
    (0x434, 0x1fe3066066066066066066066063061fe00600600600c3f8),
    (0x436, 0x66666636c1f80f00f01f836c36c666666000000000000000),
    (0x437, 0x7f800c00600600c1f800c00600600c7f8000000000000000),
    (0x438, 0x6066066066066066066066066063061fe000000000000000),
    (0x439, 0x1981980f00000006066066066066066066066066063061fe000000000000000),
    (0x43a, 0x30c30c3183303603e033031830c306306000000000000000),
    (0x43b, 0x1fe306606606606606606606606606606000000000000000),
    (0x43c, 0x60670e79e6f6666606606606606606606000000000000000),
    (0x43d, 0x6066066066066067fe606606606606606000000000000000),
    (0x43f, 0x7f860c606606606606606606606606606000000000000000),
    (0x442, 0x79866c666666666666666666606606606000000000000000),
    (0x444, 0x1f836c66666666666666666666636c1f8060060060000000),
    (0x446, 0x6066066066066066066066066063061ff00300300300600c),
    (0x447, 0x6066066066066063061fe006006006006000000000000000),
    (0x448, 0x60660660666666666666666666636619e000000000000000),
    (0x449, 0x60660660666666666666666666636619f00300300300600c),
    (0x44a, 0xf801801801801f818c18618618618c1f8000000000000000),
    (0x44b, 0x6066066066067c66666366366366667c6000000000000000),
    (0x44c, 0x1801801801801f818c18618618618c1f8000000000000000),
    (0x44d, 0x7f800c0060060061fe00600600600c7f8000000000000000),
    (0x44e, 0x63866c6c66c66c67c66c66c66c666c638000000000000000),
    (0x44f, 0x1fe3066066063061fe306606606606606000000000000000),
    (0x45e, 0x1981980f00000006066066066066066066066066063061fe00600600600c7f8),
    (0x490, 0x600600c1f8300600600600600600600600600600600000000000000000),
    (0x491, 0x600600c1f8300600600600600600600000000000000000),
    (0x2016, 0x198198198198198198198198198198198198198198198198198198000000000),
    (0x2018, 0x60060060060060060060000000000000000000000000000000000000000000000),
    (0x2019, 0x60060060060060060060000000000000000000000000000000000000000000000),
    (0x201c, 0x30c30c30c30c30c30c30c000000000000000000000000000000000000000000000),
    (0x201d, 0x30c30c30c30c30c30c30c000000000000000000000000000000000000000000000),
    (0x2026, 0x666666000000000000000), (0x2039, 0x300600c01803001800c0060030000000000000000000),
    (0x203a, 0xc006003001800c0180300600c0000000000000000000),
    (0x203c, 0x30c30c30c30c30c30c30c30c30c30c30c00000030c30c000000000000000),
    (0x207f, 0x1f0198198198198198198198000000000000000000000000000000000000000),
    (0x20ac, 0x780cc186186300300ff0300300ff03003001861860cc078000000000000),
    (0x2248, 0x1c636c6380000001c636c638000000000000000000000000),
    (0x2310, 0x7fe600600600600600000000000000000000000000000),
    (0x2580, 0xffffffffffffffffffffffffffffffffffff000000000000000000000000000000000000),
    (0x2584, 0xffffffffffffffffffffffffffffffffffff),
    (0x2588, 0xffffffffffffffffffffffffffffffffffffffffffffffffffffffffffffffffffffffff),
    (0x258c, 0xfc0fc0fc0fc0fc0fc0fc0fc0fc0fc0fc0fc0fc0fc0fc0fc0fc0fc0fc0fc0fc0fc0fc0fc0),
    (0x2590, 0x3f03f03f03f03f03f03f03f03f03f03f03f03f03f03f03f03f03f03f03f03f03f03f03f),
    (0x2591, 0xc36db6180c36db6180c36db6180c36db6180c36db6180c36db6180c36db6180c36db618),
    (0x2592, 0x333333cccccc333333cccccc333333cccccc333333cccccc333333cccccc333333cccccc),
    (0x2593, 0xe79e793cf3cfe79e793cf3cfe79e793cf3cfe79e793cf3cfe79e793cf3cfe79e793cf3cf),
    (0x25c6, 0x400e01f03f87fcffe7fc3f81f00e0040000000000000000000),
    (0x25ca, 0x400e01b031860cc0660c3181b00e0040000000000000000000),
    (0x25cb, 0xf019830c30c30c30c1980f0000000000000000000000000),
    (0x25d8, 0xffffffffffffffffffffffffffff0fe07e07e07e07f0ffffffffffffffffffffffffffff),
    (0x25d9, 0xfffffffffffffffffffffffff0fe67cf3cf3cf3cf3e67f0fffffffffffffffffffffffff),
    (0x2665, 0x3187bcffeffeffeffe7fc7fc3f81f00e0040000000000000000000)]

end LabelRaster.Glyph
