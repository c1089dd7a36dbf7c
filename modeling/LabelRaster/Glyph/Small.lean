/-!
# Glyphs of 6 by 12 pixels

By code point, in ascending order. A glyph is one number: its rows from top to
bottom, 8 bits each, the leftmost pixel in bit 5.
-/

namespace LabelRaster.Glyph

/-- The glyphs of 6 by 12 pixels. -/
def smallGlyphs : Array (Nat × Nat) := #[
    (0x0, 0x120c12120c12000000), (0x1, 0x80808080000080808080000),
    (0x2, 0x1400000000000000000000), (0x3, 0x143e3e1c0800000000), (0x4, 0x81c3e1c0800000000),
    (0x5, 0x1e212529292d211e000000), (0x6, 0x1e212d2b2d2b211e000000),
    (0x7, 0x1c00000000000000000000), (0x8, 0xc120402120c0000000000),
    (0x9, 0x408100000000000000000), (0xa, 0x80810), (0xb, 0x8180808081c0000000000),
    (0xc, 0x18240805261c08182a0f0202), (0xd, 0x10081c22223e222222000000),
    (0xe, 0x4081c22223e222222000000), (0xf, 0x8141c22223e222222000000),
    (0x10, 0x122c1c22223e222222000000), (0x11, 0x10081e20203c20201e000000),
    (0x12, 0x8141e20203c20201e000000), (0x13, 0x14001e20203c20201e000000),
    (0x14, 0x1e2a2a1a0a0a0a0a000000), (0x15, 0xc12080c1212120c04120c),
    (0x16, 0x10081c08080808081c000000), (0x17, 0x4081c08080808081c000000),
    (0x18, 0x8141c08080808081c000000), (0x19, 0x14001c08080808081c000000),
    (0x1a, 0x1c12123a1212121c000000), (0x1b, 0x10081c22222222221c000000),
    (0x1c, 0x4081c22222222221c000000), (0x1d, 0x8141c22222222221c000000),
    (0x1e, 0x122c1c22222222221c000000), (0x1f, 0x120c0c120000000000), (0x20, 0x0),
    (0x21, 0x808080808080008000000), (0x22, 0x1414140000000000000000),
    (0x23, 0x143e1414143e14000000), (0x24, 0x81e28281c0a0a0a3c080000),
    (0x25, 0x2121404080a1210000000), (0x26, 0xc12120c1825221d000000),
    (0x27, 0x808080000000000000000), (0x28, 0x60810101010101008060000),
    (0x29, 0x180402020202020204180000), (0x2a, 0x120c3f0c1200000000), (0x2b, 0x8083e080800000000),
    (0x2c, 0x808100000), (0x2d, 0x3e000000000000), (0x2e, 0x8000000),
    (0x2f, 0x20204040808101020200000), (0x30, 0x1c22262a3222221c000000),
    (0x31, 0x81808080808081c000000), (0x32, 0x1c2202021c20203e000000),
    (0x33, 0x1c22020c0202221c000000), (0x34, 0x20202424243e0404000000),
    (0x35, 0x3e20203c0202023c000000), (0x36, 0x1c20203c2222221c000000),
    (0x37, 0x3e22020408080808000000), (0x38, 0x1c22221c2222221c000000),
    (0x39, 0x1c2222221e02021c000000), (0x3a, 0x800000008000000), (0x3b, 0x800000808100000),
    (0x3c, 0x204081010080402000000), (0x3d, 0x3e003e0000000000), (0x3e, 0x1008040202040810000000),
    (0x3f, 0x1c22020408080008000000), (0x40, 0x1c22222e2e2e201e000000),
    (0x41, 0x1c2222223e222222000000), (0x42, 0x3c22223c2222223c000000),
    (0x43, 0x1e2020202020201e000000), (0x44, 0x3c2222222222223c000000),
    (0x45, 0x1e20203c2020201e000000), (0x46, 0x1e20203c20202020000000),
    (0x47, 0x1e20202e2222221e000000), (0x48, 0x2222223e22222222000000),
    (0x49, 0x1c0808080808081c000000), (0x4a, 0x1c08080808080830000000),
    (0x4b, 0x2222243824222222000000), (0x4c, 0x202020202020201e000000),
    (0x4d, 0x22363e2a22222222000000), (0x4e, 0x2232322a2a262622000000),
    (0x4f, 0x1c2222222222221c000000), (0x50, 0x3c2222223c202020000000),
    (0x51, 0x1c2222222222221c060000), (0x52, 0x3c2222223c222222000000),
    (0x53, 0x1e20201c0202023c000000), (0x54, 0x3e08080808080808000000),
    (0x55, 0x222222222222221e000000), (0x56, 0x2222222222221c1c000000),
    (0x57, 0x222222222a3e3622000000), (0x58, 0x2222140814222222000000),
    (0x59, 0x222222221e02023c000000), (0x5a, 0x3e0204081020203e000000),
    (0x5b, 0x1e10101010101010101e0000), (0x5c, 0x202010100808040402020000),
    (0x5d, 0x1e02020202020202021e0000), (0x5e, 0x814220000000000000000), (0x5f, 0x3e0000),
    (0x60, 0x1008040000000000000000), (0x61, 0x1c021e22221e000000),
    (0x62, 0x20203c222222223c000000), (0x63, 0x1e202020201e000000),
    (0x64, 0x2021e222222221e000000), (0x65, 0x1e22223e201e000000),
    (0x66, 0xe10103c10101010000000), (0x67, 0x1e222222221c023c00),
    (0x68, 0x20203c2222222222000000), (0x69, 0x80018080808080c000000),
    (0x6a, 0x400040404040404180000), (0x6b, 0x2020242830282422000000),
    (0x6c, 0x101010101010100c000000), (0x6d, 0x3c2a2a2a2222000000), (0x6e, 0x3c2222222222000000),
    (0x6f, 0x1c222222221c000000), (0x70, 0x3c222222223c202020), (0x71, 0x1e222222221e020202),
    (0x72, 0x1e2220202020000000), (0x73, 0x1e201c02023c000000), (0x74, 0x101038101010100c000000),
    (0x75, 0x22222222221e000000), (0x76, 0x222222221408000000), (0x77, 0x22222a3e3622000000),
    (0x78, 0x22221c1c2222000000), (0x79, 0x22222222221e02023c), (0x7a, 0x3e020408103e000000),
    (0x7b, 0x60808083030080808060000), (0x7c, 0x80808080808080808080000),
    (0x7d, 0x180404040303040404180000), (0x7e, 0x122c0000000000),
    (0x7f, 0x21c22262a2a32221c200000), (0xa1, 0x800080808080808000000),
    (0xa2, 0x81e282828281e080000), (0xa3, 0xc1210103c10203e000000), (0xa4, 0x120c12120c12000000),
    (0xa5, 0x2214081c081c0808000000), (0xa6, 0x80808080000080808080000),
    (0xa7, 0xc12080c1212120c04120c), (0xa8, 0x1400000000000000000000),
    (0xa9, 0x1e212529292d211e000000), (0xaa, 0xc020e120e001e00000000), (0xac, 0x3e020200000000),
    (0xae, 0x1e212d2b2d2b211e000000), (0xb0, 0xc12120c00000000000000),
    (0xb1, 0x8083e0808003e000000), (0xb2, 0xc120204081e0000000000),
    (0xb3, 0xc120402120c0000000000), (0xb4, 0x408100000000000000000),
    (0xb6, 0x1e2a2a1a0a0a0a0a000000), (0xb7, 0x8000000000000), (0xb8, 0x80810),
    (0xb9, 0x8180808081c0000000000), (0xba, 0xc1212120c001e00000000),
    (0xbc, 0x10301011120408182a0f0202), (0xbd, 0x10301011120408162902040f),
    (0xbe, 0x18240805261c08182a0f0202), (0xbf, 0x80008081020221c000000),
    (0xc0, 0x10081c22223e222222000000), (0xc1, 0x4081c22223e222222000000),
    (0xc2, 0x8141c22223e222222000000), (0xc3, 0x122c1c22223e222222000000),
    (0xc4, 0x14001c22223e222222000000), (0xc6, 0x1e2828283e28282e000000),
    (0xc7, 0x1e2020202020201e080810), (0xc8, 0x10081e20203c20201e000000),
    (0xc9, 0x4081e20203c20201e000000), (0xca, 0x8141e20203c20201e000000),
    (0xcc, 0x10081c08080808081c000000), (0xcd, 0x4081c08080808081c000000),
    (0xce, 0x8141c08080808081c000000), (0xd1, 0x122c2232322a2a2626000000),
    (0xd2, 0x10081c22222222221c000000), (0xd3, 0x4081c22222222221c000000),
    (0xd4, 0x8141c22222222221c000000), (0xd5, 0x122c1c22222222221c000000),
    (0xd6, 0x14001c22222222221c000000), (0xd7, 0x120c0c120000000000),
    (0xd8, 0x21c22262a2a32221c200000), (0xd9, 0x10082222222222221e000000),
    (0xda, 0x4082222222222221e000000), (0xdb, 0x8142222222222221e000000),
    (0xdc, 0x14002222222222221e000000), (0xdd, 0x4082222221e02023c000000),
    (0xde, 0x203c222222223c200000), (0xdf, 0x182424282422322c000000),
    (0xe0, 0x804001c021e22221e000000), (0xe1, 0x408001c021e22221e000000),
    (0xe2, 0x814001c021e22221e000000), (0xe3, 0x122c001c021e22221e000000),
    (0xe4, 0x14001c021e22221e000000), (0xe5, 0x814081c021e22221e000000),
    (0xe6, 0x360a1a2e281e000000), (0xe7, 0x1e202020201e080810), (0xe8, 0x804001e22223e201e000000),
    (0xe9, 0x408001e22223e201e000000), (0xea, 0x814001e22223e201e000000),
    (0xec, 0x8040018080808080c000000), (0xed, 0x4080018080808080c000000),
    (0xee, 0x8140018080808080c000000), (0xf0, 0x2810281c222222221c000000),
    (0xf1, 0x122c003c2222222222000000), (0xf2, 0x804001c222222221c000000),
    (0xf3, 0x408001c222222221c000000), (0xf4, 0x814001c222222221c000000),
    (0xf5, 0x122c001c222222221c000000), (0xf6, 0x14001c222222221c000000),
    (0xf7, 0x8003e000800000000), (0xf8, 0x21c262a32221c200000), (0xf9, 0x8040022222222221e000000),
    (0xfa, 0x4080022222222221e000000), (0xfb, 0x8140022222222221e000000),
    (0xfc, 0x140022222222221e000000), (0xfd, 0x4080022222222221e02023c),
    (0xfe, 0x20203c222222223c202000), (0xff, 0x140022222222221e02023c),
    (0x40e, 0x14082222221e02023c000000), (0x411, 0x3c20203c2222223c000000),
    (0x414, 0xc14141414143e22000000), (0x416, 0x2a2a1c081c2a2a2a000000),
    (0x417, 0x3c02021c0202023c000000), (0x418, 0x2226262a2a323222000000),
    (0x419, 0x14082226262a2a3232000000), (0x41b, 0x1e22222222222222000000),
    (0x423, 0x222222221e02023c000000), (0x426, 0x222222222222221f010102),
    (0x427, 0x222222221e020202000000), (0x428, 0x2a2a2a2a2a2a2a1c000000),
    (0x429, 0x2a2a2a2a2a2a2a1f010102), (0x42a, 0x3808080c0a0a0a0c000000),
    (0x42b, 0x222222322a2a2a32000000), (0x42c, 0x808080c0a0a0a0c000000),
    (0x42d, 0x3c02021e0202023c000000), (0x42e, 0x242a2a3a2a2a2a24000000),
    (0x42f, 0x1e2222221e222222000000), (0x431, 0x1c203c22221c000000),
    (0x432, 0x1028283c2222221c000000), (0x433, 0x3c021c20201e000000),
    (0x434, 0x1e222222221e023c00), (0x436, 0x2a2a1c1c2a2a000000), (0x437, 0x3c021c02023c000000),
    (0x438, 0x22222222221e000000), (0x439, 0x140822222222221e000000),
    (0x43a, 0x222428382422000000), (0x43b, 0x1e2222222222000000), (0x43c, 0x22363e2a2222000000),
    (0x43d, 0x22223e222222000000), (0x43f, 0x3c2222222222000000), (0x442, 0x3c2a2a2a2222000000),
    (0x444, 0x1c2a2a2a2a1c080800), (0x446, 0x22222222221f010102), (0x447, 0x2222221e0202000000),
    (0x448, 0x22222a2a2a1e000000), (0x449, 0x22222a2a2a1f010102), (0x44a, 0x38080c0a0a0c000000),
    (0x44b, 0x2222322a2a32000000), (0x44c, 0x8080c0a0a0c000000), (0x44d, 0x3c02021e023c000000),
    (0x44e, 0x242a3a2a2a24000000), (0x44f, 0x1e22221e2222000000),
    (0x45e, 0x140822222222221e02023c), (0x490, 0x21c202020202020000000),
    (0x491, 0x21c20202020000000), (0x25c6, 0x81c3e1c0800000000), (0x25ca, 0x81422140800000000),
    (0x2665, 0x143e3e1c0800000000)]

end LabelRaster.Glyph
