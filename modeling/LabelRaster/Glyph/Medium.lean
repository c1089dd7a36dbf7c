/-!
# Glyphs of 8 by 16 pixels

By code point, in ascending order. A glyph is one number: its rows from top to
bottom, 8 bits each, the leftmost pixel in bit 7.
-/

namespace LabelRaster.Glyph

/-- The glyphs of 8 by 16 pixels. -/
def mediumGlyphs : Array (Nat × Nat) := #[
    (0x0, 0x0), (0x1, 0x6600000000000000000000000000), (0x2, 0x3c666600000000000000000000000000),
    (0x3, 0x663c6600000000000000000000000000), (0x4, 0x0), (0x5, 0x0),
    (0x6, 0x7e81a500000000000000000000000000), (0x7, 0x8181a500000000000000000000000000),
    (0x8, 0x99818100000000000000000000000000), (0x9, 0x7e000000000000000000000000000000),
    (0xa, 0x0), (0xb, 0x7eff00000000000000000000000000),
    (0xc, 0xdbffff00000000000000000000000000), (0xd, 0xdbe7ff00000000000000000000000000),
    (0xe, 0xff7e0000000000000000000000000000), (0xf, 0x0), (0x10, 0x0),
    (0x11, 0x6cfe00000000000000000000000000), (0x12, 0xfefe7c00000000000000000000000000),
    (0x13, 0x38100000000000000000000000000000), (0x14, 0x0), (0x15, 0x0),
    (0x16, 0x1000000000000000000000000000), (0x17, 0x387cfe00000000000000000000000000),
    (0x18, 0x7c381000000000000000000000000000), (0x19, 0x0), (0x1a, 0x0),
    (0x1b, 0x1800000000000000000000000000), (0x1c, 0x3c3ce700000000000000000000000000),
    (0x1d, 0xe7e71800000000000000000000000000), (0x1e, 0x183c0000000000000000000000000000),
    (0x1f, 0x0), (0x20, 0x0), (0x21, 0x183c7e00000000000000000000000000),
    (0x22, 0xffff7e00000000000000000000000000), (0x23, 0x18183c00000000000000000000000000),
    (0x24, 0x0), (0x25, 0x0), (0x26, 0x0), (0x27, 0x183c00000000000000000000000000),
    (0x28, 0x3c180000000000000000000000000000), (0x29, 0x0),
    (0x2a, 0xff00000000000000000000000000), (0x2b, 0xffffff00000000000000000000000000),
    (0x2c, 0xffffe700000000000000000000000000), (0x2d, 0xc3c3e700000000000000000000000000),
    (0x2e, 0xffffff00000000000000000000000000), (0x2f, 0xffffff00000000000000000000000000),
    (0x30, 0x0), (0x31, 0x3c00000000000000000000000000),
    (0x32, 0x66666600000000000000000000000000), (0x33, 0x663c0000000000000000000000000000),
    (0x34, 0x0), (0x35, 0xffff00000000000000000000000000),
    (0x36, 0xffffff00000000000000000000000000), (0x37, 0xc3999900000000000000000000000000),
    (0x38, 0x9999c300000000000000000000000000), (0x39, 0xffffff00000000000000000000000000),
    (0x3a, 0xffff0000000000000000000000000000), (0x3b, 0xf0700000000000000000000000000),
    (0x3c, 0xd193c00000000000000000000000000), (0x3d, 0x66666600000000000000000000000000),
    (0x3e, 0x663c0000000000000000000000000000), (0x3f, 0x0),
    (0x40, 0x3c00000000000000000000000000), (0x41, 0x66666600000000000000000000000000),
    (0x42, 0x663c1800000000000000000000000000), (0x43, 0x3c181800000000000000000000000000),
    (0x44, 0x0), (0x45, 0x0), (0x46, 0x7e667e00000000000000000000000000),
    (0x47, 0x60606000000000000000000000000000), (0x48, 0x6060c000000000000000000000000000),
    (0x49, 0xc0000000000000000000000000000000), (0x4a, 0x0),
    (0x4b, 0x7e6600000000000000000000000000), (0x4c, 0x7e666600000000000000000000000000),
    (0x4d, 0x66666600000000000000000000000000), (0x4e, 0x6eccc000000000000000000000000000),
    (0x4f, 0x0), (0x50, 0x0), (0x51, 0x1818db00000000000000000000000000),
    (0x52, 0x3ce73c00000000000000000000000000), (0x53, 0xdb181800000000000000000000000000),
    (0x54, 0x0), (0x55, 0x0), (0x56, 0x18181800000000000000000000000000),
    (0x57, 0x18180000000000000000000000000000), (0x58, 0x181800000000000000000000000000),
    (0x59, 0x18181800000000000000000000000000), (0x5a, 0x0),
    (0x5b, 0x6c6c00000000000000000000000000), (0x5c, 0x0), (0x5d, 0x0), (0x5e, 0x0), (0x5f, 0x0),
    (0x60, 0x1800000000000000000000000000), (0x61, 0x3c5a1800000000000000000000000000),
    (0x62, 0x18181800000000000000000000000000), (0x63, 0x5a3c1800000000000000000000000000),
    (0x64, 0x0), (0x65, 0x0), (0x66, 0x66666600000000000000000000000000),
    (0x67, 0x66666600000000000000000000000000), (0x68, 0x66006600000000000000000000000000),
    (0x69, 0x66000000000000000000000000000000), (0x6a, 0x0),
    (0x6b, 0x7ed600000000000000000000000000), (0x6c, 0xd6d67600000000000000000000000000),
    (0x6d, 0x16161600000000000000000000000000), (0x6e, 0x16160000000000000000000000000000),
    (0x6f, 0x0), (0x70, 0x3c6600000000000000000000000000),
    (0x71, 0x60303c00000000000000000000000000), (0x72, 0x66666600000000000000000000000000),
    (0x73, 0x663c0c00000000000000000000000000), (0x74, 0x6663c00000000000000000000000000),
    (0x75, 0x0), (0x76, 0x0), (0x77, 0x0), (0x78, 0xfefefe00000000000000000000000000),
    (0x79, 0xfe000000000000000000000000000000), (0x7a, 0x0),
    (0x7b, 0x183c00000000000000000000000000), (0x7c, 0x5a181800000000000000000000000000),
    (0x7d, 0x18185a00000000000000000000000000), (0x7e, 0x3c187e00000000000000000000000000),
    (0x7f, 0x0)]

end LabelRaster.Glyph
