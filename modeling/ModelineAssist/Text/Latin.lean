import ModelineAssist.Text.Runs

/-!
The ASCII letter behind an accented or otherwise altered Latin letter. Latin letters with a mark, a
stroke, a hook or a turned shape are listed under the ASCII letter they are drawn from. Ligatures
and letters with a name of their own, as thorn, are in no list.
-/
namespace ModelineAssist.Text

/-- The ASCII letters, each with the code points that are variants of it. -/
def latinVariants : List (Char × List Run) :=
  [('A', [⟨0xC0, 0xC5, 1⟩, ⟨0x100, 0x104, 2⟩, ⟨0x1CD, 0x1CD, 1⟩, ⟨0x1DE, 0x1E0, 2⟩,
      ⟨0x1FA, 0x1FA, 1⟩, ⟨0x200, 0x202, 2⟩, ⟨0x226, 0x226, 1⟩, ⟨0x23A, 0x23A, 1⟩,
      ⟨0x1D00, 0x1D00, 1⟩, ⟨0x1E00, 0x1E00, 1⟩, ⟨0x1EA0, 0x1EB6, 2⟩]),
   ('B', [⟨0x181, 0x182, 1⟩, ⟨0x243, 0x243, 1⟩, ⟨0x299, 0x299, 1⟩, ⟨0x1D03, 0x1D03, 1⟩,
      ⟨0x1E02, 0x1E06, 2⟩]),
   ('C', [⟨0xC7, 0xC7, 1⟩, ⟨0x106, 0x10C, 2⟩, ⟨0x187, 0x187, 1⟩, ⟨0x23B, 0x23B, 1⟩,
      ⟨0x1D04, 0x1D04, 1⟩, ⟨0x1E08, 0x1E08, 1⟩]),
   ('D', [⟨0x10E, 0x110, 2⟩, ⟨0x189, 0x18B, 1⟩, ⟨0x1D05, 0x1D05, 1⟩, ⟨0x1E0A, 0x1E12, 2⟩]),
   ('E', [⟨0xC8, 0xCB, 1⟩, ⟨0x112, 0x11A, 2⟩, ⟨0x18E, 0x190, 2⟩, ⟨0x204, 0x206, 2⟩,
      ⟨0x228, 0x228, 1⟩, ⟨0x246, 0x246, 1⟩, ⟨0x1D07, 0x1D07, 1⟩, ⟨0x1E14, 0x1E1C, 2⟩,
      ⟨0x1EB8, 0x1EC6, 2⟩]),
   ('F', [⟨0x191, 0x191, 1⟩, ⟨0x1E1E, 0x1E1E, 1⟩]),
   ('G', [⟨0x11C, 0x122, 2⟩, ⟨0x193, 0x193, 1⟩, ⟨0x1E4, 0x1E6, 2⟩, ⟨0x1F4, 0x1F4, 1⟩,
      ⟨0x262, 0x262, 1⟩, ⟨0x29B, 0x29B, 1⟩, ⟨0x1E20, 0x1E20, 1⟩]),
   ('H', [⟨0x124, 0x126, 2⟩, ⟨0x21E, 0x21E, 1⟩, ⟨0x29C, 0x29C, 1⟩, ⟨0x1E22, 0x1E2A, 2⟩]),
   ('I', [⟨0xCC, 0xCF, 1⟩, ⟨0x128, 0x130, 2⟩, ⟨0x197, 0x197, 1⟩, ⟨0x1CF, 0x1CF, 1⟩,
      ⟨0x208, 0x20A, 2⟩, ⟨0x26A, 0x26A, 1⟩, ⟨0x1D7B, 0x1D7B, 1⟩, ⟨0x1E2C, 0x1E2E, 2⟩,
      ⟨0x1EC8, 0x1ECA, 2⟩]),
   ('J', [⟨0x134, 0x134, 1⟩, ⟨0x248, 0x248, 1⟩, ⟨0x1D0A, 0x1D0A, 1⟩]),
   ('K', [⟨0x136, 0x136, 1⟩, ⟨0x198, 0x198, 1⟩, ⟨0x1E8, 0x1E8, 1⟩, ⟨0x1D0B, 0x1D0B, 1⟩,
      ⟨0x1E30, 0x1E34, 2⟩]),
   ('L', [⟨0x139, 0x141, 2⟩, ⟨0x23D, 0x23D, 1⟩, ⟨0x29F, 0x29F, 1⟩, ⟨0x1D0C, 0x1D0C, 1⟩,
      ⟨0x1E36, 0x1E3C, 2⟩]),
   ('M', [⟨0x19C, 0x19C, 1⟩, ⟨0x1D0D, 0x1D0D, 1⟩, ⟨0x1E3E, 0x1E42, 2⟩]),
   ('N', [⟨0xD1, 0xD1, 1⟩, ⟨0x143, 0x147, 2⟩, ⟨0x19D, 0x19D, 1⟩, ⟨0x1F8, 0x1F8, 1⟩,
      ⟨0x220, 0x220, 1⟩, ⟨0x274, 0x274, 1⟩, ⟨0x1D0E, 0x1D0E, 1⟩, ⟨0x1E44, 0x1E4A, 2⟩]),
   ('O', [⟨0xD2, 0xD6, 1⟩, ⟨0xD8, 0xD8, 1⟩, ⟨0x14C, 0x150, 2⟩, ⟨0x186, 0x186, 1⟩, ⟨0x19F, 0x1A0, 1⟩,
      ⟨0x1D1, 0x1D1, 1⟩, ⟨0x1EA, 0x1EC, 2⟩, ⟨0x1FE, 0x1FE, 1⟩, ⟨0x20C, 0x20E, 2⟩, ⟨0x22A, 0x230, 2⟩,
      ⟨0x1D0F, 0x1D10, 1⟩, ⟨0x1E4C, 0x1E52, 2⟩, ⟨0x1ECC, 0x1EE2, 2⟩]),
   ('P', [⟨0x1A4, 0x1A4, 1⟩, ⟨0x1D18, 0x1D18, 1⟩, ⟨0x1E54, 0x1E56, 2⟩]),
   ('R', [⟨0x154, 0x158, 2⟩, ⟨0x210, 0x212, 2⟩, ⟨0x24C, 0x24C, 1⟩, ⟨0x280, 0x281, 1⟩,
      ⟨0x1D19, 0x1D1A, 1⟩, ⟨0x1E58, 0x1E5E, 2⟩]),
   ('S', [⟨0x15A, 0x160, 2⟩, ⟨0x218, 0x218, 1⟩, ⟨0x1E60, 0x1E68, 2⟩, ⟨0x1E9E, 0x1E9E, 1⟩]),
   ('T', [⟨0x162, 0x166, 2⟩, ⟨0x1AC, 0x1AE, 2⟩, ⟨0x21A, 0x21A, 1⟩, ⟨0x23E, 0x23E, 1⟩,
      ⟨0x1D1B, 0x1D1B, 1⟩, ⟨0x1E6A, 0x1E70, 2⟩]),
   ('U', [⟨0xD9, 0xDC, 1⟩, ⟨0x168, 0x172, 2⟩, ⟨0x1AF, 0x1AF, 1⟩, ⟨0x1D3, 0x1DB, 2⟩,
      ⟨0x214, 0x216, 2⟩, ⟨0x244, 0x244, 1⟩, ⟨0x1D1C, 0x1D1C, 1⟩, ⟨0x1D7E, 0x1D7E, 1⟩,
      ⟨0x1E72, 0x1E7A, 2⟩, ⟨0x1EE4, 0x1EF0, 2⟩]),
   ('V', [⟨0x1B2, 0x1B2, 1⟩, ⟨0x245, 0x245, 1⟩, ⟨0x1D20, 0x1D20, 1⟩, ⟨0x1E7C, 0x1E7E, 2⟩]),
   ('W', [⟨0x174, 0x174, 1⟩, ⟨0x1D21, 0x1D21, 1⟩, ⟨0x1E80, 0x1E88, 2⟩]),
   ('X', [⟨0x1E8A, 0x1E8C, 2⟩]),
   ('Y', [⟨0xDD, 0xDD, 1⟩, ⟨0x176, 0x178, 2⟩, ⟨0x1B3, 0x1B3, 1⟩, ⟨0x232, 0x232, 1⟩,
      ⟨0x24E, 0x24E, 1⟩, ⟨0x28F, 0x28F, 1⟩, ⟨0x1E8E, 0x1E8E, 1⟩, ⟨0x1EF2, 0x1EF8, 2⟩,
      ⟨0x1EFE, 0x1EFE, 1⟩]),
   ('Z', [⟨0x179, 0x17D, 2⟩, ⟨0x1B5, 0x1B5, 1⟩, ⟨0x224, 0x224, 1⟩, ⟨0x1D22, 0x1D22, 1⟩,
      ⟨0x1E90, 0x1E94, 2⟩]),
   ('a', [⟨0xE0, 0xE5, 1⟩, ⟨0x101, 0x105, 2⟩, ⟨0x1CE, 0x1CE, 1⟩, ⟨0x1DF, 0x1E1, 2⟩,
      ⟨0x1FB, 0x1FB, 1⟩, ⟨0x201, 0x203, 2⟩, ⟨0x227, 0x227, 1⟩, ⟨0x250, 0x250, 1⟩,
      ⟨0x1D8F, 0x1D8F, 1⟩, ⟨0x1E01, 0x1E01, 1⟩, ⟨0x1E9A, 0x1E9A, 1⟩, ⟨0x1EA1, 0x1EB7, 2⟩,
      ⟨0x2090, 0x2090, 1⟩]),
   ('b', [⟨0x180, 0x180, 1⟩, ⟨0x183, 0x183, 1⟩, ⟨0x253, 0x253, 1⟩, ⟨0x1D6C, 0x1D6C, 1⟩,
      ⟨0x1D80, 0x1D80, 1⟩, ⟨0x1E03, 0x1E07, 2⟩]),
   ('c', [⟨0xE7, 0xE7, 1⟩, ⟨0x107, 0x10D, 2⟩, ⟨0x188, 0x188, 1⟩, ⟨0x23C, 0x23C, 1⟩,
      ⟨0x255, 0x255, 1⟩, ⟨0x297, 0x297, 1⟩, ⟨0x1E09, 0x1E09, 1⟩, ⟨0x2184, 0x2184, 1⟩]),
   ('d', [⟨0x10F, 0x111, 2⟩, ⟨0x18C, 0x18C, 1⟩, ⟨0x221, 0x221, 1⟩, ⟨0x256, 0x257, 1⟩,
      ⟨0x1D6D, 0x1D6D, 1⟩, ⟨0x1D81, 0x1D81, 1⟩, ⟨0x1D91, 0x1D91, 1⟩, ⟨0x1E0B, 0x1E13, 2⟩]),
   ('e', [⟨0xE8, 0xEB, 1⟩, ⟨0x113, 0x11B, 2⟩, ⟨0x1DD, 0x1DD, 1⟩, ⟨0x205, 0x207, 2⟩,
      ⟨0x229, 0x229, 1⟩, ⟨0x247, 0x247, 1⟩, ⟨0x258, 0x258, 1⟩, ⟨0x25B, 0x25E, 1⟩, ⟨0x29A, 0x29A, 1⟩,
      ⟨0x1D08, 0x1D08, 1⟩, ⟨0x1D92, 0x1D94, 1⟩, ⟨0x1E15, 0x1E1D, 2⟩, ⟨0x1EB9, 0x1EC7, 2⟩,
      ⟨0x2091, 0x2091, 1⟩]),
   ('f', [⟨0x192, 0x192, 1⟩, ⟨0x1D6E, 0x1D6E, 1⟩, ⟨0x1D82, 0x1D82, 1⟩, ⟨0x1E1F, 0x1E1F, 1⟩]),
   ('g', [⟨0x11D, 0x123, 2⟩, ⟨0x1E5, 0x1E7, 2⟩, ⟨0x1F5, 0x1F5, 1⟩, ⟨0x260, 0x261, 1⟩,
      ⟨0x1D77, 0x1D79, 2⟩, ⟨0x1D83, 0x1D83, 1⟩, ⟨0x1E21, 0x1E21, 1⟩]),
   ('h', [⟨0x125, 0x127, 2⟩, ⟨0x21F, 0x21F, 1⟩, ⟨0x265, 0x266, 1⟩, ⟨0x1E23, 0x1E2B, 2⟩,
      ⟨0x1E96, 0x1E96, 1⟩, ⟨0x2095, 0x2095, 1⟩]),
   ('i', [⟨0xEC, 0xEF, 1⟩, ⟨0x129, 0x131, 2⟩, ⟨0x1D0, 0x1D0, 1⟩, ⟨0x209, 0x20B, 2⟩,
      ⟨0x268, 0x268, 1⟩, ⟨0x1D09, 0x1D09, 1⟩, ⟨0x1D62, 0x1D62, 1⟩, ⟨0x1D96, 0x1D96, 1⟩,
      ⟨0x1E2D, 0x1E2F, 2⟩, ⟨0x1EC9, 0x1ECB, 2⟩, ⟨0x2071, 0x2071, 1⟩]),
   ('j', [⟨0x135, 0x135, 1⟩, ⟨0x1F0, 0x1F0, 1⟩, ⟨0x237, 0x237, 1⟩, ⟨0x249, 0x249, 1⟩,
      ⟨0x25F, 0x25F, 1⟩, ⟨0x284, 0x284, 1⟩, ⟨0x29D, 0x29D, 1⟩]),
   ('k', [⟨0x137, 0x137, 1⟩, ⟨0x199, 0x199, 1⟩, ⟨0x1E9, 0x1E9, 1⟩, ⟨0x29E, 0x29E, 1⟩,
      ⟨0x1D84, 0x1D84, 1⟩, ⟨0x1E31, 0x1E35, 2⟩, ⟨0x2096, 0x2096, 1⟩]),
   ('l', [⟨0x13A, 0x142, 2⟩, ⟨0x19A, 0x19A, 1⟩, ⟨0x234, 0x234, 1⟩, ⟨0x26B, 0x26D, 1⟩,
      ⟨0x1D85, 0x1D85, 1⟩, ⟨0x1E37, 0x1E3D, 2⟩, ⟨0x2097, 0x2097, 1⟩]),
   ('m', [⟨0x26F, 0x271, 1⟩, ⟨0x1D1F, 0x1D1F, 1⟩, ⟨0x1D6F, 0x1D6F, 1⟩, ⟨0x1D86, 0x1D86, 1⟩,
      ⟨0x1E3F, 0x1E43, 2⟩, ⟨0x2098, 0x2098, 1⟩]),
   ('n', [⟨0xF1, 0xF1, 1⟩, ⟨0x144, 0x146, 2⟩, ⟨0x148, 0x149, 1⟩, ⟨0x19E, 0x19E, 1⟩,
      ⟨0x1F9, 0x1F9, 1⟩, ⟨0x235, 0x235, 1⟩, ⟨0x272, 0x273, 1⟩, ⟨0x1D70, 0x1D70, 1⟩,
      ⟨0x1D87, 0x1D87, 1⟩, ⟨0x1E45, 0x1E4B, 2⟩, ⟨0x207F, 0x207F, 1⟩, ⟨0x2099, 0x2099, 1⟩]),
   ('o', [⟨0xF2, 0xF6, 1⟩, ⟨0xF8, 0xF8, 1⟩, ⟨0x14D, 0x151, 2⟩, ⟨0x1A1, 0x1A1, 1⟩, ⟨0x1D2, 0x1D2, 1⟩,
      ⟨0x1EB, 0x1ED, 2⟩, ⟨0x1FF, 0x1FF, 1⟩, ⟨0x20D, 0x20F, 2⟩, ⟨0x22B, 0x231, 2⟩, ⟨0x254, 0x254, 1⟩,
      ⟨0x275, 0x275, 1⟩, ⟨0x1D11, 0x1D13, 2⟩, ⟨0x1D16, 0x1D17, 1⟩, ⟨0x1D97, 0x1D97, 1⟩,
      ⟨0x1E4D, 0x1E53, 2⟩, ⟨0x1ECD, 0x1EE3, 2⟩, ⟨0x2092, 0x2092, 1⟩]),
   ('p', [⟨0x1A5, 0x1A5, 1⟩, ⟨0x1D71, 0x1D71, 1⟩, ⟨0x1D7D, 0x1D7D, 1⟩, ⟨0x1D88, 0x1D88, 1⟩,
      ⟨0x1E55, 0x1E57, 2⟩, ⟨0x209A, 0x209A, 1⟩]),
   ('q', [⟨0x24B, 0x24B, 1⟩]),
   ('r', [⟨0x155, 0x159, 2⟩, ⟨0x211, 0x213, 2⟩, ⟨0x24D, 0x24D, 1⟩, ⟨0x279, 0x27F, 1⟩,
      ⟨0x1D63, 0x1D63, 1⟩, ⟨0x1D72, 0x1D73, 1⟩, ⟨0x1D89, 0x1D89, 1⟩, ⟨0x1E59, 0x1E5F, 2⟩]),
   ('s', [⟨0xDF, 0xDF, 1⟩, ⟨0x15B, 0x161, 2⟩, ⟨0x17F, 0x17F, 1⟩, ⟨0x219, 0x219, 1⟩,
      ⟨0x23F, 0x23F, 1⟩, ⟨0x282, 0x282, 1⟩, ⟨0x1D74, 0x1D74, 1⟩, ⟨0x1D8A, 0x1D8A, 1⟩,
      ⟨0x1E61, 0x1E69, 2⟩, ⟨0x1E9B, 0x1E9D, 1⟩, ⟨0x209B, 0x209B, 1⟩]),
   ('t', [⟨0x163, 0x167, 2⟩, ⟨0x1AB, 0x1AD, 2⟩, ⟨0x21B, 0x21B, 1⟩, ⟨0x236, 0x236, 1⟩,
      ⟨0x287, 0x288, 1⟩, ⟨0x1D75, 0x1D75, 1⟩, ⟨0x1E6B, 0x1E71, 2⟩, ⟨0x1E97, 0x1E97, 1⟩,
      ⟨0x209C, 0x209C, 1⟩]),
   ('u', [⟨0xF9, 0xFC, 1⟩, ⟨0x169, 0x173, 2⟩, ⟨0x1B0, 0x1B0, 1⟩, ⟨0x1D4, 0x1DC, 2⟩,
      ⟨0x215, 0x217, 2⟩, ⟨0x289, 0x289, 1⟩, ⟨0x1D1D, 0x1D1D, 1⟩, ⟨0x1D64, 0x1D64, 1⟩,
      ⟨0x1D99, 0x1D99, 1⟩, ⟨0x1E73, 0x1E7B, 2⟩, ⟨0x1EE5, 0x1EF1, 2⟩]),
   ('v', [⟨0x28B, 0x28C, 1⟩, ⟨0x1D65, 0x1D65, 1⟩, ⟨0x1D8C, 0x1D8C, 1⟩, ⟨0x1E7D, 0x1E7F, 2⟩]),
   ('w', [⟨0x175, 0x175, 1⟩, ⟨0x28D, 0x28D, 1⟩, ⟨0x1E81, 0x1E89, 2⟩, ⟨0x1E98, 0x1E98, 1⟩]),
   ('x', [⟨0x1D8D, 0x1D8D, 1⟩, ⟨0x1E8B, 0x1E8D, 2⟩, ⟨0x2093, 0x2093, 1⟩]),
   ('y', [⟨0xFD, 0xFF, 2⟩, ⟨0x177, 0x177, 1⟩, ⟨0x1B4, 0x1B4, 1⟩, ⟨0x233, 0x233, 1⟩,
      ⟨0x24F, 0x24F, 1⟩, ⟨0x28E, 0x28E, 1⟩, ⟨0x1E8F, 0x1E8F, 1⟩, ⟨0x1E99, 0x1E99, 1⟩,
      ⟨0x1EF3, 0x1EF9, 2⟩, ⟨0x1EFF, 0x1EFF, 1⟩]),
   ('z', [⟨0x17A, 0x17E, 2⟩, ⟨0x1B6, 0x1B6, 1⟩, ⟨0x225, 0x225, 1⟩, ⟨0x240, 0x240, 1⟩,
      ⟨0x290, 0x291, 1⟩, ⟨0x1D76, 0x1D76, 1⟩, ⟨0x1D8E, 0x1D8E, 1⟩, ⟨0x1E91, 0x1E95, 2⟩])]

/-- The ASCII letter that a Latin letter is a variant of; any other character stays. -/
def latinBase (c : Char) : Char :=
  if c.toNat < 0xC0 then c else
  match latinVariants.find? (fun entry => onRuns entry.2 c.toNat) with
  | some entry => entry.1
  | none => c

/-- Whether the character is a variant of an ASCII letter. -/
def isLatinVariant (c : Char) : Bool := latinBase c != c

end ModelineAssist.Text
