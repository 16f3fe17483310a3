import CoolProof.Library.TextWords

/-! Letter case of the Python standard library: `lower`, with the two forms of a small sigma,
and `casefold`, the full case folding. The tables have the code points by pages of 256. -/

namespace PythonText

/-! ## Tables -/

/-- Every `step`th code point from `first` to `last`; they are mapped to the code points from
`target` on, each followed by `suffix`. -/
structure CaseRange where
  first : Nat
  last : Nat
  step : Nat
  target : Nat
  suffix : List Nat

def CaseRange.has (r : CaseRange) (c : Nat) : Bool :=
  r.first.ble c && c.ble r.last && ((c - r.first) % r.step).beq 0

def CaseRange.image (r : CaseRange) (c : Nat) : List Nat := (r.target + (c - r.first)) :: r.suffix

/-- A test of all code points of a range with what they are mapped to. -/
def CaseRange.all (r : CaseRange) (test : Nat → List Nat → Bool) : Bool :=
  (List.range ((r.last - r.first) / r.step + 1)).all fun k =>
    test (r.first + k * r.step) ((r.target + k * r.step) :: r.suffix)

abbrev CaseTable := List (Nat × List CaseRange)

def CaseTable.range? (table : CaseTable) (c : Nat) : Option CaseRange :=
  (table.find? fun page => page.1.beq (c / 256)).bind fun page => page.2.find? fun r => r.has c

def CaseTable.all (table : CaseTable) (test : Nat → List Nat → Bool) : Bool :=
  List.all table fun page => page.2.all fun r => r.all test

/-- The code points with another lower case. -/
def lowerTable : CaseTable :=
  [(0x0, [⟨0x41, 0x5A, 1, 0x61, []⟩, ⟨0xC0, 0xD6, 1, 0xE0, []⟩, ⟨0xD8, 0xDE, 1, 0xF8, []⟩]),
   (0x1, [⟨0x100, 0x12E, 2, 0x101, []⟩, ⟨0x130, 0x130, 1, 0x69, [0x307]⟩,
     ⟨0x132, 0x136, 2, 0x133, []⟩, ⟨0x139, 0x147, 2, 0x13A, []⟩, ⟨0x14A, 0x176, 2, 0x14B, []⟩,
     ⟨0x178, 0x178, 1, 0xFF, []⟩, ⟨0x179, 0x17D, 2, 0x17A, []⟩, ⟨0x181, 0x181, 1, 0x253, []⟩,
     ⟨0x182, 0x184, 2, 0x183, []⟩, ⟨0x186, 0x186, 1, 0x254, []⟩, ⟨0x187, 0x187, 1, 0x188, []⟩,
     ⟨0x189, 0x18A, 1, 0x256, []⟩, ⟨0x18B, 0x18B, 1, 0x18C, []⟩, ⟨0x18E, 0x18E, 1, 0x1DD, []⟩,
     ⟨0x18F, 0x18F, 1, 0x259, []⟩, ⟨0x190, 0x190, 1, 0x25B, []⟩, ⟨0x191, 0x191, 1, 0x192, []⟩,
     ⟨0x193, 0x193, 1, 0x260, []⟩, ⟨0x194, 0x194, 1, 0x263, []⟩, ⟨0x196, 0x196, 1, 0x269, []⟩,
     ⟨0x197, 0x197, 1, 0x268, []⟩, ⟨0x198, 0x198, 1, 0x199, []⟩, ⟨0x19C, 0x19C, 1, 0x26F, []⟩,
     ⟨0x19D, 0x19D, 1, 0x272, []⟩, ⟨0x19F, 0x19F, 1, 0x275, []⟩, ⟨0x1A0, 0x1A4, 2, 0x1A1, []⟩,
     ⟨0x1A6, 0x1A6, 1, 0x280, []⟩, ⟨0x1A7, 0x1A7, 1, 0x1A8, []⟩, ⟨0x1A9, 0x1A9, 1, 0x283, []⟩,
     ⟨0x1AC, 0x1AC, 1, 0x1AD, []⟩, ⟨0x1AE, 0x1AE, 1, 0x288, []⟩, ⟨0x1AF, 0x1AF, 1, 0x1B0, []⟩,
     ⟨0x1B1, 0x1B2, 1, 0x28A, []⟩, ⟨0x1B3, 0x1B5, 2, 0x1B4, []⟩, ⟨0x1B7, 0x1B7, 1, 0x292, []⟩,
     ⟨0x1B8, 0x1B8, 1, 0x1B9, []⟩, ⟨0x1BC, 0x1BC, 1, 0x1BD, []⟩, ⟨0x1C4, 0x1C4, 1, 0x1C6, []⟩,
     ⟨0x1C5, 0x1C5, 1, 0x1C6, []⟩, ⟨0x1C7, 0x1C7, 1, 0x1C9, []⟩, ⟨0x1C8, 0x1C8, 1, 0x1C9, []⟩,
     ⟨0x1CA, 0x1CA, 1, 0x1CC, []⟩, ⟨0x1CB, 0x1DB, 2, 0x1CC, []⟩, ⟨0x1DE, 0x1EE, 2, 0x1DF, []⟩,
     ⟨0x1F1, 0x1F1, 1, 0x1F3, []⟩, ⟨0x1F2, 0x1F4, 2, 0x1F3, []⟩, ⟨0x1F6, 0x1F6, 1, 0x195, []⟩,
     ⟨0x1F7, 0x1F7, 1, 0x1BF, []⟩, ⟨0x1F8, 0x1FE, 2, 0x1F9, []⟩]),
   (0x2, [⟨0x200, 0x21E, 2, 0x201, []⟩, ⟨0x220, 0x220, 1, 0x19E, []⟩,
     ⟨0x222, 0x232, 2, 0x223, []⟩, ⟨0x23A, 0x23A, 1, 0x2C65, []⟩, ⟨0x23B, 0x23B, 1, 0x23C, []⟩,
     ⟨0x23D, 0x23D, 1, 0x19A, []⟩, ⟨0x23E, 0x23E, 1, 0x2C66, []⟩, ⟨0x241, 0x241, 1, 0x242, []⟩,
     ⟨0x243, 0x243, 1, 0x180, []⟩, ⟨0x244, 0x244, 1, 0x289, []⟩, ⟨0x245, 0x245, 1, 0x28C, []⟩,
     ⟨0x246, 0x24E, 2, 0x247, []⟩]),
   (0x3, [⟨0x370, 0x372, 2, 0x371, []⟩, ⟨0x376, 0x376, 1, 0x377, []⟩,
     ⟨0x37F, 0x37F, 1, 0x3F3, []⟩, ⟨0x386, 0x386, 1, 0x3AC, []⟩, ⟨0x388, 0x38A, 1, 0x3AD, []⟩,
     ⟨0x38C, 0x38C, 1, 0x3CC, []⟩, ⟨0x38E, 0x38F, 1, 0x3CD, []⟩, ⟨0x391, 0x3A1, 1, 0x3B1, []⟩,
     ⟨0x3A3, 0x3AB, 1, 0x3C3, []⟩, ⟨0x3CF, 0x3CF, 1, 0x3D7, []⟩, ⟨0x3D8, 0x3EE, 2, 0x3D9, []⟩,
     ⟨0x3F4, 0x3F4, 1, 0x3B8, []⟩, ⟨0x3F7, 0x3F7, 1, 0x3F8, []⟩, ⟨0x3F9, 0x3F9, 1, 0x3F2, []⟩,
     ⟨0x3FA, 0x3FA, 1, 0x3FB, []⟩, ⟨0x3FD, 0x3FF, 1, 0x37B, []⟩]),
   (0x4, [⟨0x400, 0x40F, 1, 0x450, []⟩, ⟨0x410, 0x42F, 1, 0x430, []⟩,
     ⟨0x460, 0x480, 2, 0x461, []⟩, ⟨0x48A, 0x4BE, 2, 0x48B, []⟩, ⟨0x4C0, 0x4C0, 1, 0x4CF, []⟩,
     ⟨0x4C1, 0x4CD, 2, 0x4C2, []⟩, ⟨0x4D0, 0x4FE, 2, 0x4D1, []⟩]),
   (0x5, [⟨0x500, 0x52E, 2, 0x501, []⟩, ⟨0x531, 0x556, 1, 0x561, []⟩]),
   (0x10, [⟨0x10A0, 0x10C5, 1, 0x2D00, []⟩, ⟨0x10C7, 0x10C7, 1, 0x2D27, []⟩,
     ⟨0x10CD, 0x10CD, 1, 0x2D2D, []⟩]),
   (0x13, [⟨0x13A0, 0x13EF, 1, 0xAB70, []⟩, ⟨0x13F0, 0x13F5, 1, 0x13F8, []⟩]),
   (0x1C, [⟨0x1C90, 0x1CBA, 1, 0x10D0, []⟩, ⟨0x1CBD, 0x1CBF, 1, 0x10FD, []⟩]),
   (0x1E, [⟨0x1E00, 0x1E94, 2, 0x1E01, []⟩, ⟨0x1E9E, 0x1E9E, 1, 0xDF, []⟩,
     ⟨0x1EA0, 0x1EFE, 2, 0x1EA1, []⟩]),
   (0x1F, [⟨0x1F08, 0x1F0F, 1, 0x1F00, []⟩, ⟨0x1F18, 0x1F1D, 1, 0x1F10, []⟩,
     ⟨0x1F28, 0x1F2F, 1, 0x1F20, []⟩, ⟨0x1F38, 0x1F3F, 1, 0x1F30, []⟩,
     ⟨0x1F48, 0x1F4D, 1, 0x1F40, []⟩, ⟨0x1F59, 0x1F5F, 2, 0x1F51, []⟩,
     ⟨0x1F68, 0x1F6F, 1, 0x1F60, []⟩, ⟨0x1F88, 0x1F8F, 1, 0x1F80, []⟩,
     ⟨0x1F98, 0x1F9F, 1, 0x1F90, []⟩, ⟨0x1FA8, 0x1FAF, 1, 0x1FA0, []⟩,
     ⟨0x1FB8, 0x1FB9, 1, 0x1FB0, []⟩, ⟨0x1FBA, 0x1FBB, 1, 0x1F70, []⟩,
     ⟨0x1FBC, 0x1FBC, 1, 0x1FB3, []⟩, ⟨0x1FC8, 0x1FCB, 1, 0x1F72, []⟩,
     ⟨0x1FCC, 0x1FCC, 1, 0x1FC3, []⟩, ⟨0x1FD8, 0x1FD9, 1, 0x1FD0, []⟩,
     ⟨0x1FDA, 0x1FDB, 1, 0x1F76, []⟩, ⟨0x1FE8, 0x1FE9, 1, 0x1FE0, []⟩,
     ⟨0x1FEA, 0x1FEB, 1, 0x1F7A, []⟩, ⟨0x1FEC, 0x1FEC, 1, 0x1FE5, []⟩,
     ⟨0x1FF8, 0x1FF9, 1, 0x1F78, []⟩, ⟨0x1FFA, 0x1FFB, 1, 0x1F7C, []⟩,
     ⟨0x1FFC, 0x1FFC, 1, 0x1FF3, []⟩]),
   (0x21, [⟨0x2126, 0x2126, 1, 0x3C9, []⟩, ⟨0x212A, 0x212A, 1, 0x6B, []⟩,
     ⟨0x212B, 0x212B, 1, 0xE5, []⟩, ⟨0x2132, 0x2132, 1, 0x214E, []⟩,
     ⟨0x2160, 0x216F, 1, 0x2170, []⟩, ⟨0x2183, 0x2183, 1, 0x2184, []⟩]),
   (0x24, [⟨0x24B6, 0x24CF, 1, 0x24D0, []⟩]),
   (0x2C, [⟨0x2C00, 0x2C2F, 1, 0x2C30, []⟩, ⟨0x2C60, 0x2C60, 1, 0x2C61, []⟩,
     ⟨0x2C62, 0x2C62, 1, 0x26B, []⟩, ⟨0x2C63, 0x2C63, 1, 0x1D7D, []⟩,
     ⟨0x2C64, 0x2C64, 1, 0x27D, []⟩, ⟨0x2C67, 0x2C6B, 2, 0x2C68, []⟩,
     ⟨0x2C6D, 0x2C6D, 1, 0x251, []⟩, ⟨0x2C6E, 0x2C6E, 1, 0x271, []⟩,
     ⟨0x2C6F, 0x2C6F, 1, 0x250, []⟩, ⟨0x2C70, 0x2C70, 1, 0x252, []⟩,
     ⟨0x2C72, 0x2C72, 1, 0x2C73, []⟩, ⟨0x2C75, 0x2C75, 1, 0x2C76, []⟩,
     ⟨0x2C7E, 0x2C7F, 1, 0x23F, []⟩, ⟨0x2C80, 0x2CE2, 2, 0x2C81, []⟩,
     ⟨0x2CEB, 0x2CED, 2, 0x2CEC, []⟩, ⟨0x2CF2, 0x2CF2, 1, 0x2CF3, []⟩]),
   (0xA6, [⟨0xA640, 0xA66C, 2, 0xA641, []⟩, ⟨0xA680, 0xA69A, 2, 0xA681, []⟩]),
   (0xA7, [⟨0xA722, 0xA72E, 2, 0xA723, []⟩, ⟨0xA732, 0xA76E, 2, 0xA733, []⟩,
     ⟨0xA779, 0xA77B, 2, 0xA77A, []⟩, ⟨0xA77D, 0xA77D, 1, 0x1D79, []⟩,
     ⟨0xA77E, 0xA786, 2, 0xA77F, []⟩, ⟨0xA78B, 0xA78B, 1, 0xA78C, []⟩,
     ⟨0xA78D, 0xA78D, 1, 0x265, []⟩, ⟨0xA790, 0xA792, 2, 0xA791, []⟩,
     ⟨0xA796, 0xA7A8, 2, 0xA797, []⟩, ⟨0xA7AA, 0xA7AA, 1, 0x266, []⟩,
     ⟨0xA7AB, 0xA7AB, 1, 0x25C, []⟩, ⟨0xA7AC, 0xA7AC, 1, 0x261, []⟩,
     ⟨0xA7AD, 0xA7AD, 1, 0x26C, []⟩, ⟨0xA7AE, 0xA7AE, 1, 0x26A, []⟩,
     ⟨0xA7B0, 0xA7B0, 1, 0x29E, []⟩, ⟨0xA7B1, 0xA7B1, 1, 0x287, []⟩,
     ⟨0xA7B2, 0xA7B2, 1, 0x29D, []⟩, ⟨0xA7B3, 0xA7B3, 1, 0xAB53, []⟩,
     ⟨0xA7B4, 0xA7C2, 2, 0xA7B5, []⟩, ⟨0xA7C4, 0xA7C4, 1, 0xA794, []⟩,
     ⟨0xA7C5, 0xA7C5, 1, 0x282, []⟩, ⟨0xA7C6, 0xA7C6, 1, 0x1D8E, []⟩,
     ⟨0xA7C7, 0xA7C9, 2, 0xA7C8, []⟩, ⟨0xA7D0, 0xA7D0, 1, 0xA7D1, []⟩,
     ⟨0xA7D6, 0xA7D8, 2, 0xA7D7, []⟩, ⟨0xA7F5, 0xA7F5, 1, 0xA7F6, []⟩]),
   (0xFF, [⟨0xFF21, 0xFF3A, 1, 0xFF41, []⟩]),
   (0x104, [⟨0x10400, 0x10427, 1, 0x10428, []⟩, ⟨0x104B0, 0x104D3, 1, 0x104D8, []⟩]),
   (0x105, [⟨0x10570, 0x10594, 2, 0x10597, []⟩, ⟨0x10571, 0x10579, 2, 0x10598, []⟩,
     ⟨0x1057D, 0x10589, 2, 0x105A4, []⟩, ⟨0x1058D, 0x10591, 2, 0x105B4, []⟩,
     ⟨0x10595, 0x10595, 1, 0x105BC, []⟩]),
   (0x10C, [⟨0x10C80, 0x10CB2, 1, 0x10CC0, []⟩]),
   (0x118, [⟨0x118A0, 0x118BF, 1, 0x118C0, []⟩]),
   (0x16E, [⟨0x16E40, 0x16E5F, 1, 0x16E60, []⟩]),
   (0x1E9, [⟨0x1E900, 0x1E921, 1, 0x1E922, []⟩])]

/-- The code points that are folded otherwise than to their lower case. -/
def foldTable : CaseTable :=
  [(0x0, [⟨0xB5, 0xB5, 1, 0x3BC, []⟩, ⟨0xDF, 0xDF, 1, 0x73, [0x73]⟩]),
   (0x1, [⟨0x149, 0x149, 1, 0x2BC, [0x6E]⟩, ⟨0x17F, 0x17F, 1, 0x73, []⟩,
     ⟨0x1F0, 0x1F0, 1, 0x6A, [0x30C]⟩]),
   (0x3, [⟨0x345, 0x345, 1, 0x3B9, []⟩, ⟨0x390, 0x390, 1, 0x3B9, [0x308, 0x301]⟩,
     ⟨0x3B0, 0x3B0, 1, 0x3C5, [0x308, 0x301]⟩, ⟨0x3C2, 0x3C2, 1, 0x3C3, []⟩,
     ⟨0x3D0, 0x3D0, 1, 0x3B2, []⟩, ⟨0x3D1, 0x3D1, 1, 0x3B8, []⟩, ⟨0x3D5, 0x3D5, 1, 0x3C6, []⟩,
     ⟨0x3D6, 0x3D6, 1, 0x3C0, []⟩, ⟨0x3F0, 0x3F0, 1, 0x3BA, []⟩, ⟨0x3F1, 0x3F1, 1, 0x3C1, []⟩,
     ⟨0x3F5, 0x3F5, 1, 0x3B5, []⟩]),
   (0x5, [⟨0x587, 0x587, 1, 0x565, [0x582]⟩]),
   (0x13, [⟨0x13A0, 0x13F5, 1, 0x13A0, []⟩, ⟨0x13F8, 0x13FD, 1, 0x13F0, []⟩]),
   (0x1C, [⟨0x1C80, 0x1C80, 1, 0x432, []⟩, ⟨0x1C81, 0x1C81, 1, 0x434, []⟩,
     ⟨0x1C82, 0x1C82, 1, 0x43E, []⟩, ⟨0x1C83, 0x1C84, 1, 0x441, []⟩,
     ⟨0x1C85, 0x1C85, 1, 0x442, []⟩, ⟨0x1C86, 0x1C86, 1, 0x44A, []⟩,
     ⟨0x1C87, 0x1C87, 1, 0x463, []⟩, ⟨0x1C88, 0x1C88, 1, 0xA64B, []⟩]),
   (0x1E, [⟨0x1E96, 0x1E96, 1, 0x68, [0x331]⟩, ⟨0x1E97, 0x1E97, 1, 0x74, [0x308]⟩,
     ⟨0x1E98, 0x1E98, 1, 0x77, [0x30A]⟩, ⟨0x1E99, 0x1E99, 1, 0x79, [0x30A]⟩,
     ⟨0x1E9A, 0x1E9A, 1, 0x61, [0x2BE]⟩, ⟨0x1E9B, 0x1E9B, 1, 0x1E61, []⟩,
     ⟨0x1E9E, 0x1E9E, 1, 0x73, [0x73]⟩]),
   (0x1F, [⟨0x1F50, 0x1F50, 1, 0x3C5, [0x313]⟩, ⟨0x1F52, 0x1F52, 1, 0x3C5, [0x313, 0x300]⟩,
     ⟨0x1F54, 0x1F54, 1, 0x3C5, [0x313, 0x301]⟩, ⟨0x1F56, 0x1F56, 1, 0x3C5, [0x313, 0x342]⟩,
     ⟨0x1F80, 0x1F87, 1, 0x1F00, [0x3B9]⟩, ⟨0x1F88, 0x1F8F, 1, 0x1F00, [0x3B9]⟩,
     ⟨0x1F90, 0x1F97, 1, 0x1F20, [0x3B9]⟩, ⟨0x1F98, 0x1F9F, 1, 0x1F20, [0x3B9]⟩,
     ⟨0x1FA0, 0x1FA7, 1, 0x1F60, [0x3B9]⟩, ⟨0x1FA8, 0x1FAF, 1, 0x1F60, [0x3B9]⟩,
     ⟨0x1FB2, 0x1FB2, 1, 0x1F70, [0x3B9]⟩, ⟨0x1FB3, 0x1FB3, 1, 0x3B1, [0x3B9]⟩,
     ⟨0x1FB4, 0x1FB4, 1, 0x3AC, [0x3B9]⟩, ⟨0x1FB6, 0x1FB6, 1, 0x3B1, [0x342]⟩,
     ⟨0x1FB7, 0x1FB7, 1, 0x3B1, [0x342, 0x3B9]⟩, ⟨0x1FBC, 0x1FBC, 1, 0x3B1, [0x3B9]⟩,
     ⟨0x1FBE, 0x1FBE, 1, 0x3B9, []⟩, ⟨0x1FC2, 0x1FC2, 1, 0x1F74, [0x3B9]⟩,
     ⟨0x1FC3, 0x1FC3, 1, 0x3B7, [0x3B9]⟩, ⟨0x1FC4, 0x1FC4, 1, 0x3AE, [0x3B9]⟩,
     ⟨0x1FC6, 0x1FC6, 1, 0x3B7, [0x342]⟩, ⟨0x1FC7, 0x1FC7, 1, 0x3B7, [0x342, 0x3B9]⟩,
     ⟨0x1FCC, 0x1FCC, 1, 0x3B7, [0x3B9]⟩, ⟨0x1FD2, 0x1FD2, 1, 0x3B9, [0x308, 0x300]⟩,
     ⟨0x1FD3, 0x1FD3, 1, 0x3B9, [0x308, 0x301]⟩, ⟨0x1FD6, 0x1FD6, 1, 0x3B9, [0x342]⟩,
     ⟨0x1FD7, 0x1FD7, 1, 0x3B9, [0x308, 0x342]⟩, ⟨0x1FE2, 0x1FE2, 1, 0x3C5, [0x308, 0x300]⟩,
     ⟨0x1FE3, 0x1FE3, 1, 0x3C5, [0x308, 0x301]⟩, ⟨0x1FE4, 0x1FE4, 1, 0x3C1, [0x313]⟩,
     ⟨0x1FE6, 0x1FE6, 1, 0x3C5, [0x342]⟩, ⟨0x1FE7, 0x1FE7, 1, 0x3C5, [0x308, 0x342]⟩,
     ⟨0x1FF2, 0x1FF2, 1, 0x1F7C, [0x3B9]⟩, ⟨0x1FF3, 0x1FF3, 1, 0x3C9, [0x3B9]⟩,
     ⟨0x1FF4, 0x1FF4, 1, 0x3CE, [0x3B9]⟩, ⟨0x1FF6, 0x1FF6, 1, 0x3C9, [0x342]⟩,
     ⟨0x1FF7, 0x1FF7, 1, 0x3C9, [0x342, 0x3B9]⟩, ⟨0x1FFC, 0x1FFC, 1, 0x3C9, [0x3B9]⟩]),
   (0xAB, [⟨0xAB70, 0xABBF, 1, 0x13A0, []⟩]),
   (0xFB, [⟨0xFB00, 0xFB00, 1, 0x66, [0x66]⟩, ⟨0xFB01, 0xFB01, 1, 0x66, [0x69]⟩,
     ⟨0xFB02, 0xFB02, 1, 0x66, [0x6C]⟩, ⟨0xFB03, 0xFB03, 1, 0x66, [0x66, 0x69]⟩,
     ⟨0xFB04, 0xFB04, 1, 0x66, [0x66, 0x6C]⟩, ⟨0xFB05, 0xFB05, 1, 0x73, [0x74]⟩,
     ⟨0xFB06, 0xFB06, 1, 0x73, [0x74]⟩, ⟨0xFB13, 0xFB13, 1, 0x574, [0x576]⟩,
     ⟨0xFB14, 0xFB14, 1, 0x574, [0x565]⟩, ⟨0xFB15, 0xFB15, 1, 0x574, [0x56B]⟩,
     ⟨0xFB16, 0xFB16, 1, 0x57E, [0x576]⟩, ⟨0xFB17, 0xFB17, 1, 0x574, [0x56D]⟩])]

/-- `chr(c).lower()` -/
def lowerCode (c : Nat) : List Nat :=
  match lowerTable.range? c with
  | some r => r.image c
  | none => [c]

/-- `chr(c).casefold()` -/
def foldCode (c : Nat) : List Nat :=
  match foldTable.range? c with
  | some r => r.image c
  | none => lowerCode c

theorem CaseTable.range?_some {table : CaseTable} {c : Nat} {r : CaseRange}
    (found : table.range? c = some r) : (∃ page ∈ table, r ∈ page.2) ∧ r.has c = true := by
  obtain ⟨page, inTable, inPage⟩ := Option.bind_eq_some_iff.mp found
  exact ⟨⟨page, List.mem_of_find?_eq_some inTable, List.mem_of_find?_eq_some inPage⟩,
    by simpa using List.find?_some inPage⟩

theorem CaseRange.has_iff {r : CaseRange} {c : Nat} :
    r.has c = true ↔ (r.first ≤ c ∧ c ≤ r.last) ∧ (c - r.first) % r.step = 0 := by
  rw [CaseRange.has, Bool.and_eq_true, Bool.and_eq_true, Nat.ble_eq, Nat.ble_eq, Nat.beq_eq]

theorem CaseTable.of_all {table : CaseTable} {test : Nat → List Nat → Bool}
    (all : table.all test = true) {c : Nat} {r : CaseRange} (found : table.range? c = some r) :
    test c (r.image c) = true := by
  obtain ⟨⟨page, inTable, inPage⟩, has⟩ := range?_some found
  obtain ⟨⟨low, high⟩, stepped⟩ := CaseRange.has_iff.mp has
  have ranges := List.all_eq_true.mp (List.all_eq_true.mp all page inTable) r inPage
  have steps : (c - r.first) / r.step * r.step = c - r.first := by
    have parts := Nat.div_add_mod' (c - r.first) r.step
    omega
  have few : (c - r.first) / r.step ≤ (r.last - r.first) / r.step :=
    Nat.div_le_div_right (by omega)
  have tested := List.all_eq_true.mp ranges ((c - r.first) / r.step)
    (List.mem_range.mpr (by omega))
  rw [steps, Nat.add_sub_cancel' low] at tested
  exact tested

/-! ## What the tables agree on -/

/-- Neither in lower case nor folded is it another code point. -/
def isFixed (c : Nat) : Bool := (lowerTable.range? c).isNone && (foldTable.range? c).isNone

theorem foldCode_of_isFixed {c : Nat} (fixed : isFixed c = true) : foldCode c = [c] := by
  obtain ⟨lower, fold⟩ := Bool.and_eq_true_iff.mp fixed
  rw [foldCode, Option.isNone_iff_eq_none.mp fold, lowerCode, Option.isNone_iff_eq_none.mp lower]

def isStable (c : Nat) : Bool := foldCode c == [c]

theorem lowerTable_fixed : lowerTable.all (fun c image =>
    (foldTable.range? c).isSome || image.all isFixed) = true := by decide +kernel

theorem foldTable_stable : foldTable.all (fun c image =>
    image.all isStable && (lowerCode c).flatMap foldCode == image) = true := by decide +kernel

/-- The code points that are blank. -/
def blankCodes : List Nat :=
  [9, 10, 11, 12, 13, 0x1C, 0x1D, 0x1E, 0x1F, 0x20, 0x85, 0xA0, 0x1680, 0x2000, 0x2001, 0x2002,
   0x2003, 0x2004, 0x2005, 0x2006, 0x2007, 0x2008, 0x2009, 0x200A, 0x2028, 0x2029, 0x202F, 0x205F,
   0x3000]

/-- A range is mapped to characters, and none of them is blank. -/
def CaseRange.plain (r : CaseRange) : Bool :=
  let greatest := r.target + (r.last - r.first)
  (greatest.ble 0xD7FF || (Nat.ble 0xE000 r.target && greatest.ble 0x10FFFF)) &&
    (r.suffix.all fun d => d.ble 0xD7FF) &&
    blankCodes.all fun b => (b.blt r.target || greatest.blt b) && !r.suffix.contains b

theorem tables_plain :
    List.all (lowerTable ++ foldTable) (fun page => page.2.all CaseRange.plain) = true := by
  decide +kernel

theorem blankCodes_fixed : blankCodes.all isFixed = true := by decide +kernel

/-- A code point of a character that is not blank. -/
def isLetterCode (c : Nat) : Prop := c.isValidChar ∧ c ∉ blankCodes

theorem isLetterCode_of_plain {r : CaseRange} (plain : r.plain = true) {c : Nat}
    (has : r.has c = true) : ∀ d ∈ r.image c, isLetterCode d := by
  obtain ⟨⟨low, high⟩, -⟩ := CaseRange.has_iff.mp has
  simp only [CaseRange.plain, Bool.and_eq_true, Bool.or_eq_true, Nat.ble_eq, List.all_eq_true,
    Nat.blt_eq, Bool.not_eq_true', List.contains_eq_mem, decide_eq_false_iff_not] at plain
  obtain ⟨⟨valid, suffix⟩, blanks⟩ := plain
  intro d member
  rcases List.mem_cons.mp member with rfl | inSuffix
  · constructor
    · unfold Nat.isValidChar
      omega
    · intro blank
      have apart := (blanks _ blank).1
      omega
  · have small := suffix d inSuffix
    constructor
    · unfold Nat.isValidChar
      omega
    · exact fun blank => (blanks d blank).2 inSuffix

theorem isLetterCode_lowerCode {c : Nat} (letter : isLetterCode c) :
    ∀ d ∈ lowerCode c, isLetterCode d := by
  rw [lowerCode]
  split
  · rename_i r found
    obtain ⟨⟨page, inTable, inPage⟩, has⟩ := CaseTable.range?_some found
    have plain := List.all_eq_true.mp
      (List.all_eq_true.mp tables_plain page (List.mem_append_left _ inTable)) r inPage
    exact isLetterCode_of_plain plain has
  · intro d member
    rw [List.mem_singleton.mp member]
    exact letter

theorem isLetterCode_foldCode {c : Nat} (letter : isLetterCode c) :
    ∀ d ∈ foldCode c, isLetterCode d := by
  rw [foldCode]
  split
  · rename_i r found
    obtain ⟨⟨page, inTable, inPage⟩, has⟩ := CaseTable.range?_some found
    have plain := List.all_eq_true.mp
      (List.all_eq_true.mp tables_plain page (List.mem_append_right _ inTable)) r inPage
    exact isLetterCode_of_plain plain has
  · exact isLetterCode_lowerCode letter

/-- Folding what is folded changes nothing. -/
theorem foldCode_of_mem_foldCode {c d : Nat} (member : d ∈ foldCode c) : foldCode d = [d] := by
  cases fold : foldTable.range? c with
  | some r =>
    have agreed := CaseTable.of_all foldTable_stable fold
    rw [Bool.and_eq_true, List.all_eq_true] at agreed
    rw [foldCode, fold] at member
    exact eq_of_beq (agreed.1 d member)
  | none =>
    rw [foldCode, fold] at member
    cases lower : lowerTable.range? c with
    | some r =>
      have agreed := CaseTable.of_all lowerTable_fixed lower
      rw [fold, Option.isSome_none, Bool.false_or, List.all_eq_true] at agreed
      dsimp only at member
      rw [lowerCode, lower] at member
      exact foldCode_of_isFixed (agreed d member)
    | none =>
      dsimp only at member
      rw [lowerCode, lower] at member
      rw [List.mem_singleton.mp member, foldCode, fold]
      dsimp only
      rw [lowerCode, lower]

/-- A code point and its lower case are folded to the same. -/
theorem flatMap_foldCode_lowerCode (c : Nat) : (lowerCode c).flatMap foldCode = foldCode c := by
  cases fold : foldTable.range? c with
  | some r =>
    have agreed := CaseTable.of_all foldTable_stable fold
    rw [Bool.and_eq_true] at agreed
    rw [foldCode, fold]
    exact eq_of_beq agreed.2
  | none =>
    have same : foldCode c = lowerCode c := by
      rw [foldCode, fold]
    have stable : ∀ d ∈ lowerCode c, foldCode d = [d] :=
      fun d member => foldCode_of_mem_foldCode (same ▸ member)
    rw [same, List.flatMap_congr stable]
    exact List.flatMap_singleton' _

/-! ## Characters and texts -/

def lowerChar (c : Char) : List Char := (lowerCode c.toNat).map Char.ofNat

def foldChar (c : Char) : List Char := (foldCode c.toNat).map Char.ofNat

/-- `text.casefold()` -/
def casefold (cs : List Char) : List Char := cs.flatMap foldChar

/-- The characters that have case, and those that a sigma does not see next to it. -/
structure LetterClasses where
  cased : Char → Bool
  ignorable : Char → Bool

/-- A capital sigma ends a word; the text before it is given last character first. -/
def LetterClasses.finalSigma (classes : LetterClasses) (before after : List Char) : Bool :=
  (before.find? fun c => !classes.ignorable c).any classes.cased &&
    !(after.find? fun c => !classes.ignorable c).any classes.cased

/-- What one character becomes in lower case. -/
def lowerPiece (classes : LetterClasses) (before : List Char) (c : Char) (after : List Char) :
    List Char :=
  if c = 'Σ' then if classes.finalSigma before after then ['ς'] else ['σ'] else lowerChar c

def lowerFrom (classes : LetterClasses) : (before : List Char) → List Char → List Char
  | _, [] => []
  | before, c :: cs => lowerPiece classes before c cs ++ lowerFrom classes (c :: before) cs

/-- `text.lower()` -/
def lower (classes : LetterClasses) (cs : List Char) : List Char := lowerFrom classes [] cs

example : casefold "Straße".toList = "strasse".toList := by decide
example : lower ⟨Char.isAlpha, fun _ => false⟩ "Straße".toList = "straße".toList := by decide

theorem isBlank_iff (c : Char) : isBlank c = true ↔ c.toNat ∈ blankCodes := by
  simp only [isBlank, isSpace, blankCodes, Bool.or_eq_true, Bool.and_eq_true, decide_eq_true_eq,
    beq_iff_eq, List.mem_cons, List.not_mem_nil, or_false]
  omega

theorem isLetterCode_toNat {c : Char} (letter : isBlank c = false) : isLetterCode c.toNat := by
  refine ⟨c.valid, fun blank => ?_⟩
  rw [(isBlank_iff c).mpr blank] at letter
  cases letter

theorem toNat_ofNat {d : Nat} (letter : isLetterCode d) : (Char.ofNat d).toNat = d := by
  rw [Char.ofNat, dif_pos letter.1]
  rfl

theorem isBlank_ofNat {d : Nat} (letter : isLetterCode d) : isBlank (Char.ofNat d) = false := by
  rw [Bool.eq_false_iff, ne_eq, isBlank_iff, toNat_ofNat letter]
  exact letter.2

theorem codes_of_isBlank {c : Char} (blank : isBlank c = true) :
    lowerCode c.toNat = [c.toNat] ∧ foldCode c.toNat = [c.toNat] := by
  have fixed := List.all_eq_true.mp blankCodes_fixed _ ((isBlank_iff c).mp blank)
  have lower := (Bool.and_eq_true_iff.mp fixed).1
  refine ⟨?_, foldCode_of_isFixed fixed⟩
  rw [lowerCode, Option.isNone_iff_eq_none.mp lower]

theorem foldChar_of_isBlank {c : Char} (blank : isBlank c = true) : foldChar c = [c] := by
  rw [foldChar, (codes_of_isBlank blank).2, List.map_singleton, Char.ofNat_toNat]

theorem foldCode_ne_nil (c : Nat) : foldCode c ≠ [] := by
  unfold foldCode lowerCode
  split
  · exact List.cons_ne_nil _ _
  · split
    · exact List.cons_ne_nil _ _
    · exact List.cons_ne_nil _ _

theorem foldChar_letter {c : Char} (letter : isBlank c = false) :
    foldChar c ≠ [] ∧ ∀ d ∈ foldChar c, isBlank d = false := by
  constructor
  · intro none
    exact foldCode_ne_nil _ (List.map_eq_nil_iff.mp none)
  · intro d member
    obtain ⟨code, inFold, rfl⟩ := List.mem_map.mp member
    exact isBlank_ofNat (isLetterCode_foldCode (isLetterCode_toNat letter) code inFold)

/-- Case folding keeps the words of a text apart. -/
theorem split_casefold (cs : List Char) : split (casefold cs) = (split cs).map casefold :=
  split_flatMap (fun _ blank => foldChar_of_isBlank blank) (fun _ letter => foldChar_letter letter)
    cs

theorem foldChar_of_mem_foldChar {c d : Char} (member : d ∈ foldChar c) : foldChar d = [d] := by
  cases blank : isBlank c with
  | true =>
    have same := foldChar_of_isBlank blank
    rw [same] at member
    rw [List.mem_singleton.mp member, same]
  | false =>
    obtain ⟨code, inFold, rfl⟩ := List.mem_map.mp member
    have letter := isLetterCode_foldCode (isLetterCode_toNat blank) code inFold
    rw [foldChar, toNat_ofNat letter, foldCode_of_mem_foldCode inFold]
    rfl

theorem casefold_casefold (cs : List Char) : casefold (casefold cs) = casefold cs := by
  have stable : ∀ d ∈ casefold cs, foldChar d = [d] := by
    intro d member
    obtain ⟨c, -, folded⟩ := List.mem_flatMap.mp member
    exact foldChar_of_mem_foldChar folded
  rw [casefold, List.flatMap_congr stable]
  exact List.flatMap_singleton' _

theorem casefold_lowerChar (c : Char) : casefold (lowerChar c) = foldChar c := by
  cases blank : isBlank c with
  | true =>
    have single : lowerChar c = [c] := by
      rw [lowerChar, (codes_of_isBlank blank).1, List.map_singleton, Char.ofNat_toNat]
    rw [single, casefold, List.flatMap_singleton]
  | false =>
    have codes : ∀ d ∈ lowerCode c.toNat, foldChar (Char.ofNat d) = (foldCode d).map Char.ofNat := by
      intro d member
      rw [foldChar, toNat_ofNat (isLetterCode_lowerCode (isLetterCode_toNat blank) d member)]
    rw [casefold, lowerChar, List.flatMap_map, List.flatMap_congr codes, foldChar,
      ← flatMap_foldCode_lowerCode, List.map_flatMap]

/-! ## Lower case and case folding -/

/-- A character whose lower case and folding differ. -/
def foldsApart (c : Char) : Bool := lowerChar c != foldChar c

/-- A text with no such character, and with no capital sigma that ends a word. -/
structure FoldsAsLower (classes : LetterClasses) (before cs : List Char) : Prop where
  characters : ∀ c ∈ cs, foldsApart c = false
  sigmas : ∀ front back, cs = front ++ 'Σ' :: back →
    classes.finalSigma (front.reverse ++ before) back = false

theorem foldsAsLower_cons {classes : LetterClasses} {before cs : List Char} {c : Char} :
    FoldsAsLower classes before (c :: cs) ↔
      (foldsApart c = false ∧ (c = 'Σ' → classes.finalSigma before cs = false)) ∧
        FoldsAsLower classes (c :: before) cs := by
  constructor
  · rintro ⟨characters, sigmas⟩
    refine ⟨⟨characters c List.mem_cons_self, ?_⟩,
      fun d member => characters d (List.mem_cons_of_mem _ member), ?_⟩
    · rintro rfl
      exact sigmas [] cs rfl
    · rintro front back rfl
      have sigma := sigmas (c :: front) back rfl
      rwa [List.reverse_cons, List.append_assoc] at sigma
  · rintro ⟨⟨first, sigma⟩, characters, sigmas⟩
    constructor
    · intro d member
      rcases List.mem_cons.mp member with rfl | later
      · exact first
      · exact characters d later
    · intro front back parted
      cases front with
      | nil =>
        obtain ⟨rfl, rfl⟩ := List.cons.inj parted
        exact sigma rfl
      | cons d front =>
        obtain ⟨rfl, rest⟩ := List.cons.inj parted
        rw [List.reverse_cons, List.append_assoc]
        exact sigmas front back rest

theorem casefold_append (first second : List Char) :
    casefold (first ++ second) = casefold first ++ casefold second := List.flatMap_append

theorem casefold_lowerPiece (classes : LetterClasses) (before : List Char) (c : Char)
    (after : List Char) : casefold (lowerPiece classes before c after) = foldChar c := by
  unfold lowerPiece
  split
  · rename_i sigma
    subst sigma
    split
    · decide
    · decide
  · exact casefold_lowerChar c

/-- A text in lower case is folded to what the text is folded to. -/
theorem casefold_lowerFrom (classes : LetterClasses) (before cs : List Char) :
    casefold (lowerFrom classes before cs) = casefold cs := by
  induction cs generalizing before with
  | nil => rfl
  | cons c cs ih =>
    rw [lowerFrom, casefold_append, casefold_lowerPiece, ih]
    rfl

theorem lowerPiece_eq_foldChar_iff (classes : LetterClasses) (before : List Char) (c : Char)
    (after : List Char) : lowerPiece classes before c after = foldChar c ↔
      foldsApart c = false ∧ (c = 'Σ' → classes.finalSigma before after = false) := by
  unfold lowerPiece
  split
  · rename_i sigma
    subst sigma
    have folds : foldsApart 'Σ' = false := by decide
    cases classes.finalSigma before after with
    | true =>
      have differs : ['ς'] ≠ foldChar 'Σ' := by decide
      simp [differs]
    | false =>
      have same : ['σ'] = foldChar 'Σ' := by decide
      simp [folds, same]
  · rename_i other
    simp [foldsApart, other]

theorem lowerFrom_eq_casefold_iff (classes : LetterClasses) (before cs : List Char) :
    lowerFrom classes before cs = casefold cs ↔ FoldsAsLower classes before cs := by
  induction cs generalizing before with
  | nil => exact ⟨fun _ => ⟨by simp, by simp⟩, fun _ => rfl⟩
  | cons c cs ih =>
    rw [foldsAsLower_cons, ← lowerPiece_eq_foldChar_iff, ← ih, lowerFrom]
    constructor
    · intro same
      -- every character of a folded text is folded to itself
      have stable : ∀ d ∈ lowerPiece classes before c cs ++ lowerFrom classes (c :: before) cs,
          foldChar d = [d] := by
        intro d member
        rw [same] at member
        obtain ⟨_, -, folded⟩ := List.mem_flatMap.mp member
        exact foldChar_of_mem_foldChar folded
      have fixed : ∀ ds : List Char, (∀ d ∈ ds, foldChar d = [d]) → casefold ds = ds := by
        intro ds all
        rw [casefold, List.flatMap_congr all]
        exact List.flatMap_singleton' _
      constructor
      · rw [← casefold_lowerPiece classes before c cs]
        exact (fixed _ fun d member => stable d (List.mem_append_left _ member)).symm
      · rw [← casefold_lowerFrom classes (c :: before) cs]
        exact (fixed _ fun d member => stable d (List.mem_append_right _ member)).symm
    · rintro ⟨first, rest⟩
      rw [first, rest]
      rfl

end PythonText
