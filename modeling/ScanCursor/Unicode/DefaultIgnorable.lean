import ScanCursor.Unicode.CodeRange

/-!
# ScanCursor.Unicode.DefaultIgnorable

The code points with the property Default_Ignorable_Code_Point, as of Unicode
17.0: characters that a page leaves out where it cannot do what they ask for.
Among them are four letters, the Hangul fillers, which are always blank.
-/

namespace ScanCursor.Unicode

/-- The property Default_Ignorable_Code_Point. -/
def defaultIgnorable : CodeTable where
  ranges :=
  [(0x00AD, 0x00AD), (0x034F, 0x034F), (0x061C, 0x061C), (0x115F, 0x1160), (0x17B4, 0x17B5),
   (0x180B, 0x180F), (0x200B, 0x200F), (0x202A, 0x202E), (0x2060, 0x206F), (0x3164, 0x3164),
   (0xFE00, 0xFE0F), (0xFEFF, 0xFEFF), (0xFFA0, 0xFFA0), (0xFFF0, 0xFFF8), (0x1BCA0, 0x1BCA3),
   (0x1D173, 0x1D17A), (0xE0000, 0xE0FFF)]

example : defaultIgnorable.size = 4174 := by decide

end ScanCursor.Unicode
