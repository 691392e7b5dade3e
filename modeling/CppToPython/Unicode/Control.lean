import CppToPython.Unicode.Ranges

/-! # Control characters

The characters with `Grapheme_Cluster_Break=Control`, the carriage return and the
line feed: no other character shares a cluster with one of them.
-/

namespace CppToPython.Unicode

/-- The code points that stand apart from what is around them. -/
def controls : Ranges :=
  [(0x0000, 0x001F), (0x007F, 0x009F), (0x00AD, 0x00AD), (0x061C, 0x061C), (0x180E, 0x180E),
   (0x200B, 0x200B), (0x200E, 0x200F), (0x2028, 0x202E), (0x2060, 0x206F), (0xFEFF, 0xFEFF),
   (0xFFF0, 0xFFFB), (0x13430, 0x1343F), (0x1BCA0, 0x1BCA3), (0x1D173, 0x1D17A),
   (0xE0000, 0xE001F), (0xE0080, 0xE00FF), (0xE01F0, 0xE0FFF)]

def isControl (c : Char) : Bool := controls.contains c.toNat

end CppToPython.Unicode
