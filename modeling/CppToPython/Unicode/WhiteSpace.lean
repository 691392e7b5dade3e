import CppToPython.Unicode.Ranges

/-! # White space

The characters with the property `White_Space`: they are what is trimmed from the
ends of a line.
-/

namespace CppToPython.Unicode

/-- The code points with the property `White_Space`. -/
def whiteSpace : Ranges :=
  [(0x0009, 0x000D), (0x0020, 0x0020), (0x0085, 0x0085), (0x00A0, 0x00A0), (0x1680, 0x1680),
   (0x2000, 0x200A), (0x2028, 0x2029), (0x202F, 0x202F), (0x205F, 0x205F), (0x3000, 0x3000)]

/-- Whether a character is white space anywhere in Unicode, not only in ASCII. -/
def isWhiteSpace (c : Char) : Bool := whiteSpace.contains c.toNat

end CppToPython.Unicode
