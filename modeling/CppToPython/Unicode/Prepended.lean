import CppToPython.Unicode.Ranges

/-! # Prepended characters

The characters with `Grapheme_Cluster_Break=Prepend`: they belong to the
character after them.
-/

namespace CppToPython.Unicode

/-- The code points with `Grapheme_Cluster_Break=Prepend`. -/
def prepended : Ranges :=
  [(0x0600, 0x0605), (0x06DD, 0x06DD), (0x070F, 0x070F), (0x0890, 0x0891), (0x08E2, 0x08E2),
   (0x0D4E, 0x0D4E), (0x110BD, 0x110BD), (0x110CD, 0x110CD), (0x111C2, 0x111C3),
   (0x113D1, 0x113D1), (0x1193F, 0x1193F), (0x11941, 0x11941), (0x11A84, 0x11A89),
   (0x11D46, 0x11D46), (0x11F02, 0x11F02)]

/-- Whether a character belongs to the character after it. -/
def isPrepended (c : Char) : Bool := prepended.contains c.toNat

end CppToPython.Unicode
