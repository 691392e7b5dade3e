import CppToPython.Lexeme
import CppToPython.Position

/-! # Tokens -/

namespace CppToPython

/-- A lexeme and the position of its first character. -/
structure Token extends Lexeme where
  position : Position
  deriving Repr, DecidableEq

end CppToPython
