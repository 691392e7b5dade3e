/-! # Lines of a text

A line ends at a line feed, or at a carriage return and a line feed. A text
that ends in a line end has no further, empty line after it.
-/

namespace CppToPython.Text

/-- The lines of a text, without their ends. -/
def lines : List Char → List (List Char)
  | [] => []
  | '\n' :: rest => [] :: lines rest
  | '\r' :: '\n' :: rest => [] :: lines rest
  | c :: rest =>
      match lines rest with
      | [] => [[c]]
      | line :: others => (c :: line) :: others

def linesOf (s : String) : List String :=
  (lines s.toList).map String.ofList

def lineCount (s : String) : Nat :=
  (lines s.toList).length

end CppToPython.Text
