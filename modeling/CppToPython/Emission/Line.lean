/-! # Lines of Python

Python marks blocks by indentation, so a line is kept as a depth and a text
until it is written out.
-/

namespace CppToPython.Emission

/-- A line of Python: the number of blocks around it, and its text. -/
structure Line where
  depth : Nat
  text : String
  deriving Repr, DecidableEq

namespace Line

/-- A line as it is written, with `width` spaces for each block around it. -/
def render (width : Nat) (line : Line) : String :=
  String.ofList (List.replicate (line.depth * width) ' ') ++ line.text ++ "\n"

end Line

def renderLines (width : Nat) (lines : List Line) : String :=
  String.join (lines.map (·.render width))

end CppToPython.Emission
