import CppToPython.Emission.Stmt

/-! # Programs in Python

A program becomes a module: its statements as top-level items with an empty
line between them, and a guard that calls `main` if it is asked for.
-/

namespace CppToPython

open Emission

/-- How a program is written. -/
structure Options where
  /-- The spaces for each block around a line. -/
  indentWidth : Nat := 4
  /-- Whether a guard calls `main` when the module is run. -/
  mainGuard : Bool := false
  deriving Repr, DecidableEq

def Stmt.isMain : Stmt → Bool
  | .function _ name _ _ => name = "main"
  | _ => false

namespace Program

/-- The lines that call `main` when the module is run. -/
def guardLines : List Line :=
  [⟨0, "if __name__ == \"__main__\":"⟩, ⟨1, "main()"⟩]

/-- The top-level items of the module. A program without any is a `pass`. -/
def items (mainGuard : Bool) (p : Program) : List (List Line) :=
  let own := p.map (·.toPython 0) ++ if mainGuard && p.any (·.isMain) then [guardLines] else []
  if own.isEmpty then [[⟨0, "pass"⟩]] else own

def toPython (options : Options) (p : Program) : String :=
  String.intercalate "\n" ((items options.mainGuard p).map (renderLines options.indentWidth))

def unsupportedLoops (p : Program) : List (Option String) :=
  Stmt.listUnsupportedLoops p

end Program

end CppToPython
