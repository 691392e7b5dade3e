import CppToPython.Emission.Line
import CppToPython.Emission.Range

/-! # Statements in Python

`Stmt.toPython` gives the lines of a statement at a depth; blocks stand one
deeper. An `else if` becomes an `elif` at the depth of its `if`. A loop that is
no counting loop has no equivalent: a comment stands in its place, and
`Stmt.unsupportedLoops` lists such loops.
-/

namespace CppToPython

open Emission

/-- Whether an expression ends a line of output. -/
def Expr.endsLine : Expr → Bool
  | .name "endl" => true
  | _ => false

namespace Emission

/-- The values of an output statement line by line. A line ends at each `endl` and
    after the last value; an `endl` at the end starts no further line. -/
def printedLines : List Expr → List (List Expr)
  | [] => [[]]
  | [value] => if value.endsLine then [[]] else [[value]]
  | value :: next :: values =>
      let lines := printedLines (next :: values)
      if value.endsLine then [] :: lines
      else
        match lines with
        | [] => [[value]]
        | line :: lines => (value :: line) :: lines

/-! ### Lines -/

/-- The comment in the place of a loop that has no equivalent. -/
def unsupportedLoopText : String := "# Unsupported for-loop"

def assignText (name value : String) : String := name ++ " = " ++ value

def stepText (op : StepOp) (target : String) : String :=
  variableText target ++ " " ++ op.change.symbol ++ "= 1"

def functionHeader (name : String) (params : List Parameter) : String :=
  "def " ++ callText name (params.map (·.name)) ++ ":"

def resultText : Option Expr → String
  | some value => "return " ++ value.toPython
  | none => "return"

end Emission

/-! ### Statements -/

mutual
def Stmt.toPython (depth : Nat) : Stmt → List Line
  | .function _ name params body =>
      ⟨depth, functionHeader name params⟩ :: Stmt.blockToPython (depth + 1) body
  | .declare ⟨_, name, value⟩ =>
      [⟨depth, assignText name ((value.map Expr.toPython).getD "None")⟩]
  | .assign ⟨name, value⟩ => [⟨depth, assignText name value.toPython⟩]
  | .output values =>
      (printedLines values).map fun line => ⟨depth, callText "print" (Expr.listToPython line)⟩
  | .input targets => targets.map fun name => ⟨depth, assignText name "input()"⟩
  | .step op target => [⟨depth, stepText op target⟩]
  | .conditional condition body otherwise =>
      ⟨depth, "if " ++ condition.toPython ++ ":"⟩ :: Stmt.blockToPython (depth + 1) body
        ++ otherwise.toPython depth
  | .forLoop head body =>
      match head.range? with
      | some range => ⟨depth, range.header⟩ :: Stmt.blockToPython (depth + 1) body
      | none => [⟨depth, unsupportedLoopText⟩]
  | .whileLoop condition body =>
      ⟨depth, "while " ++ condition.toPython ++ ":"⟩ :: Stmt.blockToPython (depth + 1) body
  | .result value => [⟨depth, resultText value⟩]
  | .call function args => [⟨depth, callText function (Expr.listToPython args)⟩]

/-- The lines of a block at a depth. An empty block is a `pass`. -/
def Stmt.blockToPython (depth : Nat) : List Stmt → List Line
  | [] => [⟨depth, "pass"⟩]
  | stmt :: stmts => stmt.toPython depth ++ Stmt.listToPython depth stmts

def Stmt.listToPython (depth : Nat) : List Stmt → List Line
  | [] => []
  | stmt :: stmts => stmt.toPython depth ++ Stmt.listToPython depth stmts

/-- The lines of an alternative at the depth of its `if`. An empty `else` is left
    out. -/
def Else.toPython (depth : Nat) : Else → List Line
  | .nothing => []
  | .block [] => []
  | .block (stmt :: stmts) =>
      ⟨depth, "else:"⟩ :: (stmt.toPython (depth + 1) ++ Stmt.listToPython (depth + 1) stmts)
  | .elseIf condition body otherwise =>
      ⟨depth, "elif " ++ condition.toPython ++ ":"⟩ :: Stmt.blockToPython (depth + 1) body
        ++ otherwise.toPython depth
end

/-! ### Loops without an equivalent -/

mutual
/-- The variables of the loops in a statement that have no equivalent, in order;
    a loop may have no variable. The body of such a loop is not looked at, since
    it is not written. -/
def Stmt.unsupportedLoops : Stmt → List (Option String)
  | .function _ _ _ body => Stmt.listUnsupportedLoops body
  | .conditional _ body otherwise =>
      Stmt.listUnsupportedLoops body ++ otherwise.unsupportedLoops
  | .forLoop head body =>
      match head.range? with
      | some _ => Stmt.listUnsupportedLoops body
      | none => [head.init.map LoopInit.name]
  | .whileLoop _ body => Stmt.listUnsupportedLoops body
  | .declare _ | .assign _ | .output _ | .input _ | .step _ _ | .result _ | .call _ _ => []

def Stmt.listUnsupportedLoops : List Stmt → List (Option String)
  | [] => []
  | stmt :: stmts => stmt.unsupportedLoops ++ Stmt.listUnsupportedLoops stmts

def Else.unsupportedLoops : Else → List (Option String)
  | .nothing => []
  | .block body => Stmt.listUnsupportedLoops body
  | .elseIf _ body otherwise => Stmt.listUnsupportedLoops body ++ otherwise.unsupportedLoops
end

end CppToPython
