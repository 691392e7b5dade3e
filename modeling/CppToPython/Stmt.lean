import CppToPython.Expr

/-! # Statements

A program is a list of statements. Directives leave no statement behind. The
branches of a conditional are kept as they are written: an `else if` is an
alternative that has an alternative of its own.
-/

namespace CppToPython

inductive ValueType where
  | int | float | double | char
  deriving Repr, DecidableEq

namespace ValueType

def name : ValueType → String
  | int => "int"
  | float => "float"
  | double => "double"
  | char => "char"

def ofLexeme? (l : Lexeme) : Option ValueType :=
  if l.kind = .keyword then [int, float, double, char].find? (·.name = l.text) else none

end ValueType

/-- The types of functions by what they return. -/
inductive ReturnType where
  /-- Nothing is returned. -/
  | void
  /-- A value is returned. -/
  | value (type : ValueType)
  deriving Repr, DecidableEq

namespace ReturnType

def name : ReturnType → String
  | void => "void"
  | value type => type.name

def ofLexeme? (l : Lexeme) : Option ReturnType :=
  if l = .word "void" then some void else (ValueType.ofLexeme? l).map value

end ReturnType

structure Parameter where
  type : ValueType
  name : String
  deriving Repr, DecidableEq

/-- A variable that is declared, with its first value if it has one. -/
structure Declaration where
  type : ValueType
  name : String
  value : Option Expr
  deriving Repr

/-- A variable that gets a new value. -/
structure Assignment where
  name : String
  value : Expr
  deriving Repr

/-- What a `for` loop does before its first iteration. -/
inductive LoopInit where
  | declare (declaration : Declaration)
  | assign (assignment : Assignment)
  deriving Repr

namespace LoopInit

def name : LoopInit → String
  | declare declaration => declaration.name
  | assign assignment => assignment.name

def value : LoopInit → Option Expr
  | declare declaration => declaration.value
  | assign assignment => some assignment.value

end LoopInit

/-- What a `for` loop does after each iteration. -/
inductive LoopUpdate where
  | assign (assignment : Assignment)
  | step (op : StepOp) (target : String)
  | evaluate (expr : Expr)
  deriving Repr

/-- The head of a `for` loop. Each part may be missing. -/
structure LoopHead where
  init : Option LoopInit
  condition : Option Expr
  update : Option LoopUpdate
  deriving Repr

mutual
inductive Stmt where
  /-- A function and its body. -/
  | function (type : ReturnType) (name : String) (params : List Parameter) (body : List Stmt)
  /-- A variable declaration. -/
  | declare (declaration : Declaration)
  /-- An assignment. -/
  | assign (assignment : Assignment)
  /-- A `cout` chain. -/
  | output (values : List Expr)
  /-- A `cin` chain. -/
  | input (targets : List String)
  /-- A variable stepped on its own. -/
  | step (op : StepOp) (target : String)
  /-- An `if` with its alternative. -/
  | conditional (condition : Expr) (body : List Stmt) (otherwise : Else)
  /-- A `for` loop. -/
  | forLoop (head : LoopHead) (body : List Stmt)
  /-- A `while` loop. -/
  | whileLoop (condition : Expr) (body : List Stmt)
  /-- A `return`, with a value or without. -/
  | result (value : Option Expr)
  /-- A call on its own. -/
  | call (function : String) (args : List Expr)

inductive Else where
  /-- There is none. -/
  | nothing
  /-- A plain `else`. -/
  | block (body : List Stmt)
  /-- An `else if`. -/
  | elseIf (condition : Expr) (body : List Stmt) (otherwise : Else)
end

/-- A program: its statements in order. -/
abbrev Program := List Stmt

end CppToPython
