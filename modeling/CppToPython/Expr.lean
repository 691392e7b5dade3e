import CppToPython.Lexeme

/-! # Expressions -/

namespace CppToPython

/-- The operators between two expressions. -/
inductive BinaryOp where
  | add | sub | mul | div | mod | lt | gt | le | ge | eq | ne
  deriving Repr, DecidableEq

namespace BinaryOp

/-- An operator as it is written in both languages. -/
def symbol : BinaryOp → String
  | add => "+"
  | sub => "-"
  | mul => "*"
  | div => "/"
  | mod => "%"
  | lt => "<"
  | gt => ">"
  | le => "<="
  | ge => ">="
  | eq => "=="
  | ne => "!="

def all : List BinaryOp := [add, sub, mul, div, mod, lt, gt, le, ge, eq, ne]

def ofLexeme? (l : Lexeme) : Option BinaryOp :=
  if l.kind = .operator then all.find? (·.symbol = l.text) else none

end BinaryOp

/-- The operators that change a variable by one. -/
inductive StepOp where
  | increment | decrement
  deriving Repr, DecidableEq

namespace StepOp

/-- A step as it is written in C++. -/
def symbol : StepOp → String
  | increment => "++"
  | decrement => "--"

/-- The operator that gives the value after the step. -/
def change : StepOp → BinaryOp
  | increment => .add
  | decrement => .sub

def ofLexeme? (l : Lexeme) : Option StepOp :=
  if l.kind = .operator then [increment, decrement].find? (·.symbol = l.text) else none

end StepOp

/-- An expression. Literals keep the text they are written with. -/
inductive Expr where
  /-- A number, whole or with a fraction. -/
  | number (text : String)
  /-- A string literal with its quotes. -/
  | string (text : String)
  /-- A variable. -/
  | name (text : String)
  /-- An operator between two expressions. -/
  | binary (left : Expr) (op : BinaryOp) (right : Expr)
  /-- A variable stepped within an expression, before or after. -/
  | step (op : StepOp) (target : String)
  /-- A call of a function by its name. -/
  | call (function : String) (args : List Expr)
  /-- The negative of an expression. -/
  | negate (operand : Expr)
  deriving Repr

end CppToPython
