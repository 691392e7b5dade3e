import CppToPython.Expr

/-! # Expressions in Python

Every operator is written with parentheses around it, so that the grouping of
the tree stays the same whatever Python's own precedences are.
-/

namespace CppToPython

namespace Emission

/-- A variable. The truth values are variables that Python spells differently. -/
def variableText : String → String
  | "true" => "True"
  | "false" => "False"
  | name => name

/-- A call of a function with arguments that are already written. -/
def callText (function : String) (args : List String) : String :=
  function ++ "(" ++ String.intercalate ", " args ++ ")"

end Emission

open Emission

mutual
/-- An expression as Python. A step is only the value it gives: Python has no
    expression that changes its operand. -/
def Expr.toPython : Expr → String
  | .number text | .string text => text
  | .name text => variableText text
  | .binary left op right =>
      "(" ++ left.toPython ++ " " ++ op.symbol ++ " " ++ right.toPython ++ ")"
  | .step op target => "(" ++ variableText target ++ " " ++ op.change.symbol ++ " 1)"
  | .call function args => callText function (Expr.listToPython args)
  | .negate operand => "-" ++ operand.toPython

def Expr.listToPython : List Expr → List String
  | [] => []
  | e :: es => e.toPython :: Expr.listToPython es
end

end CppToPython
