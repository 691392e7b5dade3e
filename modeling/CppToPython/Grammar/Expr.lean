import CppToPython.Grammar.Rule

/-! # The grammar of expressions

Comparisons are the loosest, then sums, then products; operators of one tier
group to the left. Calls, parentheses and the minus sign go one level deeper.
-/

namespace CppToPython.Grammar

open CppToPython.Rule

/-- How tightly an operator binds. -/
inductive Tier where
  | comparison | sum | product
  deriving Repr, DecidableEq

def Tier.of : BinaryOp → Tier
  | .add | .sub => sum
  | .mul | .div | .mod => product
  | .lt | .gt | .le | .ge | .eq | .ne => comparison

def Tier.operator? (tier : Tier) (l : Lexeme) : Option BinaryOp :=
  (BinaryOp.ofLexeme? l).filter (Tier.of · = tier)

/-- Groups operands to the left. -/
def grouped (first : Expr) (more : List (BinaryOp × Expr)) : Expr :=
  more.foldl (fun left (op, right) => .binary left op right) first

/-- Operands with operators of one tier between them. -/
def chain (tier : Tier) (operand : Rule Expr) : Rule Expr := do
  let first ← operand
  let more ← marked tier.operator? operand
  return grouped first more

/-- An expression in parentheses, after the first one. -/
def group : Rule Expr := do
  let expr ← nested .group
  lexeme .closeParen .closeGroup
  return expr

/-- A factor that starts with an identifier, after it: a call, a step or the
    variable itself. -/
def named (name : String) : Rule Expr := do
  let next ← peek 0
  if next = some .openParen then
    return .call name (← nested .arguments)
  else
    match next.bind StepOp.ofLexeme? with
    | some op =>
        skip
        return .step op name
    | none => return .name name

/-- The factor that starts with a lexeme, after it. -/
def factorAfter (l : Lexeme) : Option (Rule Expr) :=
  match l.kind with
  | .number | .float => some (return .number l.text)
  | .string => some (return .string l.text)
  | .identifier => some (named l.text)
  | .operator =>
      match StepOp.ofLexeme? l with
      | some op => some do return .step op (← identifier .identifierAfterStep)
      | none => if l = .minus then some do return .negate (← nested .operand) else none
  | .delimiter => if l = .openParen then some group else none
  | .keyword | .shift | .directive => none

def factor : Rule Expr :=
  first .expression factorAfter

def expr : Rule Expr :=
  chain .comparison (chain .sum (chain .product factor))

def arguments : Rule (List Expr) := do
  lexeme .openParen (.openParenAfter .functionName)
  let args ← if (← peek 0) = some .closeParen then pure [] else commaSeparated expr
  lexeme .closeParen (.closeParenAfter .arguments)
  return args

end CppToPython.Grammar
