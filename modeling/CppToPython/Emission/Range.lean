import CppToPython.Emission.Expr
import CppToPython.Stmt

/-! # Counting loops

Python's `for` runs over a range. A `for` loop has an equivalent range if it
starts a variable at a value, compares it with a bound from below, and adds one
to it after each iteration.
-/

namespace CppToPython

/-- The range of a counting loop. -/
structure Range where
  /-- The variable that counts. -/
  counter : String
  /-- Its first value. -/
  start : Expr
  /-- The expression it is compared with. -/
  bound : Expr
  /-- Whether the bound itself is reached. -/
  inclusive : Bool
  deriving Repr

namespace Range

def header (r : Range) : String :=
  let stop := if r.inclusive then r.bound.toPython ++ " + 1" else r.bound.toPython
  "for " ++ r.counter ++ " in range(" ++ r.start.toPython ++ ", " ++ stop ++ "):"

end Range

def Expr.isVariable (name : String) : Expr → Bool
  | .name text => text = name
  | _ => false

/-- Whether an expression is the number one, written as a single digit. -/
def Expr.isOne : Expr → Bool
  | .number text => text = "1"
  | _ => false

/-- Whether an update adds one to the variable `name`. -/
def LoopUpdate.addsOne (name : String) : LoopUpdate → Bool
  | .step op target => op = .increment && target = name
  | .evaluate (.step op target) => op = .increment && target = name
  | .assign ⟨target, .binary left .add right⟩ =>
      target = name
        && (left.isVariable name && right.isOne || left.isOne && right.isVariable name)
  | _ => false

/-- The bound of a condition on the variable `name`, and whether it is reached. -/
def Expr.upperBound? (name : String) : Expr → Option (Expr × Bool)
  | .binary left .lt right => if left.isVariable name then some (right, false) else none
  | .binary left .le right => if left.isVariable name then some (right, true) else none
  | _ => none

/-- The range of a `for` loop, if it is a counting loop. -/
def LoopHead.range? (head : LoopHead) : Option Range := do
  let init ← head.init
  let start ← init.value
  let (bound, inclusive) ← (← head.condition).upperBound? init.name
  if (← head.update).addsOne init.name then some ⟨init.name, start, bound, inclusive⟩ else none

end CppToPython
