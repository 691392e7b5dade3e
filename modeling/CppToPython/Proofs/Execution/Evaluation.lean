import CppToPython.Stmt
import Mathlib.Logic.Function.Basic

/-! # What expressions and loop heads mean

Variables hold integers without bounds. Evaluating an expression changes none of them: a step
within an expression is only the value it gives. A step that is a whole statement or the whole
update of a loop does change its variable.
-/

namespace CppToPython

abbrev Store := String → Int

/-! ### Names -/

mutual
/-- The variables in an expression. The name of a function is not one. -/
def Expr.names : Expr → List String
  | .number _ | .string _ => []
  | .name text => [text]
  | .binary left _ right => left.names ++ right.names
  | .step _ target => [target]
  | .call _ args => Expr.listNames args
  | .negate operand => operand.names

def Expr.listNames : List Expr → List String
  | [] => []
  | e :: es => e.names ++ Expr.listNames es
end

/-! ### Values -/

/-- What integers leave open: the values of literals, what functions return, and division. -/
structure Evaluation where
  number : String → Int
  number_one : number "1" = 1
  string : String → Int
  call : String → List Int → Int
  divide : Int → Int → Int
  remainder : Int → Int → Int

def truth (p : Prop) [Decidable p] : Int := if p then 1 else 0

@[simp]
theorem truth_ne_zero {p : Prop} [Decidable p] : truth p ≠ 0 ↔ p := by
  by_cases hp : p <;> simp [truth, hp]

def BinaryOp.apply (E : Evaluation) : BinaryOp → Int → Int → Int
  | add, a, b => a + b
  | sub, a, b => a - b
  | mul, a, b => a * b
  | div, a, b => E.divide a b
  | mod, a, b => E.remainder a b
  | lt, a, b => truth (a < b)
  | gt, a, b => truth (a > b)
  | le, a, b => truth (a ≤ b)
  | ge, a, b => truth (a ≥ b)
  | eq, a, b => truth (a = b)
  | ne, a, b => truth (a ≠ b)

def StepOp.apply : StepOp → Int → Int
  | increment, a => a + 1
  | decrement, a => a - 1

mutual
def Expr.eval (E : Evaluation) (s : Store) : Expr → Int
  | .number text => E.number text
  | .string text => E.string text
  | .name text => s text
  | .binary left op right => op.apply E (left.eval E s) (right.eval E s)
  | .step op target => op.apply (s target)
  | .call function args => E.call function (Expr.listEval E s args)
  | .negate operand => - operand.eval E s

def Expr.listEval (E : Evaluation) (s : Store) : List Expr → List Int
  | [] => []
  | e :: es => e.eval E s :: Expr.listEval E s es
end

mutual
/-- The value of an expression is up to the variables in it. -/
theorem Expr.eval_congr (E : Evaluation) {s t : Store} (e : Expr) (h : ∀ x ∈ e.names, s x = t x) :
    e.eval E s = e.eval E t := by
  cases e with
  | number | string => rfl
  | name text => exact h text List.mem_cons_self
  | binary left op right =>
      have hleft := Expr.eval_congr E left fun x hx => h x (List.mem_append_left _ hx)
      have hright := Expr.eval_congr E right fun x hx => h x (List.mem_append_right _ hx)
      rw [eval, eval, hleft, hright]
  | step op target => exact congrArg op.apply (h target List.mem_cons_self)
  | call function args => exact congrArg (E.call function) (Expr.listEval_congr E args h)
  | negate operand => exact congrArg (- ·) (Expr.eval_congr E operand h)
termination_by structural e

theorem Expr.listEval_congr (E : Evaluation) {s t : Store} (es : List Expr)
    (h : ∀ x ∈ Expr.listNames es, s x = t x) : Expr.listEval E s es = Expr.listEval E t es := by
  cases es with
  | nil => rfl
  | cons e es =>
      have hhead := Expr.eval_congr E e fun x hx => h x (List.mem_append_left _ hx)
      have htail := Expr.listEval_congr E es fun x hx => h x (List.mem_append_right _ hx)
      rw [listEval, listEval, hhead, htail]
termination_by structural es
end

theorem Expr.eval_update (E : Evaluation) {e : Expr} {name : String} (h : name ∉ e.names)
    (s : Store) (value : Int) : e.eval E (Function.update s name value) = e.eval E s := by
  apply e.eval_congr
  rintro x hx
  exact Function.update_of_ne (ne_of_mem_of_not_mem hx h) _ _

/-! ### Changes -/

/-- A variable gets the value of an expression, or any value if there is none. -/
def Sets (E : Evaluation) (name : String) (value : Option Expr) (s t : Store) : Prop :=
  ∃ x, (∀ e ∈ value, x = e.eval E s) ∧ t = Function.update s name x

theorem sets_some {E : Evaluation} {name : String} {e : Expr} {s t : Store} :
    Sets E name (some e) s t ↔ t = Function.update s name (e.eval E s) := by
  simp [Sets]

theorem Sets.eq_of_ne {E : Evaluation} {name : String} {value : Option Expr} {s t : Store}
    (h : Sets E name value s t) {x : String} (hx : x ≠ name) : t x = s x := by
  obtain ⟨_, _, rfl⟩ := h
  exact Function.update_of_ne hx _ _

namespace LoopUpdate

def target : LoopUpdate → Option String
  | assign a => some a.name
  | step _ name | evaluate (.step _ name) => some name
  | evaluate _ => none

def run (E : Evaluation) (s : Store) : LoopUpdate → Store
  | assign a => Function.update s a.name (a.value.eval E s)
  | step op name | evaluate (.step op name) => Function.update s name (op.apply (s name))
  | evaluate _ => s

theorem run_eq_of_ne (E : Evaluation) (s : Store) {u : LoopUpdate} {x : String}
    (hx : x ∉ u.target) : u.run E s x = s x := by
  have hne {name : String} (h : u.target = some name) : x ≠ name := by
    rintro rfl
    exact hx h
  fun_cases run E s u with
  | case1 a => exact Function.update_of_ne (hne rfl) _ _
  | case2 op name => exact Function.update_of_ne (hne rfl) _ _
  | case3 op name => exact Function.update_of_ne (hne rfl) _ _
  | case4 => rfl

end LoopUpdate

namespace LoopHead

variable (E : Evaluation) (head : LoopHead)

def Starts (s t : Store) : Prop :=
  match head.init with
  | none => t = s
  | some init => Sets E init.name init.value s t

/-- Whether another iteration follows. Without a condition one always does. -/
def Holds (s : Store) : Prop := ∀ e ∈ head.condition, e.eval E s ≠ 0

def advance (s : Store) : Store :=
  match head.update with
  | none => s
  | some update => update.run E s

end LoopHead

end CppToPython
