import CppToPython.Proofs.WellFormed

/-! # Programs as lexemes

The lexemes of a program, with parentheses around every operator and every step in an
expression. The grammar derives the program from them, if there are levels enough.
-/

namespace CppToPython

/-! ### Expressions -/

def Lexeme.ofNumber (text : String) : Lexeme :=
  ⟨if '.' ∈ text.toList then .float else .number, text⟩

mutual
/-- The lexemes of an expression. Steps stand before their variable. -/
def Expr.lexemes : Expr → List Lexeme
  | .number text => [.ofNumber text]
  | .string text => [⟨.string, text⟩]
  | .name text => [.identifier text]
  | .binary left op right =>
      .openParen :: (left.lexemes ++ op.lexeme :: right.lexemes) ++ [.closeParen]
  | .step op target => .openParen :: [op.lexeme, .identifier target] ++ [.closeParen]
  | .call function args => .identifier function :: Expr.argLexemes args
  | .negate operand => .minus :: operand.lexemes

/-- The lexemes of arguments in their parentheses. -/
def Expr.argLexemes : List Expr → List Lexeme
  | [] => [.openParen, .closeParen]
  | e :: es => .openParen :: (e.lexemes ++ Expr.markedLexemes .comma es) ++ [.closeParen]

def Expr.markedLexemes (mark : Lexeme) : List Expr → List Lexeme
  | [] => []
  | e :: es => mark :: e.lexemes ++ Expr.markedLexemes mark es
end

mutual
/-- The levels that the lexemes of an expression are nested. -/
def Expr.levels : Expr → Nat
  | .number _ | .string _ | .name _ => 0
  | .binary left _ right => max left.levels right.levels + 1
  | .step _ _ => 1
  | .call _ args => Expr.listLevels args + 1
  | .negate operand => operand.levels + 1

def Expr.listLevels : List Expr → Nat
  | [] => 0
  | e :: es => max e.levels (Expr.listLevels es)
end

namespace Derives

theorem expressionOf_factor {factor : Phrases Expr} {ls : List Lexeme} {e : Expr}
    (h : factor ls e) : ExpressionOf factor ls e :=
  .operand (.operand (.operand h))

theorem expressionOf_binary {factor : Phrases Expr} {ls ms : List Lexeme} {left right : Expr}
    (hl : factor ls left) (op : BinaryOp) (hr : factor ms right) :
    ExpressionOf factor (ls ++ op.lexeme :: ms) (.binary left op right) := by
  cases hop : Grammar.Tier.of op with
  | comparison =>
      exact .binary (.operand (.operand (.operand hl))) hop (.operand (.operand hr))
  | sum => exact .operand (.binary (.operand (.operand hl)) hop (.operand hr))
  | product => exact .operand (.operand (.binary (.operand hl) hop hr))

theorem factor_eq (levels : Nat) : ∃ inner, Factor levels = FactorOver inner := by
  cases levels with
  | zero => exact ⟨none, rfl⟩
  | succ levels => exact ⟨some (Factor levels), rfl⟩

theorem factor_number (levels : Nat) (text : String) :
    Factor levels [.ofNumber text] (.number text) := by
  obtain ⟨inner, hinner⟩ := factor_eq levels
  rw [hinner, Lexeme.ofNumber]
  split
  · exact .float
  · exact .number

end Derives

open Derives

theorem exists_level {n levels : Nat} (h : n + 1 ≤ levels) : ∃ m, levels = m + 1 ∧ n ≤ m :=
  ⟨levels - 1, by omega, by omega⟩

mutual
/-- An expression is a factor of its lexemes, since its operators are in parentheses. -/
theorem Expr.factor_lexemes (e : Expr) {levels : Nat} (h : e.levels ≤ levels) :
    Factor levels e.lexemes e := by
  obtain ⟨inner, hinner⟩ := factor_eq levels
  cases e with
  | number text => exact factor_number levels text
  | string text =>
      rw [hinner]
      exact .string
  | name text =>
      rw [hinner]
      exact .name
  | binary left op right =>
      obtain ⟨n, rfl, hn⟩ := exists_level h
      rw [Nat.max_le] at hn
      exact .group
        (expressionOf_binary (Expr.factor_lexemes left hn.1) op (Expr.factor_lexemes right hn.2))
  | step op target =>
      obtain ⟨n, rfl, _⟩ := exists_level h
      obtain ⟨deeper, hdeeper⟩ := factor_eq n
      refine .group (expressionOf_factor ?_)
      rw [hdeeper]
      exact .stepBefore
  | call function args =>
      obtain ⟨n, rfl, hn⟩ := exists_level h
      exact .call (Expr.arguments_lexemes args hn)
  | negate operand =>
      obtain ⟨n, rfl, hn⟩ := exists_level h
      exact .negate (Expr.factor_lexemes operand hn)
termination_by structural e

theorem Expr.arguments_lexemes (args : List Expr) {levels : Nat}
    (h : Expr.listLevels args ≤ levels) :
    Arguments (Expression levels) (Expr.argLexemes args) args := by
  cases args with
  | nil => exact .none
  | cons e es =>
      rw [Expr.listLevels, Nat.max_le] at h
      exact .some (.cons (expressionOf_factor (Expr.factor_lexemes e h.1))
        (Expr.after_lexemes .comma es h.2))
termination_by structural args

theorem Expr.after_lexemes (mark : Lexeme) (es : List Expr) {levels : Nat}
    (h : Expr.listLevels es ≤ levels) :
    After mark (Expression levels) (Expr.markedLexemes mark es) es := by
  cases es with
  | nil => exact .nil
  | cons e es =>
      rw [Expr.listLevels, Nat.max_le] at h
      exact .cons (expressionOf_factor (Expr.factor_lexemes e h.1))
        (Expr.after_lexemes mark es h.2)
termination_by structural es
end

/-! ### Parts of statements -/

def Declaration.lexemes (d : Declaration) : List Lexeme :=
  d.type.lexeme :: .identifier d.name ::
    match d.value with
    | none => []
    | some e => .equals :: e.lexemes

def Declaration.levels (d : Declaration) : Nat := (d.value.map Expr.levels).getD 0

def Assignment.lexemes (a : Assignment) : List Lexeme :=
  .identifier a.name :: .equals :: a.value.lexemes

def LoopInit.lexemes : LoopInit → List Lexeme
  | .declare d => d.lexemes
  | .assign a => a.lexemes

def LoopInit.levels : LoopInit → Nat
  | .declare d => d.levels
  | .assign a => a.value.levels

def LoopUpdate.lexemes : LoopUpdate → List Lexeme
  | .assign a => a.lexemes
  | .step op target => [op.lexeme, .identifier target]
  | .evaluate e => e.lexemes

def LoopUpdate.levels : LoopUpdate → Nat
  | .assign a => a.value.levels
  | .step _ _ => 0
  | .evaluate e => e.levels

def LoopHead.lexemes (head : LoopHead) : List Lexeme :=
  .openParen :: (head.init.map LoopInit.lexemes).getD [] ++
    .semicolon :: (head.condition.map Expr.lexemes).getD [] ++
    .semicolon :: (head.update.map LoopUpdate.lexemes).getD [] ++ [.closeParen]

def LoopHead.levels (head : LoopHead) : Nat :=
  max ((head.init.map LoopInit.levels).getD 0)
    (max ((head.condition.map Expr.levels).getD 0) ((head.update.map LoopUpdate.levels).getD 0))

def Parameter.lexemes (param : Parameter) : List Lexeme :=
  [param.type.lexeme, .identifier param.name]

def Parameter.listLexemes : List Parameter → List Lexeme
  | [] => []
  | param :: params => param.lexemes ++ params.flatMap fun param => .comma :: param.lexemes

section Parts

variable {levels : Nat}

theorem optional_lexemes {α : Type} {item : Phrases α} {lexemes : α → List Lexeme}
    {measure : α → Nat} {part : Option α}
    (hitem : ∀ a, measure a ≤ levels → item (lexemes a) a)
    (h : (part.map measure).getD 0 ≤ levels) :
    Optional item ((part.map lexemes).getD []) part := by
  cases part with
  | none => exact .missing
  | some a => exact .present (hitem a h)

theorem Expr.expression_lexemes (e : Expr) (h : e.levels ≤ levels) :
    Expression levels e.lexemes e :=
  expressionOf_factor (Expr.factor_lexemes e h)

theorem Declaration.declared_lexemes (d : Declaration) (h : d.levels ≤ levels) :
    Declared (Expression levels) d.lexemes d := by
  obtain ⟨type, name, value⟩ := d
  cases value with
  | none => exact .plain
  | some e => exact .valued (Expr.expression_lexemes e h)

theorem Assignment.assigned_lexemes (a : Assignment) (h : a.value.levels ≤ levels) :
    Assigned (Expression levels) a.lexemes a :=
  .mk (Expr.expression_lexemes a.value h)

theorem LoopInit.init_lexemes (init : LoopInit) (h : init.levels ≤ levels) :
    Init (Expression levels) init.lexemes init := by
  cases init with
  | declare d => exact .declare (d.declared_lexemes h)
  | assign a => exact .assign (a.assigned_lexemes h)

/-- Steps in expressions are in parentheses, so no expression starts with one. -/
theorem Expr.not_startsWithStep_lexemes (e : Expr) : ¬ StartsWithStep e.lexemes := by
  intro h
  generalize hls : e.lexemes = ls at h
  cases h with
  | @before op =>
      cases e with
      | number text =>
          simp only [Expr.lexemes, Lexeme.ofNumber, StepOp.lexeme] at hls
          split at hls
          · cases hls
          · cases hls
      | negate operand =>
          have hminus : Lexeme.minus = op.lexeme := (List.cons.inj hls).1
          cases op <;> exact absurd hminus (by decide)
      | string | name | binary | step | call => cases hls
  | after =>
      cases e with
      | call function args =>
          cases args with
          | nil => cases hls
          | cons => cases hls
      | number => simp [Expr.lexemes] at hls
      | string | name | binary | step | negate => cases hls

theorem LoopUpdate.update_lexemes (update : LoopUpdate) (h : update.levels ≤ levels) :
    Update (Expression levels) update.lexemes update := by
  cases update with
  | assign a => exact .assign (a.assigned_lexemes h)
  | step op target => exact .stepBefore
  | evaluate e => exact .evaluate (e.expression_lexemes h) e.not_startsWithStep_lexemes

theorem LoopHead.head_lexemes (head : LoopHead) (h : head.levels ≤ levels) :
    Head (Expression levels) head.lexemes head := by
  rw [LoopHead.levels, Nat.max_le, Nat.max_le] at h
  exact .mk (optional_lexemes LoopInit.init_lexemes h.1)
    (optional_lexemes Expr.expression_lexemes h.2.1)
    (optional_lexemes LoopUpdate.update_lexemes h.2.2)

theorem Parameter.parameters_lexemes (params : List Parameter) :
    Parameters (Parameter.listLexemes params) params := by
  cases params with
  | nil => exact .none
  | cons param params =>
      refine .some (.cons .typed ?_)
      induction params with
      | nil => exact .nil
      | cons param params ih => exact .cons .typed ih

theorem after_names (targets : List String) :
    After .shiftRight Name (targets.flatMap fun name => [.shiftRight, .identifier name]) targets := by
  induction targets with
  | nil => exact .nil
  | cons name targets ih => exact .cons .mk ih

end Parts

/-! ### Statements -/

def bracesAround (body : List Lexeme) : List Lexeme := .openBrace :: body ++ [.closeBrace]

def conditionalLexemes (condition body otherwise : List Lexeme) : List Lexeme :=
  .word "if" :: .openParen :: condition ++ .closeParen :: bracesAround body ++ otherwise

mutual
def Stmt.lexemes : Stmt → List Lexeme
  | .function type name params body =>
      type.lexeme :: .identifier name :: .openParen :: Parameter.listLexemes params ++
        .closeParen :: bracesAround (Stmt.listLexemes body)
  | .declare d => d.lexemes ++ [.semicolon]
  | .assign a => a.lexemes ++ [.semicolon]
  | .output values => .identifier "cout" :: Expr.markedLexemes .shiftLeft values ++ [.semicolon]
  | .input targets =>
      .identifier "cin" :: (targets.flatMap fun name => [.shiftRight, .identifier name]) ++
        [.semicolon]
  | .step op target => [op.lexeme, .identifier target, .semicolon]
  | .conditional condition body otherwise =>
      conditionalLexemes condition.lexemes (Stmt.listLexemes body) otherwise.lexemes
  | .forLoop head body => .word "for" :: head.lexemes ++ bracesAround (Stmt.listLexemes body)
  | .whileLoop condition body =>
      .word "while" :: .openParen :: condition.lexemes ++
        .closeParen :: bracesAround (Stmt.listLexemes body)
  | .result value => .word "return" :: (value.map Expr.lexemes).getD [] ++ [.semicolon]
  | .call function args => .identifier function :: Expr.argLexemes args ++ [.semicolon]

def Stmt.listLexemes : List Stmt → List Lexeme
  | [] => []
  | stmt :: stmts => stmt.lexemes ++ Stmt.listLexemes stmts

def Else.lexemes : Else → List Lexeme
  | .nothing => []
  | .block body => .word "else" :: bracesAround (Stmt.listLexemes body)
  | .elseIf condition body otherwise =>
      .word "else" ::
        conditionalLexemes condition.lexemes (Stmt.listLexemes body) otherwise.lexemes
end

mutual
/-- The levels that the lexemes of a statement are nested. -/
def Stmt.levels : Stmt → Nat
  | .function _ _ _ body => Stmt.listLevels body + 1
  | .declare d => d.levels
  | .assign a => a.value.levels
  | .output values | .call _ values => Expr.listLevels values
  | .input _ | .step _ _ => 0
  | .conditional condition body otherwise =>
      max condition.levels (max (Stmt.listLevels body + 1) otherwise.levels)
  | .forLoop head body => max head.levels (Stmt.listLevels body + 1)
  | .whileLoop condition body => max condition.levels (Stmt.listLevels body + 1)
  | .result value => (value.map Expr.levels).getD 0

def Stmt.listLevels : List Stmt → Nat
  | [] => 0
  | stmt :: stmts => max stmt.levels (Stmt.listLevels stmts)

/-- Each `else if` is one level deeper. -/
def Else.levels : Else → Nat
  | .nothing => 0
  | .block body => Stmt.listLevels body + 1
  | .elseIf condition body otherwise =>
      max condition.levels (max (Stmt.listLevels body + 1) otherwise.levels) + 1
end

theorem block_lexemes {body : List Stmt} {levels : Nat} (h : Stmt.listLevels body + 1 ≤ levels)
    (hbody : ∀ {n}, Stmt.listLevels body ≤ n →
      Statements (Expression n) (deeper n) (Stmt.listLexemes body) body) :
    Block (deeper levels) (bracesAround (Stmt.listLexemes body)) body := by
  obtain ⟨n, rfl, hn⟩ := exists_level h
  exact .braces (hbody hn)

theorem statements_cons {expr : Phrases Expr} {inner : Option Inner} {ls ms : List Lexeme}
    {stmt : Stmt} {stmts : List Stmt} (hstmt : Statement expr inner ls (some stmt))
    (hstmts : Statements expr inner ms stmts) :
    Statements expr inner (ls ++ ms) (stmt :: stmts) := by
  cases hstmts with
  | mk hseq => exact .mk (.cons hstmt hseq)

mutual
theorem Stmt.statement_lexemes (stmt : Stmt) (hwf : stmt.WellFormed) {levels : Nat}
    (h : stmt.levels ≤ levels) :
    Statement (Expression levels) (deeper levels) stmt.lexemes (some stmt) := by
  cases stmt with
  | function type name params body =>
      exact .function (Parameter.parameters_lexemes params)
        (block_lexemes h (Stmt.statements_lexemes body hwf.2.2))
  | declare d => exact .declare (d.declared_lexemes h)
  | assign a => exact .assign hwf.2 (a.assigned_lexemes h)
  | output values => exact .output (Expr.after_lexemes .shiftLeft values h)
  | input targets => exact .input (after_names targets)
  | step op target => exact .stepBefore
  | conditional condition body otherwise =>
      rw [Stmt.levels, Nat.max_le, Nat.max_le] at h
      exact .conditional (.mk (condition.expression_lexemes h.1)
        (block_lexemes h.2.1 (Stmt.statements_lexemes body hwf.2.1))
        (Else.alternative_lexemes otherwise hwf.2.2 h.2.2))
  | forLoop head body =>
      rw [Stmt.levels, Nat.max_le] at h
      exact .forLoop (head.head_lexemes h.1)
        (block_lexemes h.2 (Stmt.statements_lexemes body hwf.2))
  | whileLoop condition body =>
      rw [Stmt.levels, Nat.max_le] at h
      exact .whileLoop (condition.expression_lexemes h.1)
        (block_lexemes h.2 (Stmt.statements_lexemes body hwf.2))
  | result value => exact .result (optional_lexemes Expr.expression_lexemes h)
  | call function args => exact .call hwf.2.1 (Expr.arguments_lexemes args h)
termination_by structural stmt

theorem Stmt.statements_lexemes (stmts : List Stmt) (hwf : Stmt.AllWellFormed stmts)
    {levels : Nat} (h : Stmt.listLevels stmts ≤ levels) :
    Statements (Expression levels) (deeper levels) (Stmt.listLexemes stmts) stmts := by
  cases stmts with
  | nil => exact .mk .nil
  | cons stmt stmts =>
      rw [Stmt.listLevels, Nat.max_le] at h
      exact statements_cons (Stmt.statement_lexemes stmt hwf.1 h.1)
        (Stmt.statements_lexemes stmts hwf.2 h.2)
termination_by structural stmts

theorem Else.alternative_lexemes (otherwise : Else) (hwf : otherwise.WellFormed) {levels : Nat}
    (h : otherwise.levels ≤ levels) :
    Alternative (deeper levels) otherwise.lexemes otherwise := by
  cases otherwise with
  | nothing => exact .nothing
  | block body => exact .block (block_lexemes h (Stmt.statements_lexemes body hwf))
  | elseIf condition body otherwise =>
      obtain ⟨n, rfl, hn⟩ := exists_level h
      rw [Nat.max_le, Nat.max_le] at hn
      exact .elseIf (.mk (condition.expression_lexemes hn.1)
        (block_lexemes hn.2.1 (Stmt.statements_lexemes body hwf.2.1))
        (Else.alternative_lexemes otherwise hwf.2.2 hn.2.2))
termination_by structural otherwise
end

end CppToPython
