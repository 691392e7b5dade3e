import CppToPython.Grammar.Expr
import CppToPython.Stmt

/-! # Derivations

The grammar as rules: which lexemes make up which phrase, and what the phrase
means. Nothing here looks ahead or goes from left to right; a rule only says how
the lexemes of a phrase are put together from those of its parts.

A rule that goes one level deeper needs the phrases of that level, and there are
none below the last one. `levels` always counts the levels that are left.
-/

namespace CppToPython

namespace Lexeme

def identifier (text : String) : Lexeme := ⟨.identifier, text⟩

end Lexeme

def BinaryOp.lexeme (op : BinaryOp) : Lexeme := ⟨.operator, op.symbol⟩

def StepOp.lexeme (op : StepOp) : Lexeme := ⟨.operator, op.symbol⟩

def ValueType.lexeme (type : ValueType) : Lexeme := .word type.name

def ReturnType.lexeme (type : ReturnType) : Lexeme := .word type.name

namespace Derives

open Grammar (Tier)

/-- A sort of phrases: which lexemes mean which value. -/
abbrev Phrases (α : Type) := List Lexeme → α → Prop

/-! ### Repetition -/

/-- A phrase that may be missing. -/
inductive Optional {α : Type} (item : Phrases α) : Phrases (Option α) where
  | missing : Optional item [] none
  | present {ls a} : item ls a → Optional item ls (some a)

/-- Phrases one after the other. -/
inductive Sequence {α : Type} (item : Phrases α) : Phrases (List α) where
  | nil : Sequence item [] []
  | cons {ls ms a as} : item ls a → Sequence item ms as → Sequence item (ls ++ ms) (a :: as)

/-- Phrases with the lexeme `mark` before each of them. -/
inductive After {α : Type} (mark : Lexeme) (item : Phrases α) : Phrases (List α) where
  | nil : After mark item [] []
  | cons {ls ms a as} :
      item ls a → After mark item ms as → After mark item (mark :: ls ++ ms) (a :: as)

/-- One phrase or more, with commas between them. -/
inductive Separated {α : Type} (item : Phrases α) : Phrases (List α) where
  | cons {ls ms a as} : item ls a → After .comma item ms as → Separated item (ls ++ ms) (a :: as)

/-! ### Expressions -/

/-- Operands with operators of one tier between them, grouped to the left. -/
inductive Chain (tier : Tier) (operand : Phrases Expr) : Phrases Expr where
  | operand {ls e} : operand ls e → Chain tier operand ls e
  | binary {ls ms left op right} :
      Chain tier operand ls left → Tier.of op = tier → operand ms right →
        Chain tier operand (ls ++ op.lexeme :: ms) (.binary left op right)

def ExpressionOf (factor : Phrases Expr) : Phrases Expr :=
  Chain .comparison (Chain .sum (Chain .product factor))

/-- The arguments of a call in their parentheses. -/
inductive Arguments (expr : Phrases Expr) : Phrases (List Expr) where
  | none : Arguments expr [.openParen, .closeParen] []
  | some {ls args} :
      Separated expr ls args → Arguments expr (.openParen :: ls ++ [.closeParen]) args

/-- The factors over those one level deeper, if there is such a level. -/
inductive FactorOver : Option (Phrases Expr) → Phrases Expr where
  | number {inner text} : FactorOver inner [⟨.number, text⟩] (.number text)
  | float {inner text} : FactorOver inner [⟨.float, text⟩] (.number text)
  | string {inner text} : FactorOver inner [⟨.string, text⟩] (.string text)
  | name {inner text} : FactorOver inner [.identifier text] (.name text)
  | stepAfter {inner name op} :
      FactorOver inner [.identifier name, StepOp.lexeme op] (.step op name)
  | stepBefore {inner name op} :
      FactorOver inner [StepOp.lexeme op, .identifier name] (.step op name)
  | call {inner name ls args} :
      Arguments (ExpressionOf inner) ls args →
        FactorOver (some inner) (.identifier name :: ls) (.call name args)
  | negate {inner ls e} : inner ls e → FactorOver (some inner) (.minus :: ls) (.negate e)
  | group {inner ls e} :
      ExpressionOf inner ls e →
        FactorOver (some inner) (.openParen :: ls ++ [.closeParen]) e

/-- The factors with `levels` levels left below them. -/
def Factor : (levels : Nat) → Phrases Expr
  | 0 => FactorOver none
  | levels + 1 => FactorOver (some (Factor levels))

/-- The expressions with `levels` levels left below them. -/
def Expression (levels : Nat) : Phrases Expr := ExpressionOf (Factor levels)

/-! ### Parts of statements -/

inductive OneParameter : Phrases Parameter where
  | typed {type name} : OneParameter [ValueType.lexeme type, .identifier name] ⟨type, name⟩

/-- The parameters of a function without the parentheses. -/
inductive Parameters : Phrases (List Parameter) where
  | none : Parameters [] []
  | void : Parameters [.word "void"] []
  | some {ls params} : Separated OneParameter ls params → Parameters ls params

inductive Name : Phrases String where
  | mk {name} : Name [.identifier name] name

/-- A variable declaration without its end. -/
inductive Declared (expr : Phrases Expr) : Phrases Declaration where
  | plain {type name} :
      Declared expr [ValueType.lexeme type, .identifier name] ⟨type, name, none⟩
  | valued {type name ls e} :
      expr ls e →
        Declared expr (ValueType.lexeme type :: .identifier name :: .equals :: ls)
          ⟨type, name, some e⟩

inductive Assigned (expr : Phrases Expr) : Phrases Assignment where
  | mk {name ls e} :
      expr ls e → Assigned expr (.identifier name :: .equals :: ls) ⟨name, e⟩

inductive Init (expr : Phrases Expr) : Phrases LoopInit where
  | declare {ls d} : Declared expr ls d → Init expr ls (.declare d)
  | assign {ls a} : Assigned expr ls a → Init expr ls (.assign a)

/-- Whether lexemes start with a step of a variable. -/
inductive StartsWithStep : List Lexeme → Prop where
  | before {op ls} : StartsWithStep (StepOp.lexeme op :: ls)
  | after {name op ls} : StartsWithStep (.identifier name :: StepOp.lexeme op :: ls)

/-- The last part of the head of a `for` loop. What starts with a step is that
    step and nothing more. -/
inductive Update (expr : Phrases Expr) : Phrases LoopUpdate where
  | stepAfter {name op} : Update expr [.identifier name, StepOp.lexeme op] (.step op name)
  | stepBefore {name op} : Update expr [StepOp.lexeme op, .identifier name] (.step op name)
  | assign {ls a} : Assigned expr ls a → Update expr ls (.assign a)
  | evaluate {ls e} : expr ls e → ¬ StartsWithStep ls → Update expr ls (.evaluate e)

inductive Head (expr : Phrases Expr) : Phrases LoopHead where
  | mk {is cs us init condition update} :
      Optional (Init expr) is init → Optional expr cs condition →
      Optional (Update expr) us update →
        Head expr
          (.openParen :: is ++ .semicolon :: cs ++ .semicolon :: us ++ [.closeParen])
          ⟨init, condition, update⟩

/-! ### Statements -/

/-- The phrases that can stand one level deeper in a statement. -/
structure Inner where
  /-- The statements of a block. -/
  statements : Phrases (List Stmt)
  /-- A conditional from its `if` on. -/
  conditional : Phrases (Expr × List Stmt × Else)

inductive Block : Option Inner → Phrases (List Stmt) where
  | braces {inner ls stmts} :
      inner.statements ls stmts →
        Block (some inner) (.openBrace :: ls ++ [.closeBrace]) stmts

inductive Alternative : Option Inner → Phrases Else where
  | nothing {inner} : Alternative inner [] .nothing
  | block {inner ls stmts} :
      Block inner ls stmts → Alternative inner (.word "else" :: ls) (.block stmts)
  | elseIf {inner ls condition body otherwise} :
      inner.conditional ls (condition, body, otherwise) →
        Alternative (some inner) (.word "else" :: ls) (.elseIf condition body otherwise)

/-- A conditional from its `if` on. -/
inductive Conditional (expr : Phrases Expr) (inner : Option Inner) :
    Phrases (Expr × List Stmt × Else) where
  | mk {cs bs as condition body otherwise} :
      expr cs condition → Block inner bs body → Alternative inner as otherwise →
        Conditional expr inner (.word "if" :: .openParen :: cs ++ .closeParen :: bs ++ as)
          (condition, body, otherwise)

def IsStream (name : String) : Prop := name = "cout" ∨ name = "cin"

/-- A statement. Directives are statements that mean nothing, and a stream at the
    front makes a statement of that stream only. -/
inductive Statement (expr : Phrases Expr) (inner : Option Inner) :
    Phrases (Option Stmt) where
  | directive {text} : Statement expr inner [⟨.directive, text⟩] none
  | usingNamespace {name} :
      Statement expr inner
        [.word "using", .word "namespace", .identifier name, .semicolon] none
  | function {type name ls params bs body} :
      Parameters ls params → Block inner bs body →
        Statement expr inner
          (ReturnType.lexeme type :: .identifier name :: .openParen :: ls ++ .closeParen :: bs)
          (some (.function type name params body))
  | declare {ls d} :
      Declared expr ls d → Statement expr inner (ls ++ [.semicolon]) (some (.declare d))
  | conditional {ls condition body otherwise} :
      Conditional expr inner ls (condition, body, otherwise) →
        Statement expr inner ls (some (.conditional condition body otherwise))
  | forLoop {hs head bs body} :
      Head expr hs head → Block inner bs body →
        Statement expr inner (.word "for" :: hs ++ bs) (some (.forLoop head body))
  | whileLoop {cs condition bs body} :
      expr cs condition → Block inner bs body →
        Statement expr inner (.word "while" :: .openParen :: cs ++ .closeParen :: bs)
          (some (.whileLoop condition body))
  | result {ls value} :
      Optional expr ls value →
        Statement expr inner (.word "return" :: ls ++ [.semicolon]) (some (.result value))
  | output {ls values} :
      After .shiftLeft expr ls values →
        Statement expr inner (.identifier "cout" :: ls ++ [.semicolon]) (some (.output values))
  | input {ls targets} :
      After .shiftRight Name ls targets →
        Statement expr inner (.identifier "cin" :: ls ++ [.semicolon]) (some (.input targets))
  | call {name ls args} :
      ¬ IsStream name → Arguments expr ls args →
        Statement expr inner (.identifier name :: ls ++ [.semicolon]) (some (.call name args))
  | stepAfter {name op} :
      ¬ IsStream name →
        Statement expr inner [.identifier name, StepOp.lexeme op, .semicolon] (some (.step op name))
  | stepBefore {name op} :
      Statement expr inner [StepOp.lexeme op, .identifier name, .semicolon] (some (.step op name))
  | assign {ls a} :
      ¬ IsStream a.name → Assigned expr ls a →
        Statement expr inner (ls ++ [.semicolon]) (some (.assign a))

/-- Statements one after the other, without those that mean nothing. -/
inductive Statements (expr : Phrases Expr) (inner : Option Inner) : Phrases (List Stmt) where
  | mk {ls stmts} :
      Sequence (Statement expr inner) ls stmts → Statements expr inner ls (stmts.filterMap id)

/-- What can stand one level deeper, when `levels` levels are left. -/
def deeper : (levels : Nat) → Option Inner
  | 0 => none
  | levels + 1 =>
      some ⟨Statements (Expression levels) (deeper levels),
        Conditional (Expression levels) (deeper levels)⟩

/-- A program in which no more than `levels` levels are nested. -/
def Program (levels : Nat) : Phrases (List Stmt) :=
  Statements (Expression levels) (deeper levels)

end Derives

end CppToPython
