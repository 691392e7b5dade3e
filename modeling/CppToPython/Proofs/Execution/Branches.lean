import CppToPython.Proofs.Execution.Semantics

/-! # Branches

The lines of a conditional stand beside each other, where its alternatives are inside each
other. The block that Python takes is that of the statements which the alternatives come
down to, and the lines after the conditional do not matter.
-/

namespace CppToPython

open Emission

universe u

/-! ### The programs -/

mutual
/-- Whether there is no function and no `for` loop in a statement. -/
def Stmt.isImperative : Stmt → Bool
  | .function .. | .forLoop .. => false
  | .conditional _ body otherwise => Stmt.allImperative body && otherwise.isImperative
  | .whileLoop _ body => Stmt.allImperative body
  | .declare _ | .assign _ | .output _ | .input _ | .step _ _ | .result _ | .call _ _ => true

def Stmt.allImperative : List Stmt → Bool
  | [] => true
  | stmt :: stmts => stmt.isImperative && Stmt.allImperative stmts

def Else.isImperative : Else → Bool
  | .nothing => true
  | .block body => Stmt.allImperative body
  | .elseIf _ body otherwise => Stmt.allImperative body && otherwise.isImperative
end

/-- Statements of a program that can be run. -/
structure Runnable (stmts : List Stmt) : Prop where
  imperative : Stmt.allImperative stmts = true
  wellFormed : Stmt.AllWellFormed stmts

structure Else.Runnable (otherwise : Else) : Prop where
  imperative : otherwise.isImperative = true
  wellFormed : otherwise.WellFormed

theorem Runnable.tail {stmt : Stmt} {rest : List Stmt} (h : Runnable (stmt :: rest)) :
    Runnable rest where
  imperative := by
    have hall := h.imperative
    simp only [Stmt.allImperative, Bool.and_eq_true] at hall
    exact hall.2
  wellFormed := h.wellFormed.2

theorem Runnable.loop {condition : Expr} {body rest : List Stmt}
    (h : Runnable (.whileLoop condition body :: rest)) : Runnable body where
  imperative := by
    have hall := h.imperative
    simp only [Stmt.allImperative, Stmt.isImperative, Bool.and_eq_true] at hall
    exact hall.1
  wellFormed := h.wellFormed.1.2

theorem Runnable.branches {condition : Expr} {body rest : List Stmt} {otherwise : Else}
    (h : Runnable (.conditional condition body otherwise :: rest)) :
    Runnable body ∧ otherwise.Runnable := by
  have hall := h.imperative
  simp only [Stmt.allImperative, Stmt.isImperative, Bool.and_eq_true] at hall
  exact ⟨⟨hall.1.1, h.wellFormed.1.2.1⟩, ⟨hall.1.2, h.wellFormed.1.2.2⟩⟩

theorem Else.Runnable.stmts {otherwise : Else} (h : otherwise.Runnable) :
    CppToPython.Runnable otherwise.stmts := by
  cases otherwise with
  | nothing => exact ⟨rfl, trivial⟩
  | block body => exact ⟨h.imperative, h.wellFormed⟩
  | elseIf condition body otherwise =>
      refine ⟨?_, h.wellFormed, trivial⟩
      simpa [Else.stmts, Stmt.allImperative, Stmt.isImperative, Else.isImperative] using h.imperative

theorem Else.Runnable.branches {condition : Expr} {body : List Stmt} {otherwise : Else}
    (h : (Else.elseIf condition body otherwise).Runnable) :
    CppToPython.Runnable body ∧ otherwise.Runnable :=
  h.stmts.branches

/-! ### Branches -/

def Form.isAlternative : Form → Bool
  | .elifHead _ | .elseHead => true
  | _ => false

def Node.text : Node → String
  | .mk text _ => text

/-- Lines that do not go on with a conditional before them. -/
def Detached (nodes : List Node) : Prop :=
  ∀ node ∈ nodes.head?, (Form.of node.text).isAlternative = false

section

variable {σ : Type u} (I : Interpretation σ)

theorem taken_of_detached {nodes : List Node} (h : Detached nodes) (s : σ) :
    Node.taken I s nodes = [] := by
  cases nodes with
  | nil => rfl
  | cons node rest =>
      obtain ⟨text, block⟩ := node
      have hform := h _ rfl
      rw [Node.taken]
      split
      · simp_all [Node.text, Form.isAlternative]
      · simp_all [Node.text, Form.isAlternative]
      · rfl

theorem afterBranches_of_detached {nodes : List Node} (h : Detached nodes) :
    Node.afterBranches nodes = nodes := by
  cases nodes with
  | nil => rfl
  | cons node rest =>
      obtain ⟨text, block⟩ := node
      have hform := h _ rfl
      rw [Node.afterBranches]
      split
      · simp_all [Node.text, Form.isAlternative]
      · simp_all [Node.text, Form.isAlternative]
      · rfl

theorem detached_leaves {texts : List String} {rest : List Node}
    (ht : ∀ text ∈ texts, Form.of text = .simple) (hr : Detached rest) :
    Detached (texts.map .leaf ++ rest) := by
  cases texts with
  | nil => exact hr
  | cons text texts =>
      rintro node ⟨⟩
      show (Form.of text).isAlternative = false
      rw [ht text List.mem_cons_self]
      rfl

theorem Stmt.forest_of_isSimple {stmt : Stmt} (h : stmt.isSimple = true) :
    stmt.forest = stmt.texts.map .leaf := by
  apply @Stmt.forest_eq_texts stmt 0
  cases stmt with
  | function | conditional | forLoop | whileLoop | result => cases h
  | declare | assign | output | input | step | call => rfl

theorem Runnable.detached {stmts : List Stmt} (h : Runnable stmts) :
    Detached (Stmt.listForest stmts) := by
  induction stmts with
  | nil => nofun
  | cons stmt stmts ih =>
      cases stmt with
      | function | forLoop => cases h.imperative
      | declare | assign | output | input | step | call =>
          rw [Stmt.listForest, Stmt.forest_of_isSimple rfl]
          exact detached_leaves (Stmt.form_texts h.wellFormed.1 rfl) (ih h.tail)
      | result value =>
          rintro node ⟨⟩
          exact congrArg Form.isAlternative (Form.of_resultText value)
      | conditional condition body otherwise =>
          rintro node ⟨⟩
          exact congrArg Form.isAlternative (Form.of_if condition.toPython)
      | whileLoop condition body =>
          rintro node ⟨⟩
          exact congrArg Form.isAlternative (Form.of_while condition.toPython)

/-- The statements that an alternative comes down to. -/
def Else.chosen (s : σ) : Else → List Stmt
  | .nothing => []
  | .block body => body
  | .elseIf condition body otherwise =>
      if I.holds condition.toPython s then body else chosen s otherwise

/-- The lines of statements, as those of a block or without the `pass`. -/
inductive Lines : List Stmt → List Node → Prop where
  | list (stmts) : Lines stmts (Stmt.listForest stmts)
  | pass : Lines [] [.leaf "pass"]

theorem lines_block (body : List Stmt) : Lines body (Stmt.blockForest body) := by
  cases body with
  | nil => exact .pass
  | cons stmt stmts => exact .list (stmt :: stmts)

/-- Whether a branch is taken is not up to the lines after the conditional. -/
theorem Else.taken_append (otherwise : Else) {rest : List Node} (hr : Detached rest) (s : σ) :
    Node.taken I s (otherwise.forest ++ rest) = Node.taken I s otherwise.forest := by
  cases otherwise with
  | nothing => exact taken_of_detached I hr s
  | block body =>
      cases body with
      | nil => exact taken_of_detached I hr s
      | cons stmt stmts =>
          simp only [Else.forest, List.singleton_append, Node.taken, Form.of_else]
  | elseIf condition body otherwise =>
      simp only [Else.forest, List.cons_append, Node.taken, Form.of_elif,
        Else.taken_append otherwise hr s]
termination_by structural otherwise

theorem Else.afterBranches_append (otherwise : Else) {rest : List Node} (hr : Detached rest) :
    Node.afterBranches (otherwise.forest ++ rest) = rest := by
  cases otherwise with
  | nothing => exact afterBranches_of_detached hr
  | block body =>
      cases body with
      | nil => exact afterBranches_of_detached hr
      | cons stmt stmts =>
          simp only [Else.forest, List.singleton_append, Node.afterBranches, Form.of_else]
  | elseIf condition body otherwise =>
      simp only [Else.forest, List.cons_append, Node.afterBranches, Form.of_elif]
      exact Else.afterBranches_append otherwise hr
termination_by structural otherwise

theorem Else.lines_taken (otherwise : Else) (s : σ) :
    Lines (otherwise.chosen I s) (Node.taken I s otherwise.forest) := by
  cases otherwise with
  | nothing => exact .list []
  | block body =>
      cases body with
      | nil => exact .list []
      | cons stmt stmts =>
          simp only [Else.forest, Node.taken, Form.of_else]
          exact .list (stmt :: stmts)
  | elseIf condition body otherwise =>
      simp only [Else.forest, Node.taken, Form.of_elif, Else.chosen]
      split
      · exact lines_block body
      · exact Else.lines_taken otherwise s
termination_by structural otherwise

end

end CppToPython
