import CppToPython.Proofs.Grammar.Acceptance

/-! # The expressions of a program

Every expression in a program, however deep the statement it is part of, was derived as one, on
the level of that statement. So a property of all derived expressions is one of all expressions
that a parser returns.
-/

namespace CppToPython

/-! ### Where expressions stand -/

def LoopInit.exprs : LoopInit → List Expr
  | .declare d => d.value.toList
  | .assign a => [a.value]

def LoopUpdate.exprs : LoopUpdate → List Expr
  | .assign a => [a.value]
  | .step _ target => [.name target]
  | .evaluate e => [e]

def LoopHead.exprs (head : LoopHead) : List Expr :=
  head.init.toList.flatMap LoopInit.exprs ++ head.condition.toList ++
    head.update.toList.flatMap LoopUpdate.exprs

mutual
/-- The expressions in a statement and in the statements inside it, each as a whole. The
    variable of a step is one. -/
def Stmt.exprs : Stmt → List Expr
  | .function _ _ _ body => Stmt.listExprs body
  | .declare d => d.value.toList
  | .assign a => [a.value]
  | .output values => values
  | .input _ => []
  | .step _ target => [.name target]
  | .conditional condition body otherwise =>
      condition :: (Stmt.listExprs body ++ otherwise.exprs)
  | .forLoop head body => head.exprs ++ Stmt.listExprs body
  | .whileLoop condition body => condition :: Stmt.listExprs body
  | .result value => value.toList
  | .call _ args => args

def Stmt.listExprs : List Stmt → List Expr
  | [] => []
  | stmt :: stmts => stmt.exprs ++ Stmt.listExprs stmts

def Else.exprs : Else → List Expr
  | .nothing => []
  | .block body => Stmt.listExprs body
  | .elseIf condition body otherwise =>
      condition :: (Stmt.listExprs body ++ otherwise.exprs)
end

theorem Stmt.mem_listExprs {e : Expr} {stmts : List Stmt} :
    e ∈ Stmt.listExprs stmts ↔ ∃ stmt ∈ stmts, e ∈ stmt.exprs := by
  induction stmts with
  | nil => simp [listExprs]
  | cons stmt stmts ih => simp [listExprs, ih]

/-! ### Repeated phrases -/

namespace Derives

section Repetition

variable {α : Type} {item : Phrases α} {P : α → Prop} (h : ∀ ls a, item ls a → P a)
  {ls : List Lexeme}

include h

theorem Optional.forall_mem {o : Option α} (ho : Optional item ls o) : ∀ a ∈ o, P a := by
  cases ho with
  | missing => simp
  | present hi => simpa using h _ _ hi

theorem Sequence.forall_mem {as : List α} (hs : Sequence item ls as) : ∀ a ∈ as, P a := by
  induction hs with
  | nil => simp
  | cons hi _ ih => simpa using ⟨h _ _ hi, ih⟩

theorem After.forall_mem {mark : Lexeme} {as : List α} (hs : After mark item ls as) :
    ∀ a ∈ as, P a := by
  induction hs with
  | nil => simp
  | cons hi _ ih => simpa using ⟨h _ _ hi, ih⟩

theorem Separated.forall_mem {as : List α} (hs : Separated item ls as) : ∀ a ∈ as, P a := by
  cases hs with
  | cons hi hafter => simpa using ⟨h _ _ hi, hafter.forall_mem h⟩

end Repetition

theorem Arguments.forall_mem {expr : Phrases Expr} {P : Expr → Prop}
    (h : ∀ ls e, expr ls e → P e) {ls : List Lexeme} {args : List Expr}
    (ha : Arguments expr ls args) : ∀ e ∈ args, P e := by
  cases ha with
  | none => simp
  | some hs => exact hs.forall_mem h

/-! ### One level -/

/-- All expressions of what can stand one level deeper have the property `P`. -/
structure ExprsInner (P : Expr → Prop) (inner : Inner) : Prop where
  statements : ∀ ls stmts, inner.statements ls stmts → ∀ e ∈ Stmt.listExprs stmts, P e
  conditional : ∀ ls condition body otherwise,
    inner.conditional ls (condition, body, otherwise) →
      ∀ e ∈ (Stmt.conditional condition body otherwise).exprs, P e

section Level

variable {expr : Phrases Expr} {inner : Option Inner} {P : Expr → Prop}
  (he : ∀ ls e, expr ls e → P e) (hname : ∀ name, P (.name name))
  (hi : ∀ deep ∈ inner, ExprsInner P deep) {ls : List Lexeme}

include he in
theorem Declared.forall_exprs {d : Declaration} (hd : Declared expr ls d) :
    ∀ e ∈ d.value, P e := by
  cases hd with
  | plain => simp
  | valued hvalue => simpa using he _ _ hvalue

include he in
theorem Assigned.value_expr {a : Assignment} (ha : Assigned expr ls a) : P a.value := by
  cases ha with
  | mk hvalue => exact he _ _ hvalue

include he in
theorem Init.forall_exprs {init : LoopInit} (hinit : Init expr ls init) :
    ∀ e ∈ init.exprs, P e := by
  cases hinit with
  | declare hd => simpa [LoopInit.exprs] using hd.forall_exprs he
  | assign ha => simpa [LoopInit.exprs] using ha.value_expr he

include he hname in
theorem Update.forall_exprs {update : LoopUpdate} (hu : Update expr ls update) :
    ∀ e ∈ update.exprs, P e := by
  cases hu with
  | stepAfter => simpa [LoopUpdate.exprs] using hname _
  | stepBefore => simpa [LoopUpdate.exprs] using hname _
  | assign ha => simpa [LoopUpdate.exprs] using ha.value_expr he
  | evaluate hvalue _ => simpa [LoopUpdate.exprs] using he _ _ hvalue

include he hname in
theorem Head.forall_exprs {head : LoopHead} (hh : Head expr ls head) : ∀ e ∈ head.exprs, P e := by
  cases hh with
  | mk hinit hcondition hupdate =>
      intro e hmem
      simp only [LoopHead.exprs, List.mem_append, List.mem_flatMap, Option.mem_toList] at hmem
      rcases hmem with (⟨init, hin, hmem⟩ | hmem) | ⟨update, hin, hmem⟩
      · exact hinit.forall_mem (fun _ _ h => h.forall_exprs he) init hin e hmem
      · exact hcondition.forall_mem he e hmem
      · exact hupdate.forall_mem (fun _ _ h => h.forall_exprs he hname) update hin e hmem

include hi in
theorem Block.forall_exprs {stmts : List Stmt} (hb : Block inner ls stmts) :
    ∀ e ∈ Stmt.listExprs stmts, P e := by
  cases hb with
  | braces hs => exact (hi _ rfl).statements _ _ hs

include hi in
theorem Alternative.forall_exprs {otherwise : Else} (ha : Alternative inner ls otherwise) :
    ∀ e ∈ otherwise.exprs, P e := by
  cases ha with
  | nothing => simp [Else.exprs]
  | block hb => exact hb.forall_exprs hi
  | elseIf hc => exact (hi _ rfl).conditional _ _ _ _ hc

include he hi in
theorem Conditional.forall_exprs {condition : Expr} {body : List Stmt} {otherwise : Else}
    (hc : Conditional expr inner ls (condition, body, otherwise)) :
    ∀ e ∈ (Stmt.conditional condition body otherwise).exprs, P e := by
  cases hc with
  | mk hcondition hbody hotherwise =>
      intro e hmem
      simp only [Stmt.exprs, List.mem_cons, List.mem_append] at hmem
      rcases hmem with rfl | hmem | hmem
      · exact he _ _ hcondition
      · exact hbody.forall_exprs hi e hmem
      · exact hotherwise.forall_exprs hi e hmem

include he hname hi in
theorem Statement.forall_exprs {s : Option Stmt} (hs : Statement expr inner ls s) :
    ∀ stmt ∈ s, ∀ e ∈ stmt.exprs, P e := by
  cases hs with
  | directive | usingNamespace => simp
  | function _ hb =>
      rintro stmt ⟨⟩
      exact hb.forall_exprs hi
  | declare hd =>
      rintro stmt ⟨⟩
      simpa [Stmt.exprs] using hd.forall_exprs he
  | conditional hc =>
      rintro stmt ⟨⟩
      exact hc.forall_exprs he hi
  | forLoop hh hb =>
      rintro stmt ⟨⟩ e hmem
      rcases List.mem_append.mp hmem with hmem | hmem
      · exact hh.forall_exprs he hname e hmem
      · exact hb.forall_exprs hi e hmem
  | whileLoop hc hb =>
      rintro stmt ⟨⟩ e hmem
      rcases List.mem_cons.mp hmem with rfl | hmem
      · exact he _ _ hc
      · exact hb.forall_exprs hi e hmem
  | result hv =>
      rintro stmt ⟨⟩
      simpa [Stmt.exprs] using hv.forall_mem he
  | output hv =>
      rintro stmt ⟨⟩
      exact hv.forall_mem he
  | input =>
      rintro stmt ⟨⟩
      simp [Stmt.exprs]
  | call _ ha =>
      rintro stmt ⟨⟩
      exact ha.forall_mem he
  | stepAfter | stepBefore =>
      rintro stmt ⟨⟩
      simpa [Stmt.exprs] using hname _
  | assign _ ha =>
      rintro stmt ⟨⟩
      simpa [Stmt.exprs] using ha.value_expr he

include he hname hi in
theorem Statements.forall_exprs {stmts : List Stmt} (hs : Statements expr inner ls stmts) :
    ∀ e ∈ Stmt.listExprs stmts, P e := by
  cases hs with
  | mk hseq =>
      intro e hmem
      obtain ⟨stmt, hstmt, hmem⟩ := Stmt.mem_listExprs.mp hmem
      obtain ⟨found, hfound, rfl⟩ := List.mem_filterMap.mp hstmt
      exact hseq.forall_mem (fun _ _ h => h.forall_exprs he hname hi) _ hfound stmt rfl e hmem

end Level

/-! ### All levels -/

theorem exprsInner_deeper {P : Expr → Prop} {levels : Nat}
    (h : ∀ n < levels, ∀ ls e, Expression n ls e → P e) :
    ∀ deep ∈ deeper levels, ExprsInner P deep := by
  induction levels with
  | zero => simp [deeper]
  | succ levels ih =>
      have he := h levels (Nat.lt_succ_self levels)
      have hi := ih fun n hn => h n (Nat.lt_succ_of_lt hn)
      rintro deep ⟨⟩
      constructor
      · intro ls stmts hs
        exact Statements.forall_exprs he (fun name => he _ _ (expression_name levels name)) hi hs
      · intro ls condition body otherwise hc
        exact Conditional.forall_exprs he hi hc

/-- What holds of the expressions of each level holds of those in a program. -/
theorem Program.forall_exprs {P : Expr → Prop} {levels : Nat}
    (h : ∀ n ≤ levels, ∀ ls e, Expression n ls e → P e) {ls : List Lexeme}
    {p : CppToPython.Program} (hp : Program levels ls p) : ∀ e ∈ Stmt.listExprs p, P e := by
  have he := h levels (Nat.le_refl levels)
  exact Statements.forall_exprs he (fun name => he _ _ (expression_name levels name))
    (exprsInner_deeper fun n hn => h n (Nat.le_of_lt hn)) hp

end Derives

end CppToPython
