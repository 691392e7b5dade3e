import CppToPython.Proofs.Grammar.Acceptance
import CppToPython.Proofs.Token.Valid
import CppToPython.Proofs.Translate

/-! # Well-formed programs

Everything a program holds was a token once: its names are words that are not
reserved, and its literals are written the way literals are. What is written for
a program relies on that.
-/

namespace CppToPython

/-! ### Well-formedness -/

def IsName (text : String) : Prop := Lexeme.Valid ⟨.identifier, text⟩

def IsNumber (text : String) : Prop := Lexeme.Valid ⟨.number, text⟩ ∨ Lexeme.Valid ⟨.float, text⟩

mutual
def Expr.WellFormed : Expr → Prop
  | .number text => IsNumber text
  | .string text => Lexeme.Valid ⟨.string, text⟩
  | .name text => IsName text
  | .binary left _ right => left.WellFormed ∧ right.WellFormed
  | .step _ target => IsName target
  | .call function args => IsName function ∧ Expr.AllWellFormed args
  | .negate operand => operand.WellFormed

def Expr.AllWellFormed : List Expr → Prop
  | [] => True
  | e :: es => e.WellFormed ∧ Expr.AllWellFormed es
end

theorem Expr.allWellFormed_iff {es : List Expr} :
    Expr.AllWellFormed es ↔ ∀ e ∈ es, e.WellFormed := by
  induction es with
  | nil => simp [AllWellFormed]
  | cons e es ih => simp [AllWellFormed, ih]

def Declaration.WellFormed (d : Declaration) : Prop :=
  IsName d.name ∧ ∀ e ∈ d.value, e.WellFormed

def Assignment.WellFormed (a : Assignment) : Prop := IsName a.name ∧ a.value.WellFormed

def LoopInit.WellFormed : LoopInit → Prop
  | .declare d => d.WellFormed
  | .assign a => a.WellFormed

def LoopUpdate.WellFormed : LoopUpdate → Prop
  | .assign a => a.WellFormed
  | .step _ target => IsName target
  | .evaluate e => e.WellFormed

structure LoopHead.WellFormed (head : LoopHead) : Prop where
  init : ∀ i ∈ head.init, i.WellFormed
  condition : ∀ e ∈ head.condition, e.WellFormed
  update : ∀ u ∈ head.update, u.WellFormed

mutual
/-- Names and literals are well-formed, and the two streams are no variables or
    functions of their own. -/
def Stmt.WellFormed : Stmt → Prop
  | .function _ name params body =>
      IsName name ∧ (∀ param ∈ params, IsName param.name) ∧ Stmt.AllWellFormed body
  | .declare d => d.WellFormed
  | .assign a => a.WellFormed ∧ ¬ Derives.IsStream a.name
  | .output values => ∀ e ∈ values, e.WellFormed
  | .input targets => ∀ name ∈ targets, IsName name
  | .step _ target => IsName target
  | .conditional condition body otherwise =>
      condition.WellFormed ∧ Stmt.AllWellFormed body ∧ otherwise.WellFormed
  | .forLoop head body => head.WellFormed ∧ Stmt.AllWellFormed body
  | .whileLoop condition body => condition.WellFormed ∧ Stmt.AllWellFormed body
  | .result value => ∀ e ∈ value, e.WellFormed
  | .call function args =>
      IsName function ∧ ¬ Derives.IsStream function ∧ ∀ e ∈ args, e.WellFormed

def Stmt.AllWellFormed : List Stmt → Prop
  | [] => True
  | stmt :: stmts => stmt.WellFormed ∧ Stmt.AllWellFormed stmts

def Else.WellFormed : Else → Prop
  | .nothing => True
  | .block body => Stmt.AllWellFormed body
  | .elseIf condition body otherwise =>
      condition.WellFormed ∧ Stmt.AllWellFormed body ∧ otherwise.WellFormed
end

theorem Stmt.allWellFormed_iff {stmts : List Stmt} :
    Stmt.AllWellFormed stmts ↔ ∀ stmt ∈ stmts, stmt.WellFormed := by
  induction stmts with
  | nil => simp [AllWellFormed]
  | cons stmt stmts ih => simp [AllWellFormed, ih]

/-! ### Phrases of valid lexemes -/

namespace Derives

open Grammar (Tier)

variable {α : Type} {item : Phrases α} {P : α → Prop}

/-- The phrases of a language that are made of valid lexemes mean values with the
    property `P`. -/
def Yields (lang : Phrases α) (P : α → Prop) : Prop :=
  ∀ ls a, lang ls a → (∀ l ∈ ls, l.Valid) → P a

theorem Yields.optional (h : Yields item P) : Yields (Optional item) fun o => ∀ a ∈ o, P a := by
  intro ls o ho hv a ha
  cases ho with
  | missing => cases ha
  | present hi =>
      cases ha
      exact h _ _ hi hv

theorem Yields.sequence (h : Yields item P) : Yields (Sequence item) fun as => ∀ a ∈ as, P a := by
  intro ls as hs
  induction hs with
  | nil => simp
  | @cons ls ms a as hi _ ih =>
      intro hv b hb
      rcases List.mem_cons.mp hb with rfl | hb
      · exact h _ _ hi fun l hl => hv l (List.mem_append_left ms hl)
      · exact ih (fun l hl => hv l (List.mem_append_right ls hl)) b hb

theorem Yields.after {mark : Lexeme} (h : Yields item P) :
    Yields (After mark item) fun as => ∀ a ∈ as, P a := by
  intro ls as hs
  induction hs with
  | nil => simp
  | @cons ls ms a as hi _ ih =>
      intro hv b hb
      rcases List.mem_cons.mp hb with rfl | hb
      · exact h _ _ hi fun l hl => hv l (by simp [hl])
      · exact ih (fun l hl => hv l (by simp [hl])) b hb

theorem Yields.separated (h : Yields item P) :
    Yields (Separated item) fun as => ∀ a ∈ as, P a := by
  intro ls as hs hv b hb
  cases hs with
  | cons hi ha =>
      rcases List.mem_cons.mp hb with rfl | hb
      · exact h _ _ hi fun l hl => hv l (by simp [hl])
      · exact h.after _ _ ha (fun l hl => hv l (by simp [hl])) b hb

/-! ### Expressions of valid lexemes -/

theorem Yields.chain {tier : Tier} {operand : Phrases Expr} (h : Yields operand Expr.WellFormed) :
    Yields (Chain tier operand) Expr.WellFormed := by
  intro ls e hc
  induction hc with
  | operand ho => exact h _ _ ho
  | binary _ _ hright ih =>
      intro hv
      exact ⟨ih fun l hl => hv l (by simp [hl]), h _ _ hright fun l hl => hv l (by simp [hl])⟩

theorem Yields.expressionOf {factor : Phrases Expr} (h : Yields factor Expr.WellFormed) :
    Yields (ExpressionOf factor) Expr.WellFormed :=
  h.chain.chain.chain

theorem Yields.arguments {expr : Phrases Expr} (h : Yields expr Expr.WellFormed) :
    Yields (Arguments expr) fun args => ∀ e ∈ args, e.WellFormed := by
  intro ls args ha hv
  cases ha with
  | none => simp
  | some hs => exact h.separated _ _ hs fun l hl => hv l (by simp [hl])

theorem yields_factorOver {inner : Option (Phrases Expr)}
    (h : ∀ lang ∈ inner, Yields lang Expr.WellFormed) :
    Yields (FactorOver inner) Expr.WellFormed := by
  intro ls e hf hv
  cases hf with
  | number => exact .inl (hv _ List.mem_cons_self)
  | float => exact .inr (hv _ List.mem_cons_self)
  | string => exact hv _ List.mem_cons_self
  | name => exact hv _ List.mem_cons_self
  | stepAfter => exact hv _ List.mem_cons_self
  | stepBefore => exact hv _ (List.mem_cons_of_mem _ List.mem_cons_self)
  | call ha =>
      refine ⟨hv _ List.mem_cons_self, Expr.allWellFormed_iff.mpr ?_⟩
      exact (h _ rfl).expressionOf.arguments _ _ ha fun l hl => hv l (List.mem_cons_of_mem _ hl)
  | negate he =>
      have hoperand := h _ rfl _ _ he fun l hl => hv l (List.mem_cons_of_mem _ hl)
      exact hoperand
  | group he => exact (h _ rfl).expressionOf _ _ he fun l hl => hv l (by simp [hl])

theorem yields_factor (levels : Nat) : Yields (Factor levels) Expr.WellFormed := by
  induction levels with
  | zero => exact yields_factorOver nofun
  | succ levels ih =>
      apply yields_factorOver
      rintro lang ⟨⟩
      exact ih

theorem yields_expression (levels : Nat) : Yields (Expression levels) Expr.WellFormed :=
  (yields_factor levels).expressionOf

/-! ### Statements of valid lexemes -/

theorem yields_name : Yields Name IsName := by
  intro ls name hn hv
  cases hn with
  | mk => exact hv _ List.mem_cons_self

theorem yields_parameters : Yields Parameters fun params => ∀ p ∈ params, IsName p.name := by
  have hone : Yields OneParameter fun param => IsName param.name := by
    intro ls param hp hv
    cases hp with
    | typed => exact hv _ (List.mem_cons_of_mem _ List.mem_cons_self)
  intro ls params hp hv
  cases hp with
  | none => simp
  | void => simp
  | some hs => exact hone.separated _ _ hs hv

/-- The values of what can stand one level deeper. -/
structure YieldsInner (inner : Inner) : Prop where
  statements : Yields inner.statements Stmt.AllWellFormed
  conditional : Yields inner.conditional fun (condition, body, otherwise) =>
    condition.WellFormed ∧ Stmt.AllWellFormed body ∧ otherwise.WellFormed

section Statements

variable {expr : Phrases Expr} {inner : Option Inner} (he : Yields expr Expr.WellFormed)
  (hi : ∀ deep ∈ inner, YieldsInner deep)

include he in
theorem yields_declared : Yields (Declared expr) Declaration.WellFormed := by
  intro ls d hd hv
  cases hd with
  | plain => exact ⟨hv _ (List.mem_cons_of_mem _ List.mem_cons_self), nofun⟩
  | valued hvalue =>
      refine ⟨hv _ (List.mem_cons_of_mem _ List.mem_cons_self), ?_⟩
      rintro e ⟨⟩
      exact he _ _ hvalue fun l hl => hv l (by simp [hl])

include he in
theorem yields_assigned : Yields (Assigned expr) Assignment.WellFormed := by
  intro ls a ha hv
  cases ha with
  | mk hvalue => exact ⟨hv _ List.mem_cons_self, he _ _ hvalue fun l hl => hv l (by simp [hl])⟩

include he in
theorem yields_init : Yields (Init expr) LoopInit.WellFormed := by
  intro ls init hinit hv
  cases hinit with
  | declare hd => exact yields_declared he _ _ hd hv
  | assign ha => exact yields_assigned he _ _ ha hv

include he in
theorem yields_update : Yields (Update expr) LoopUpdate.WellFormed := by
  intro ls update hu hv
  cases hu with
  | stepAfter => exact hv _ List.mem_cons_self
  | stepBefore => exact hv _ (List.mem_cons_of_mem _ List.mem_cons_self)
  | assign ha => exact yields_assigned he _ _ ha hv
  | evaluate hvalue _ => exact he _ _ hvalue hv

include he in
theorem yields_head : Yields (Head expr) LoopHead.WellFormed := by
  intro ls head hh hv
  cases hh with
  | mk hinit hcondition hupdate =>
      constructor
      · exact (yields_init he).optional _ _ hinit fun l hl => hv l (by simp [hl])
      · exact he.optional _ _ hcondition fun l hl => hv l (by simp [hl])
      · exact (yields_update he).optional _ _ hupdate fun l hl => hv l (by simp [hl])

include hi in
theorem yields_block : Yields (Block inner) Stmt.AllWellFormed := by
  intro ls body hb hv
  cases hb with
  | braces hs => exact (hi _ rfl).statements _ _ hs fun l hl => hv l (by simp [hl])

include hi in
theorem yields_alternative : Yields (Alternative inner) Else.WellFormed := by
  intro ls otherwise ha hv
  cases ha with
  | nothing => trivial
  | block hb => exact yields_block hi _ _ hb fun l hl => hv l (List.mem_cons_of_mem _ hl)
  | elseIf hc =>
      exact (hi _ rfl).conditional _ _ hc fun l hl => hv l (List.mem_cons_of_mem _ hl)

include he hi in
theorem yields_conditional : Yields (Conditional expr inner) fun (condition, body, otherwise) =>
    condition.WellFormed ∧ Stmt.AllWellFormed body ∧ otherwise.WellFormed := by
  intro ls c hc hv
  cases hc with
  | mk hcondition hbody hotherwise =>
      refine ⟨?_, ?_, ?_⟩
      · exact he _ _ hcondition fun l hl => hv l (by simp [hl])
      · exact yields_block hi _ _ hbody fun l hl => hv l (by simp [hl])
      · exact yields_alternative hi _ _ hotherwise fun l hl => hv l (by simp [hl])

include he hi in
theorem yields_statement : Yields (Statement expr inner) fun s => ∀ stmt ∈ s, stmt.WellFormed := by
  intro ls s hs hv
  cases hs with
  | directive | usingNamespace => nofun
  | function hp hb =>
      rintro stmt ⟨⟩
      refine ⟨hv _ (List.mem_cons_of_mem _ List.mem_cons_self), ?_, ?_⟩
      · exact yields_parameters _ _ hp fun l hl => hv l (by simp [hl])
      · exact yields_block hi _ _ hb fun l hl => hv l (by simp [hl])
  | declare hd =>
      rintro stmt ⟨⟩
      exact yields_declared he _ _ hd fun l hl => hv l (by simp [hl])
  | conditional hc =>
      rintro stmt ⟨⟩
      exact yields_conditional he hi _ _ hc hv
  | forLoop hh hb =>
      rintro stmt ⟨⟩
      constructor
      · exact yields_head he _ _ hh fun l hl => hv l (by simp [hl])
      · exact yields_block hi _ _ hb fun l hl => hv l (by simp [hl])
  | whileLoop hc hb =>
      rintro stmt ⟨⟩
      constructor
      · exact he _ _ hc fun l hl => hv l (by simp [hl])
      · exact yields_block hi _ _ hb fun l hl => hv l (by simp [hl])
  | result hvalue =>
      rintro stmt ⟨⟩
      exact he.optional _ _ hvalue fun l hl => hv l (by simp [hl])
  | output hvalues =>
      rintro stmt ⟨⟩
      exact he.after _ _ hvalues fun l hl => hv l (by simp [hl])
  | input htargets =>
      rintro stmt ⟨⟩
      exact yields_name.after _ _ htargets fun l hl => hv l (by simp [hl])
  | call hname ha =>
      rintro stmt ⟨⟩
      exact ⟨hv _ List.mem_cons_self, hname, he.arguments _ _ ha fun l hl => hv l (by simp [hl])⟩
  | stepAfter =>
      rintro stmt ⟨⟩
      exact hv _ List.mem_cons_self
  | stepBefore =>
      rintro stmt ⟨⟩
      exact hv _ (List.mem_cons_of_mem _ List.mem_cons_self)
  | assign hname ha =>
      rintro stmt ⟨⟩
      exact ⟨yields_assigned he _ _ ha fun l hl => hv l (by simp [hl]), hname⟩

include he hi in
theorem yields_statements : Yields (Statements expr inner) Stmt.AllWellFormed := by
  intro ls stmts hs hv
  cases hs with
  | mk hseq =>
      rw [Stmt.allWellFormed_iff]
      intro stmt hstmt
      obtain ⟨found, hfound, rfl⟩ := List.mem_filterMap.mp hstmt
      exact (yields_statement he hi).sequence _ _ hseq hv _ hfound stmt rfl

end Statements

theorem yields_deeper (levels : Nat) : ∀ deep ∈ deeper levels, YieldsInner deep := by
  induction levels with
  | zero => nofun
  | succ levels ih =>
      rintro deep ⟨⟩
      exact ⟨yields_statements (yields_expression levels) ih,
        yields_conditional (yields_expression levels) ih⟩

end Derives

theorem wellFormed_of_ofSource {source : String} {p : Program} (h : Program.OfSource source p) :
    Stmt.AllWellFormed p := by
  obtain ⟨tokens, hscan, hparse⟩ := h
  obtain ⟨_, hderives⟩ := run_program_eq_ok.mp (Program.parse_eq_ok.mp hparse)
  refine Derives.yields_statements (Derives.yields_expression _) (Derives.yields_deeper _) _ _
    hderives ?_
  intro l hl
  obtain ⟨t, ht, rfl⟩ := List.mem_map.mp hl
  exact Cursor.valid_of_scanFrom hscan t ht

end CppToPython
