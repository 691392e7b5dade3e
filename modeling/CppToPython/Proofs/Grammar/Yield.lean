import CppToPython.Proofs.Grammar.Acceptance

/-! # What a program is made of

A program holds the names and the literals that it is written with, each of them once and in the
same order, and nothing else of the text but its structure. Directives are the exception: they
leave nothing behind, so their names are left out first.

`Core` says this of a phrase, whatever stands around it, and passes from parts to whole. There is
also a lexeme for each node of the tree.
-/

namespace CppToPython

/-! ### Names and literals -/

def Lexeme.isLeaf (l : Lexeme) : Bool :=
  match l.kind with
  | .identifier | .number | .float | .string => true
  | .keyword | .operator | .delimiter | .shift | .directive => false

def leafTexts (ls : List Lexeme) : List String := (ls.filter Lexeme.isLeaf).map Lexeme.text

mutual
/-- The names and literals of an expression, in the order in which they are written. -/
def Expr.leaves : Expr → List String
  | .number text | .string text | .name text => [text]
  | .binary left _ right => left.leaves ++ right.leaves
  | .step _ target => [target]
  | .call function args => function :: Expr.listLeaves args
  | .negate operand => operand.leaves

def Expr.listLeaves : List Expr → List String
  | [] => []
  | e :: es => e.leaves ++ Expr.listLeaves es
end

def Declaration.leaves (d : Declaration) : List String :=
  d.name :: (d.value.map Expr.leaves).getD []

def Assignment.leaves (a : Assignment) : List String := a.name :: a.value.leaves

def LoopInit.leaves : LoopInit → List String
  | .declare d => d.leaves
  | .assign a => a.leaves

def LoopUpdate.leaves : LoopUpdate → List String
  | .assign a => a.leaves
  | .step _ target => [target]
  | .evaluate e => e.leaves

def LoopHead.leaves (head : LoopHead) : List String :=
  (head.init.map LoopInit.leaves).getD [] ++ (head.condition.map Expr.leaves).getD [] ++
    (head.update.map LoopUpdate.leaves).getD []

mutual
/-- The names and literals of a statement, in the order in which they are written. The word that
    an output or an input starts with is the name of a stream. -/
def Stmt.leaves : Stmt → List String
  | .function _ name params body => name :: params.map Parameter.name ++ Stmt.listLeaves body
  | .declare d => d.leaves
  | .assign a => a.leaves
  | .output values => "cout" :: Expr.listLeaves values
  | .input targets => "cin" :: targets
  | .step _ target => [target]
  | .conditional condition body otherwise =>
      condition.leaves ++ Stmt.listLeaves body ++ otherwise.leaves
  | .forLoop head body => head.leaves ++ Stmt.listLeaves body
  | .whileLoop condition body => condition.leaves ++ Stmt.listLeaves body
  | .result value => (value.map Expr.leaves).getD []
  | .call function args => function :: Expr.listLeaves args

def Stmt.listLeaves : List Stmt → List String
  | [] => []
  | stmt :: stmts => stmt.leaves ++ Stmt.listLeaves stmts

def Else.leaves : Else → List String
  | .nothing => []
  | .block body => Stmt.listLeaves body
  | .elseIf condition body otherwise =>
      condition.leaves ++ Stmt.listLeaves body ++ otherwise.leaves
end

theorem Expr.listLeaves_eq_flatMap (es : List Expr) :
    Expr.listLeaves es = es.flatMap Expr.leaves := by
  induction es with
  | nil => rfl
  | cons e es ih => rw [listLeaves, ih, List.flatMap_cons]

theorem Stmt.listLeaves_append (stmts more : List Stmt) :
    Stmt.listLeaves (stmts ++ more) = Stmt.listLeaves stmts ++ Stmt.listLeaves more := by
  induction stmts with
  | nil => rfl
  | cons stmt stmts ih => rw [List.cons_append, listLeaves, listLeaves, ih, List.append_assoc]

/-! ### Nodes -/

mutual
/-- The number of nodes of an expression. The variable of a step is a node, too. -/
def Expr.nodes : Expr → Nat
  | .number _ | .string _ | .name _ => 1
  | .binary left _ right => left.nodes + right.nodes + 1
  | .step _ _ => 2
  | .call _ args => Expr.listNodes args + 1
  | .negate operand => operand.nodes + 1

def Expr.listNodes : List Expr → Nat
  | [] => 0
  | e :: es => e.nodes + Expr.listNodes es
end

def Declaration.nodes (d : Declaration) : Nat := (d.value.map Expr.nodes).getD 0 + 1

def Assignment.nodes (a : Assignment) : Nat := a.value.nodes + 1

def LoopInit.nodes : LoopInit → Nat
  | .declare d => d.nodes
  | .assign a => a.nodes

def LoopUpdate.nodes : LoopUpdate → Nat
  | .assign a => a.nodes
  | .step _ _ => 2
  | .evaluate e => e.nodes

def LoopHead.nodes (head : LoopHead) : Nat :=
  (head.init.map LoopInit.nodes).getD 0 + (head.condition.map Expr.nodes).getD 0 +
    (head.update.map LoopUpdate.nodes).getD 0

mutual
/-- The number of nodes of a statement: the statements and the expressions in it. An `else if` and
    what a loop head declares, assigns or steps count as statements. -/
def Stmt.nodes : Stmt → Nat
  | .function _ _ _ body => Stmt.listNodes body + 1
  | .declare d => d.nodes
  | .assign a => a.nodes
  | .output values => Expr.listNodes values + 1
  | .input _ => 1
  | .step _ _ => 2
  | .conditional condition body otherwise =>
      condition.nodes + Stmt.listNodes body + otherwise.nodes + 1
  | .forLoop head body => head.nodes + Stmt.listNodes body + 1
  | .whileLoop condition body => condition.nodes + Stmt.listNodes body + 1
  | .result value => (value.map Expr.nodes).getD 0 + 1
  | .call _ args => Expr.listNodes args + 1

def Stmt.listNodes : List Stmt → Nat
  | [] => 0
  | stmt :: stmts => stmt.nodes + Stmt.listNodes stmts

def Else.nodes : Else → Nat
  | .nothing => 0
  | .block body => Stmt.listNodes body
  | .elseIf condition body otherwise =>
      condition.nodes + Stmt.listNodes body + otherwise.nodes + 1
end

theorem Expr.listNodes_eq_foldr (es : List Expr) :
    Expr.listNodes es = es.foldr (fun e n => e.nodes + n) 0 := by
  induction es with
  | nil => rfl
  | cons e es ih => rw [listNodes, ih, List.foldr_cons]

theorem Stmt.listNodes_append (stmts more : List Stmt) :
    Stmt.listNodes (stmts ++ more) = Stmt.listNodes stmts + Stmt.listNodes more := by
  induction stmts with
  | nil => exact (Nat.zero_add _).symm
  | cons stmt stmts ih => rw [List.cons_append, listNodes, listNodes, ih, Nat.add_assoc]

/-! ### Without directives -/

def usesNamespace : List Lexeme → Bool
  | a :: b :: c :: d :: _ =>
      a = .word "using" && b = .word "namespace" && c.kind = .identifier && d = .semicolon
  | _ => false

/-- Whether a directive can start with a lexeme. -/
def Lexeme.opensDirective (l : Lexeme) : Bool := l.kind = .directive || l = .word "using"

theorem usesNamespace_eq_false {l : Lexeme} (h : l ≠ .word "using") (ls : List Lexeme) :
    usesNamespace (l :: ls) = false := by
  unfold usesNamespace
  split
  · rename_i heq
    cases heq
    simp [h]
  · rfl

section Directives

variable {α : Type} {view : α → Lexeme}

/-- A list without its directives: the lexemes that are one, and every four that are a `using`
    directive together. -/
def withoutDirectives (view : α → Lexeme) : List α → List α
  | [] => []
  | a :: as =>
      if (view a).kind = .directive then withoutDirectives view as
      else if usesNamespace ((a :: as).map view) then withoutDirectives view (as.drop 3)
      else a :: withoutDirectives view as
termination_by as => as.length
decreasing_by
  · exact Nat.lt_succ_self _
  · exact Nat.lt_succ_of_le (List.drop_sublist 3 as).length_le
  · exact Nat.lt_succ_self _

theorem withoutDirectives_cons {a : α} (h : (view a).opensDirective = false) (as : List α) :
    withoutDirectives view (a :: as) = a :: withoutDirectives view as := by
  simp only [Lexeme.opensDirective, Bool.or_eq_false_iff, decide_eq_false_iff_not] at h
  rw [withoutDirectives, if_neg h.1, List.map_cons, usesNamespace_eq_false h.2]
  rfl

theorem withoutDirectives_sublist (as : List α) : (withoutDirectives view as).Sublist as := by
  fun_induction withoutDirectives view as with
  | case1 => exact .slnil
  | case2 a as _ ih => exact ih.cons a
  | case3 a as _ _ ih => exact (ih.trans (List.drop_sublist 3 as)).cons a
  | case4 a as _ _ ih => exact ih.cons_cons a

theorem map_withoutDirectives (as : List α) :
    (withoutDirectives view as).map view = withoutDirectives id (as.map view) := by
  fun_induction withoutDirectives view as with
  | case1 => rw [List.map_nil, withoutDirectives]
  | case2 a as hd ih => rw [List.map_cons, withoutDirectives, id, if_pos hd, ih]
  | case3 a as hd hu ih =>
      rw [ih, List.map_cons, withoutDirectives, id, if_neg hd, ← List.map_cons, List.map_id,
        if_pos hu, List.map_drop]
  | case4 a as hd hu ih =>
      rw [List.map_cons, ih, List.map_cons, withoutDirectives, id, if_neg hd, ← List.map_cons,
        List.map_id, if_neg hu]

end Directives

/-! ### What is left of a phrase -/

/-- Without its directives, `ls` is `core`, whatever follows. The names and literals of `core` are
    `leaves`, and there is a lexeme for each of `nodes` nodes. -/
structure Core (ls core : List Lexeme) (leaves : List String) (nodes : Nat) : Prop where
  strips : ∀ tail, withoutDirectives id (ls ++ tail) = core ++ withoutDirectives id tail
  leaves : leafTexts core = leaves
  nodes : nodes ≤ core.length

/-- Whether a lexeme is neither a leaf nor the start of a directive. -/
def Lexeme.isMark (l : Lexeme) : Bool := !l.isLeaf && !l.opensDirective

namespace Core

variable {ls ls' core core' : List Lexeme} {l : Lexeme} {leaves more : List String} {m n : Nat}

theorem nil : Core [] [] [] 0 := ⟨fun _ => rfl, rfl, Nat.le_refl 0⟩

theorem append (h : Core ls core leaves m) (h' : Core ls' core' more n) :
    Core (ls ++ ls') (core ++ core') (leaves ++ more) (m + n) where
  strips tail := by rw [List.append_assoc, h.strips, h'.strips, List.append_assoc]
  leaves := by
    rw [← h.leaves, ← h'.leaves]
    simp [leafTexts]
  nodes := by
    rw [List.length_append]
    exact Nat.add_le_add h.nodes h'.nodes

theorem cast (h : Core ls core leaves n) (hleaves : leaves = more) (hnodes : m ≤ n) :
    Core ls core more m :=
  ⟨h.strips, h.leaves.trans hleaves, Nat.le_trans hnodes h.nodes⟩

theorem mark (hl : l.isMark = true) (h : Core ls core leaves n) :
    Core (l :: ls) (l :: core) leaves (n + 1) := by
  simp only [Lexeme.isMark, Bool.and_eq_true, Bool.not_eq_true'] at hl
  refine ⟨fun tail => ?_, ?_, Nat.succ_le_succ h.nodes⟩
  · rw [List.cons_append, withoutDirectives_cons hl.2, h.strips, List.cons_append]
  · rw [leafTexts, List.filter_cons_of_neg (by simp [hl.1])]
    exact h.leaves

theorem leaf (hl : l.isLeaf = true) (h : Core ls core leaves n) :
    Core (l :: ls) (l :: core) (l.text :: leaves) (n + 1) := by
  have hplain : l.opensDirective = false := by
    obtain ⟨kind, text⟩ := l
    cases kind <;> first | rfl | cases hl
  refine ⟨fun tail => ?_, ?_, Nat.succ_le_succ h.nodes⟩
  · rw [List.cons_append, withoutDirectives_cons hplain, h.strips, List.cons_append]
  · rw [leafTexts, List.filter_cons_of_pos hl, List.map_cons]
    exact congrArg (l.text :: ·) h.leaves

theorem identifier (name : String) (h : Core ls core leaves n) :
    Core (.identifier name :: ls) (.identifier name :: core) (name :: leaves) (n + 1) :=
  h.leaf rfl

theorem last (hl : l.isMark = true) (h : Core ls core leaves n) :
    Core (ls ++ [l]) (core ++ [l]) leaves (n + 1) :=
  (h.append (nil.mark hl)).cast (List.append_nil leaves) (Nat.le_refl _)

theorem directive (text : String) : Core [⟨.directive, text⟩] [] [] 0 := by
  refine ⟨fun tail => ?_, rfl, Nat.le_refl 0⟩
  simp [withoutDirectives]

theorem usingNamespace (name : String) :
    Core [.word "using", .word "namespace", .identifier name, .semicolon] [] [] 0 := by
  refine ⟨fun tail => ?_, rfl, Nat.le_refl 0⟩
  simp [withoutDirectives, usesNamespace, Lexeme.word, Lexeme.identifier]

end Core

theorem BinaryOp.isMark_lexeme (op : BinaryOp) : op.lexeme.isMark = true := by
  cases op <;> rfl

theorem StepOp.isMark_lexeme (op : StepOp) : op.lexeme.isMark = true := by
  cases op <;> rfl

theorem ValueType.isMark_lexeme (type : ValueType) : type.lexeme.isMark = true := by
  cases type <;> rfl

theorem ReturnType.isMark_lexeme (type : ReturnType) : type.lexeme.isMark = true := by
  cases type with
  | void => rfl
  | value type => exact type.isMark_lexeme

namespace Derives

/-! ### Expressions -/

/-- The phrases of `lang` have no directives, and they hold the leaves and nodes of their values. -/
structure Holds {α : Type} (lang : Phrases α) (leaves : α → List String) (nodes : α → Nat) :
    Prop where
  core : ∀ {ls a}, lang ls a → Core ls ls (leaves a) (nodes a)

section Repetition

variable {α : Type} {item : Phrases α} {leaves : α → List String} {nodes : α → Nat}
  (h : Holds item leaves nodes)

include h

theorem Holds.optional :
    Holds (Optional item) (fun o => (o.map leaves).getD []) fun o => (o.map nodes).getD 0 where
  core ho := by
    cases ho with
    | missing => exact .nil
    | present hi => exact h.core hi

theorem Holds.after {mark : Lexeme} (hm : mark.isMark = true) :
    Holds (After mark item) (fun as => as.flatMap leaves)
      fun as => as.foldr (fun a n => nodes a + n) 0 where
  core hs := by
    induction hs with
    | nil => exact .nil
    | cons hi _ ih =>
        refine (((h.core hi).mark hm).append ih).cast List.flatMap_cons.symm ?_
        simp only [List.foldr_cons]
        omega

theorem Holds.separated :
    Holds (Separated item) (fun as => as.flatMap leaves)
      fun as => as.foldr (fun a n => nodes a + n) 0 where
  core hs := by
    cases hs with
    | cons hi ha =>
        exact ((h.core hi).append ((h.after rfl).core ha)).cast List.flatMap_cons.symm
          (Nat.le_refl _)

end Repetition

/-- The phrases of `lang` hold what the expressions hold that they mean. -/
abbrev HoldsExpr (lang : Phrases Expr) : Prop := Holds lang Expr.leaves Expr.nodes

section Expressions

variable {lang : Phrases Expr} (h : HoldsExpr lang)

include h

theorem HoldsExpr.chain (tier : Grammar.Tier) : HoldsExpr (Chain tier lang) where
  core hd := by
    induction hd with
    | operand ho => exact h.core ho
    | @binary _ _ _ op _ _ _ ho ih => exact ih.append ((h.core ho).mark op.isMark_lexeme)

theorem HoldsExpr.expressionOf : HoldsExpr (ExpressionOf lang) :=
  HoldsExpr.chain (HoldsExpr.chain (h.chain _) _) _

theorem HoldsExpr.after {mark : Lexeme} (hm : mark.isMark = true) :
    Holds (After mark lang) Expr.listLeaves Expr.listNodes where
  core hs := by
    rw [Expr.listLeaves_eq_flatMap, Expr.listNodes_eq_foldr]
    exact (Holds.after h hm).core hs

theorem HoldsExpr.arguments : Holds (Arguments lang) Expr.listLeaves Expr.listNodes where
  core ha := by
    cases ha with
    | none => exact ((Core.nil.mark rfl).mark rfl).cast rfl (Nat.zero_le 2)
    | some hs =>
        rw [Expr.listLeaves_eq_flatMap, Expr.listNodes_eq_foldr]
        exact (((h.separated.core hs).mark rfl).last rfl).cast rfl (Nat.le_add_right _ 2)

end Expressions

theorem HoldsExpr.factorOver {inner : Option (Phrases Expr)} (h : ∀ lang ∈ inner, HoldsExpr lang) :
    HoldsExpr (FactorOver inner) where
  core hf := by
    cases hf with
    | number | float | string | name => exact Core.nil.leaf rfl
    | @stepAfter _ name op => exact (Core.nil.mark op.isMark_lexeme).identifier name
    | @stepBefore _ name op => exact (Core.nil.identifier name).mark op.isMark_lexeme
    | call ha => exact ((h _ rfl).expressionOf.arguments.core ha).identifier _
    | negate hi => exact ((h _ rfl).core hi).mark rfl
    | group he =>
        exact ((((h _ rfl).expressionOf.core he).mark rfl).last rfl).cast rfl (Nat.le_add_right _ 2)

theorem holdsExpr_factor (levels : Nat) : HoldsExpr (Factor levels) := by
  induction levels with
  | zero => exact .factorOver nofun
  | succ levels ih =>
      refine .factorOver ?_
      rintro lang ⟨⟩
      exact ih

theorem holdsExpr_expression (levels : Nat) : HoldsExpr (Expression levels) :=
  (holdsExpr_factor levels).expressionOf

/-! ### Parts of statements -/

theorem holds_parameters :
    Holds Parameters (fun params => params.map Parameter.name) fun _ => 0 where
  core hp := by
    have hone : Holds OneParameter (fun param => [param.name]) fun _ => 0 := by
      constructor
      rintro _ _ ⟨⟩
      exact ((Core.nil.identifier _).mark (ValueType.isMark_lexeme _)).cast rfl (Nat.zero_le 2)
    cases hp with
    | none => exact .nil
    | void => exact (Core.nil.mark rfl).cast rfl (Nat.zero_le 1)
    | some hs =>
        refine (hone.separated.core hs).cast ?_ (Nat.zero_le _)
        rw [← List.map_eq_flatMap]

theorem holds_names {mark : Lexeme} (hm : mark.isMark = true) :
    Holds (After mark Name) id fun _ => 0 where
  core hs := by
    have hone : Holds Name (fun name => [name]) fun _ => 0 := by
      constructor
      rintro _ _ ⟨⟩
      exact (Core.nil.identifier _).cast rfl (Nat.zero_le 1)
    refine ((hone.after hm).core hs).cast ?_ (Nat.zero_le _)
    rw [← List.map_eq_flatMap, List.map_id']
    rfl

section Parts

variable {expr : Phrases Expr} (h : HoldsExpr expr)

include h

theorem HoldsExpr.declared : Holds (Declared expr) Declaration.leaves Declaration.nodes where
  core hd := by
    cases hd with
    | plain =>
        exact ((Core.nil.identifier _).mark (ValueType.isMark_lexeme _)).cast rfl
          (Nat.le_add_left 1 1)
    | valued he =>
        exact ((((h.core he).mark rfl).identifier _).mark (ValueType.isMark_lexeme _)).cast rfl
          (Nat.le_add_right _ 2)

theorem HoldsExpr.assigned : Holds (Assigned expr) Assignment.leaves Assignment.nodes where
  core ha := by
    cases ha with
    | mk he => exact (((h.core he).mark rfl).identifier _).cast rfl (Nat.le_add_right _ 1)

theorem HoldsExpr.init : Holds (Init expr) LoopInit.leaves LoopInit.nodes where
  core hi := by
    cases hi with
    | declare hd => exact h.declared.core hd
    | assign ha => exact h.assigned.core ha

theorem HoldsExpr.update : Holds (Update expr) LoopUpdate.leaves LoopUpdate.nodes where
  core hu := by
    cases hu with
    | @stepAfter name op => exact (Core.nil.mark op.isMark_lexeme).identifier name
    | @stepBefore name op => exact (Core.nil.identifier name).mark op.isMark_lexeme
    | assign ha => exact h.assigned.core ha
    | evaluate he _ => exact h.core he

theorem HoldsExpr.head : Holds (Head expr) LoopHead.leaves LoopHead.nodes where
  core hh := by
    cases hh with
    | mk hi hc hu =>
        have hfront := (h.init.optional.core hi).mark (l := .openParen) rfl
        have hmid := hfront.append ((h.optional.core hc).mark (l := .semicolon) rfl)
        have hall := hmid.append ((h.update.optional.core hu).mark (l := .semicolon) rfl)
        refine (hall.last rfl).cast rfl ?_
        simp only [LoopHead.nodes]
        omega

end Parts

/-! ### Statements -/

/-- Without their directives, the phrases of `lang` mean the same, and they hold the leaves and
    nodes of their values. -/
structure HoldsApart {α : Type} (lang : Phrases α) (leaves : α → List String) (nodes : α → Nat) :
    Prop where
  core : ∀ {ls a}, lang ls a → ∃ core, Core ls core (leaves a) (nodes a) ∧ lang core a

/-- What can stand one level deeper means the same without its directives. -/
structure HoldsInner (inner : Inner) : Prop where
  statements : HoldsApart inner.statements Stmt.listLeaves Stmt.listNodes
  conditional : HoldsApart inner.conditional
    (fun (condition, body, otherwise) => (Stmt.conditional condition body otherwise).leaves)
    fun (condition, body, otherwise) => (Stmt.conditional condition body otherwise).nodes

section Statements

variable {expr : Phrases Expr} {inner : Option Inner} (h : HoldsExpr expr)
  (hi : ∀ deep ∈ inner, HoldsInner deep)

include hi

theorem holdsApart_block : HoldsApart (Block inner) Stmt.listLeaves Stmt.listNodes where
  core hb := by
    cases hb with
    | braces hs =>
        obtain ⟨core, hcore, hs⟩ := (hi _ rfl).statements.core hs
        exact ⟨_, ((hcore.mark rfl).last rfl).cast rfl (Nat.le_add_right _ 2), .braces hs⟩

theorem holdsApart_alternative : HoldsApart (Alternative inner) Else.leaves Else.nodes where
  core ha := by
    cases ha with
    | nothing => exact ⟨[], .nil, .nothing⟩
    | block hb =>
        obtain ⟨core, hcore, hb⟩ := (holdsApart_block hi).core hb
        exact ⟨_, (hcore.mark rfl).cast rfl (Nat.le_add_right _ 1), .block hb⟩
    | elseIf hc =>
        obtain ⟨core, hcore, hc⟩ := (hi _ rfl).conditional.core hc
        exact ⟨_, (hcore.mark rfl).cast rfl (Nat.le_add_right _ 1), .elseIf hc⟩

include h

theorem holdsApart_conditional : HoldsApart (Conditional expr inner)
    (fun (condition, body, otherwise) => (Stmt.conditional condition body otherwise).leaves)
    fun (condition, body, otherwise) => (Stmt.conditional condition body otherwise).nodes where
  core hc := by
    cases hc with
    | mk hc hb ha =>
        obtain ⟨bs, hbs, hb⟩ := (holdsApart_block hi).core hb
        obtain ⟨as, has, ha⟩ := (holdsApart_alternative hi).core ha
        have hfront := ((h.core hc).mark (l := .openParen) rfl).mark (l := .word "if") rfl
        have hall := (hfront.append (hbs.mark (l := .closeParen) rfl)).append has
        refine ⟨_, hall.cast rfl ?_, .mk hc hb ha⟩
        simp only [Stmt.nodes]
        omega

omit h hi in
theorem statements_one {ls core : List Lexeme} {stmt : Stmt}
    (hcore : Core ls core stmt.leaves stmt.nodes) (hs : Statement expr inner core (some stmt)) :
    ∃ core, Core ls core (Stmt.listLeaves [stmt]) (Stmt.listNodes [stmt]) ∧
      Statements expr inner core [stmt] :=
  ⟨core, hcore.cast (List.append_nil _).symm (Nat.le_refl _), .mk (.singleton hs)⟩

/-- Without its directives, a statement is itself, or nothing if it is one. -/
theorem Statement.exists_core {ls : List Lexeme} {s : Option Stmt}
    (hs : Statement expr inner ls s) :
    ∃ core, Core ls core (Stmt.listLeaves s.toList) (Stmt.listNodes s.toList) ∧
      Statements expr inner core s.toList := by
  have hblock := holdsApart_block hi
  cases hs with
  | @directive text => exact ⟨[], .directive text, .mk .nil⟩
  | @usingNamespace name => exact ⟨[], .usingNamespace name, .mk .nil⟩
  | @function type name _ _ _ _ hp hb =>
      obtain ⟨bs, hbs, hb⟩ := hblock.core hb
      have hhead := (((holds_parameters.core hp).mark (l := .openParen) rfl).identifier name).mark
        type.isMark_lexeme
      refine statements_one ((hhead.append (hbs.mark rfl)).cast rfl ?_) (.function hp hb)
      simp only [Stmt.nodes]
      omega
  | declare hd =>
      exact statements_one (((h.declared.core hd).last rfl).cast rfl (Nat.le_add_right _ 1))
        (.declare hd)
  | conditional hc =>
      obtain ⟨core, hcore, hc⟩ := (holdsApart_conditional h hi).core hc
      exact statements_one hcore (.conditional hc)
  | forLoop hh hb =>
      obtain ⟨bs, hbs, hb⟩ := hblock.core hb
      refine statements_one ((((h.head.core hh).mark rfl).append hbs).cast rfl ?_) (.forLoop hh hb)
      simp only [Stmt.nodes]
      omega
  | whileLoop hc hb =>
      obtain ⟨bs, hbs, hb⟩ := hblock.core hb
      have hfront := ((h.core hc).mark (l := .openParen) rfl).mark (l := .word "while") rfl
      refine statements_one ((hfront.append (hbs.mark rfl)).cast rfl ?_) (.whileLoop hc hb)
      simp only [Stmt.nodes]
      omega
  | result hv =>
      exact statements_one ((((h.optional.core hv).mark rfl).last rfl).cast rfl
        (Nat.le_add_right _ 1)) (.result hv)
  | output hv =>
      exact statements_one (((((h.after rfl).core hv).identifier _).last rfl).cast rfl
        (Nat.le_add_right _ 1)) (.output hv)
  | input ht =>
      exact statements_one (((((holds_names rfl).core ht).identifier _).last rfl).cast rfl
        (Nat.le_add_right _ 1)) (.input ht)
  | call hname ha =>
      exact statements_one ((((h.arguments.core ha).identifier _).last rfl).cast rfl
        (Nat.le_add_right _ 1)) (.call hname ha)
  | @stepAfter name op hname =>
      have hstep := ((Core.nil.mark (l := .semicolon) rfl).mark op.isMark_lexeme).identifier name
      exact statements_one (hstep.cast rfl (Nat.le_add_right 2 1)) (.stepAfter hname)
  | @stepBefore name op =>
      have hstep := ((Core.nil.mark (l := .semicolon) rfl).identifier name).mark op.isMark_lexeme
      exact statements_one (hstep.cast rfl (Nat.le_add_right 2 1)) .stepBefore
  | assign hname ha =>
      exact statements_one (((h.assigned.core ha).last rfl).cast rfl (Nat.le_add_right _ 1))
        (.assign hname ha)

omit h hi in
theorem Statements.append {ls ms : List Lexeme} {stmts more : List Stmt}
    (hs : Statements expr inner ls stmts) (hm : Statements expr inner ms more) :
    Statements expr inner (ls ++ ms) (stmts ++ more) := by
  cases hs with
  | mk hs =>
      cases hm with
      | mk hm =>
          rw [← List.filterMap_append]
          exact .mk (hs.append hm)

theorem holdsApart_statements :
    HoldsApart (Statements expr inner) Stmt.listLeaves Stmt.listNodes where
  core hs := by
    cases hs with
    | mk hseq =>
        induction hseq with
        | nil => exact ⟨[], .nil, .mk .nil⟩
        | @cons _ _ s stmts hs _ ih =>
            obtain ⟨core, hcore, hs⟩ := Statement.exists_core h hi hs
            obtain ⟨cores, hcores, hstmts⟩ := ih
            have hsplit : (s :: stmts).filterMap id = s.toList ++ stmts.filterMap id := by
              cases s <;> rfl
            rw [hsplit, Stmt.listLeaves_append, Stmt.listNodes_append]
            exact ⟨_, hcore.append hcores, hs.append hstmts⟩

end Statements

theorem holdsInner_deeper (levels : Nat) : ∀ deep ∈ deeper levels, HoldsInner deep := by
  induction levels with
  | zero => nofun
  | succ levels ih =>
      rintro deep ⟨⟩
      exact ⟨holdsApart_statements (holdsExpr_expression levels) ih,
        holdsApart_conditional (holdsExpr_expression levels) ih⟩

/-- Without its directives a program is the same, and it holds the leaves and nodes of it. -/
theorem Program.exists_core {levels : Nat} {ls : List Lexeme} {p : CppToPython.Program}
    (h : Program levels ls p) :
    Core ls (withoutDirectives id ls) (Stmt.listLeaves p) (Stmt.listNodes p) ∧
      Program levels (withoutDirectives id ls) p := by
  obtain ⟨core, hcore, hp⟩ :=
    (holdsApart_statements (holdsExpr_expression levels) (holdsInner_deeper levels)).core h
  have hstrips := hcore.strips []
  rw [List.append_nil, withoutDirectives, List.append_nil] at hstrips
  rw [hstrips]
  exact ⟨hcore, hp⟩

end Derives

/-! ### Whole programs -/

/-- The parser loses, doubles and moves nothing. The names and literals of the tokens, those of
    directives apart, are the ones of the program in its own order, and the program has no more
    nodes than there are tokens. -/
theorem parse_keeps_leaves {tokens : List Token} {p : Program}
    (h : (Program.parse tokens).1 = .ok p) :
    leafTexts ((withoutDirectives Token.toLexeme tokens).map Token.toLexeme) = Stmt.listLeaves p ∧
      Stmt.listNodes p ≤ tokens.length := by
  obtain ⟨_, hderives⟩ := run_program_eq_ok.mp (Program.parse_eq_ok.mp h)
  obtain ⟨hcore, _⟩ := hderives.exists_core
  rw [map_withoutDirectives]
  refine ⟨hcore.leaves, ?_⟩
  calc Stmt.listNodes p
      ≤ (withoutDirectives id (tokens.map Token.toLexeme)).length := hcore.nodes
    _ ≤ (tokens.map Token.toLexeme).length := (withoutDirectives_sublist _).length_le
    _ = tokens.length := List.length_map _

theorem Program.exists_of_isOk {tokens : List Token} (h : (parse tokens).1.isOk = true) :
    ∃ p, (parse tokens).1 = .ok p := by
  cases hp : (parse tokens).1 with
  | error e => rw [hp] at h; cases h
  | ok p => exact ⟨p, rfl⟩

/-- The tokens of `int f(int a) { using namespace std; cin >> b; return -a * g(1, "s"); }` and
    `x = 2;`. -/
def Token.functionAndAssignment : List Token :=
  [Lexeme.word "int", .identifier "f", .openParen, .word "int", .identifier "a", .closeParen,
    .openBrace, .word "using", .word "namespace", .identifier "std", .semicolon,
    .identifier "cin", .shiftRight, .identifier "b", .semicolon,
    .word "return", .minus, .identifier "a", ⟨.operator, "*"⟩, .identifier "g", .openParen,
    ⟨.number, "1"⟩, .comma, ⟨.string, "\"s\""⟩, .closeParen, .semicolon, .closeBrace,
    .identifier "x", .equals, ⟨.number, "2"⟩, .semicolon].map (⟨·, .start⟩)

/-- The name of the namespace is left out. -/
theorem parse_keeps_leaves_function :
    ∃ p, (Program.parse Token.functionAndAssignment).1 = .ok p ∧
      Stmt.listLeaves p = ["f", "a", "cin", "b", "a", "g", "1", "\"s\"", "x", "2"] ∧
      Stmt.listNodes p ≤ 31 := by
  have hok : (Program.parse Token.functionAndAssignment).1.isOk = true := by decide +kernel
  obtain ⟨p, hp⟩ := Program.exists_of_isOk hok
  obtain ⟨hleaves, hnodes⟩ := parse_keeps_leaves hp
  refine ⟨p, hp, hleaves.symm.trans ?_, hnodes⟩
  decide +kernel

end CppToPython
