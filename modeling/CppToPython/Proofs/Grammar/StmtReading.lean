import CppToPython.Proofs.Grammar.ExprReading

/-! # Reading statements

The rule of statements reads the statements of the grammar, level by level.
Only one statement can go on after its last lexeme: a conditional goes on with
an `else`.
-/

namespace CppToPython

open Derives Grammar CppToPython.Rule

/-! ### Lexemes of types -/

theorem ValueType.ofLexeme?_eq_some {l : Lexeme} {type : ValueType} :
    ValueType.ofLexeme? l = some type ↔ l = type.lexeme := by
  constructor
  · exact Lexeme.eq_of_find?
  · rintro rfl
    cases type <;> rfl

theorem ReturnType.ofLexeme?_eq_some {l : Lexeme} {type : ReturnType} :
    ReturnType.ofLexeme? l = some type ↔ l = type.lexeme := by
  constructor
  · intro h
    unfold ReturnType.ofLexeme? at h
    split at h
    · rename_i same
      cases h
      exact same
    · obtain ⟨value, hv, rfl⟩ := Option.map_eq_some_iff.mp h
      exact ValueType.ofLexeme?_eq_some.mp hv
  · rintro rfl
    cases type with
    | void => rfl
    | value type => cases type <;> rfl

theorem run_valueType_eq_ok {levels : Nat} {ls rest : List Lexeme} {type : ValueType} :
    valueType.run levels ls = .ok (type, rest) ↔ ls = type.lexeme :: rest := by
  rw [valueType, run_first_eq_ok]
  constructor
  · rintro ⟨l, ms, p, rfl, hc, hp⟩
    obtain ⟨type', ht, rfl⟩ := Option.map_eq_some_iff.mp hc
    obtain ⟨rfl, rfl⟩ := run_pure_eq_ok.mp hp
    rw [ValueType.ofLexeme?_eq_some.mp ht]
  · rintro rfl
    exact ⟨_, rest, pure type, rfl, by rw [ValueType.ofLexeme?_eq_some.mpr rfl]; rfl, rfl⟩

/-! ### Parameters -/

theorem reads_parameter (levels : Nat) : Reads levels parameter OneParameter Nothing where
  sound := by
    intro ls rest p hr
    obtain ⟨type, mid, ht, hr⟩ := run_bind_eq_ok.mp hr
    obtain ⟨name, ms, rfl, hp⟩ := run_identifier_bind_eq_ok.mp hr
    obtain ⟨rfl, rfl⟩ := run_pure_eq_ok.mp hp
    rw [run_valueType_eq_ok.mp ht]
    exact ⟨[_, _], rfl, .typed⟩
  complete := by
    intro used rest p hp _
    cases hp with
    | @typed type name =>
        refine run_bind_eq_ok.mpr ⟨type, _, run_valueType_eq_ok.mpr rfl, ?_⟩
        exact run_identifier_bind_eq_ok.mpr ⟨name, rest, rfl, rfl⟩

theorem sound_parameters {levels : Nat} {ls rest : List Lexeme} {params : List Parameter}
    (hr : parameters.run levels ls = .ok (params, rest)) :
    ∃ used, ls = used ++ rest ∧ Parameters used params := by
  simp only [parameters, run_bind, run_peek] at hr
  split at hr
  · obtain ⟨rfl, rfl⟩ := run_pure_eq_ok.mp hr
    exact ⟨[], rfl, .none⟩
  · split at hr
    · rename_i hvoid
      cases ls with
      | nil => cases hvoid.1
      | cons l ms =>
          cases hvoid.1
          cases hr
          exact ⟨[.word "void"], rfl, .void⟩
    · have hreads := (reads_parameter levels).commaSeparated (by simp [Nothing])
      obtain ⟨used, hused, hs⟩ := hreads.sound hr
      exact ⟨used, hused, .some hs⟩

/-- Parameters end at a parenthesis: nothing else tells a missing list from one
    that is there. -/
theorem complete_parameters (levels : Nat) {used : List Lexeme} {params : List Parameter}
    (hp : Parameters used params) (rest : List Lexeme) :
    parameters.run levels (used ++ .closeParen :: rest) = .ok (params, .closeParen :: rest) := by
  cases hp with
  | none => simp [parameters]
  | void => simp [parameters, Lexeme.word, Lexeme.closeParen]
  | some hs =>
      have comma := (reads_parameter levels).commaSeparated (by simp [Nothing])
      have hstop : Stops (fun l => Nothing l ∨ l = .comma) (.closeParen :: rest) := by
        rw [stops_cons]
        rintro (hg | hg)
        · exact hg
        · exact absurd hg (by decide)
      have hrun := comma.complete hs hstop
      cases hs with
      | cons hi _ =>
          cases hi with
          | @typed type name =>
              have hc : type.lexeme ≠ .closeParen := nofun
              have hv : type.lexeme ≠ .word "void" := by cases type <;> decide
              rw [List.append_assoc, List.cons_append] at hrun ⊢
              simp only [parameters, run_bind, run_peek, List.getElem?_cons_zero,
                Option.some.injEq, hc, hv, if_false, false_and]
              exact hrun

/-! ### Steps at the front -/

theorem Derives.StartsWithStep.append {ls : List Lexeme} (h : StartsWithStep ls)
    (ms : List Lexeme) : StartsWithStep (ls ++ ms) := by
  cases h with
  | before => exact .before
  | after => exact .after

/-- Whether a phrase starts with a step does not depend on what follows it, when
    that starts with no step itself. -/
theorem Derives.StartsWithStep.of_append {l m : Lexeme} {ls ms : List Lexeme}
    (h : StartsWithStep (l :: ls ++ m :: ms)) (hm : StepOp.ofLexeme? m = none) :
    StartsWithStep (l :: ls) := by
  cases ls with
  | nil =>
      cases h with
      | before => exact .before
      | after =>
          rw [StepOp.ofLexeme?_eq_some.mpr rfl] at hm
          cases hm
  | cons n ls =>
      cases h with
      | before => exact .before
      | after => exact .after

theorem Derives.not_startsWithStep {l : Lexeme} {ls : List Lexeme}
    (h : ¬ StartsWithStep (l :: ls)) : StepOp.ofLexeme? l = none := by
  cases ho : StepOp.ofLexeme? l with
  | none => rfl
  | some op =>
      rw [StepOp.ofLexeme?_eq_some.mp ho] at h
      exact absurd .before h

theorem Derives.not_startsWithStep_named {name : String} {ls : List Lexeme}
    (h : ¬ StartsWithStep (.identifier name :: ls)) : ls[0]?.bind StepOp.ofLexeme? = none := by
  cases ls with
  | nil => rfl
  | cons l ls =>
      cases ho : StepOp.ofLexeme? l with
      | none => exact ho
      | some op =>
          rw [StepOp.ofLexeme?_eq_some.mp ho] at h
          exact absurd .after h

/-! ### Blocks -/

/-- What stands one level deeper is read as it is derived. A conditional is only
    ever asked for at its `if`. -/
structure ReadsDeeper (levels : Nat) (lang : Derives.Inner) : Prop where
  statements : Reads levels (Nested.rule .statements) lang.statements (· ≠ .closeBrace)
  soundConditional : ∀ {ls rest : List Lexeme} {c},
    (Nested.rule .conditional).run levels (.word "if" :: ls) = .ok (c, rest) →
      ∃ used, .word "if" :: ls = used ++ rest ∧ lang.conditional used c
  completeConditional : ∀ {used rest : List Lexeme} {c}, lang.conditional used c →
    Stops (· = .word "else") rest →
      (∃ ms, used = .word "if" :: ms) ∧
        (Nested.rule .conditional).run levels (used ++ rest) = .ok (c, rest)

/-- What the rules for statements build on is read as it is derived. -/
structure ReadsContext (levels : Nat) (lang : Phrases Expr) (inner : Option Derives.Inner) :
    Prop where
  expr : Reads levels expr lang ExprGoesOn
  opens : Opens lang
  names : ∀ name, lang [.identifier name] (.name name)
  inner : Below ReadsDeeper levels inner

theorem ReadsContext.run_expr {levels : Nat} {lang : Phrases Expr}
    {inner : Option Derives.Inner} (h : ReadsContext levels lang inner) {ls : List Lexeme}
    {e : Expr} {l : Lexeme} (he : lang ls e) (hk : l.kind ≠ .operator) (hl : l ≠ .openParen)
    (rest : List Lexeme) :
    Grammar.expr.run levels (ls ++ l :: rest) = .ok (e, l :: rest) :=
  h.expr.complete he (stops_cons.mpr (not_exprGoesOn hk hl))

theorem ReadsContext.exists_deeper {levels : Nat} {lang : Phrases Expr}
    {inner : Option Derives.Inner} (h : ReadsContext (levels + 1) lang inner) :
    ∃ deep, inner = some deep ∧ ReadsDeeper levels deep := by
  have hinner := h.inner
  cases hinner with
  | some hd => exact ⟨_, rfl, hd⟩

theorem ReadsContext.exists_level {levels : Nat} {lang : Phrases Expr} {deep : Derives.Inner}
    (h : ReadsContext levels lang (some deep)) : ∃ k, levels = k + 1 ∧ ReadsDeeper k deep := by
  have hinner := h.inner
  cases hinner with
  | some hd => exact ⟨_, rfl, hd⟩

section Rules

variable {levels : Nat} {lang : Phrases Expr} {inner : Option Derives.Inner}
  (h : ReadsContext levels lang inner)

include h

theorem reads_block (body : Body) : Reads levels (block body) (Block inner) Nothing where
  sound := by
    intro ls rest stmts hr
    obtain ⟨ms, rfl, hbody⟩ := run_lexeme_bind_eq_ok.mp hr
    obtain ⟨stmts', mid, hn, hclose⟩ := run_bind_eq_ok.mp hbody
    obtain ⟨rfl, rfl⟩ := run_lexeme_pure_eq_ok.mp hclose
    obtain ⟨k, rfl, hrun⟩ := run_nested_eq_ok.mp hn
    obtain ⟨deep, rfl, hd⟩ := h.exists_deeper
    obtain ⟨used, rfl, hs⟩ := hd.statements.sound hrun
    exact ⟨.openBrace :: used ++ [.closeBrace], by simp, .braces hs⟩
  complete := by
    intro used rest stmts hb _
    cases hb with
    | @braces deep ls stmts hs =>
        obtain ⟨k, rfl, hd⟩ := h.exists_level
        have hrun :
            (Nested.rule .statements).run k (ls ++ .closeBrace :: rest) =
              .ok (stmts, .closeBrace :: rest) :=
          hd.statements.complete hs (stops_cons.mpr (by simp))
        simp [block, hrun]

/-! ### Conditionals -/

theorem sound_alternative {ls rest : List Lexeme} {otherwise : Else}
    (hr : alternative.run levels ls = .ok (otherwise, rest)) :
    ∃ used, ls = used ++ rest ∧ Alternative inner used otherwise := by
  rw [alternative, run_peek_bind] at hr
  split at hr
  · rename_i helse
    cases ls with
    | nil => cases helse
    | cons l ms =>
        cases helse
        rw [run_skip_bind, run_peek_bind] at hr
        split at hr
        · rename_i hif
          cases ms with
          | nil => cases hif
          | cons l ms =>
              cases hif
              obtain ⟨c, mid, hn, hend⟩ := run_bind_eq_ok.mp hr
              obtain ⟨rfl, rfl⟩ := run_pure_eq_ok.mp hend
              obtain ⟨k, rfl, hrun⟩ := run_nested_eq_ok.mp hn
              obtain ⟨deep, rfl, hd⟩ := h.exists_deeper
              obtain ⟨used, hused, hc⟩ := hd.soundConditional hrun
              exact ⟨.word "else" :: used, by rw [List.cons_append, hused], .elseIf hc⟩
        · obtain ⟨stmts, mid, hb, hend⟩ := run_bind_eq_ok.mp hr
          obtain ⟨rfl, rfl⟩ := run_pure_eq_ok.mp hend
          obtain ⟨used, rfl, hblock⟩ := (reads_block h .elseBody).sound hb
          exact ⟨.word "else" :: used, rfl, .block hblock⟩
  · obtain ⟨rfl, rfl⟩ := run_pure_eq_ok.mp hr
    exact ⟨[], rfl, .nothing⟩

theorem complete_alternative {used rest : List Lexeme} {otherwise : Else}
    (ha : Alternative inner used otherwise) (hr : Stops (· = .word "else") rest) :
    alternative.run levels (used ++ rest) = .ok (otherwise, rest) := by
  cases ha with
  | nothing =>
      have hne : rest[0]? ≠ some (.word "else") := by
        intro he
        rw [← List.head?_eq_getElem?] at he
        exact hr _ he rfl
      simp [alternative, hne]
  | @block _ ls stmts hb =>
      have hrun := (reads_block h .elseBody).complete hb (stops_nothing rest)
      cases hb with
      | braces =>
          simp only [List.cons_append, List.append_assoc, List.nil_append] at hrun ⊢
          have hne : Lexeme.openBrace ≠ .word "if" := by decide
          simp [alternative, hrun, hne]
  | @elseIf deep ls condition body otherwise hc =>
      obtain ⟨k, rfl, hd⟩ := h.exists_level
      obtain ⟨⟨ms, rfl⟩, hrun⟩ := hd.completeConditional hc hr
      rw [List.cons_append] at hrun ⊢
      simp [alternative, hrun]

theorem sound_conditional {ls rest : List Lexeme} {c : Expr × List Stmt × Else}
    (hr : Grammar.conditional.run levels ls = .ok (c, rest)) :
    ∃ used, ls = used ++ rest ∧ Conditional lang inner (.word "if" :: used) c := by
  obtain ⟨ms, rfl, h₁⟩ := run_lexeme_bind_eq_ok.mp hr
  obtain ⟨condition, mid, hc, h₂⟩ := run_bind_eq_ok.mp h₁
  obtain ⟨ns, rfl, h₃⟩ := run_lexeme_bind_eq_ok.mp h₂
  obtain ⟨body, mid, hb, h₄⟩ := run_bind_eq_ok.mp h₃
  obtain ⟨otherwise, mid, ha, hp⟩ := run_bind_eq_ok.mp h₄
  obtain ⟨rfl, rfl⟩ := run_pure_eq_ok.mp hp
  obtain ⟨cs, rfl, hcs⟩ := h.expr.sound hc
  obtain ⟨bs, rfl, hbs⟩ := (reads_block h .ifBody).sound hb
  obtain ⟨as, rfl, has⟩ := sound_alternative h ha
  exact ⟨.openParen :: cs ++ .closeParen :: bs ++ as, by simp, .mk hcs hbs has⟩

theorem complete_conditional {used rest : List Lexeme} {c : Expr × List Stmt × Else}
    (hc : Conditional lang inner used c) (hr : Stops (· = .word "else") rest) :
    ∃ ms, used = .word "if" :: ms ∧
      Grammar.conditional.run levels (ms ++ rest) = .ok (c, rest) := by
  cases hc with
  | @mk cs bs as condition body otherwise hc hb ha =>
      refine ⟨.openParen :: cs ++ .closeParen :: bs ++ as, rfl, ?_⟩
      have hexpr := h.run_expr (l := .closeParen) hc (by decide) (by decide) (bs ++ (as ++ rest))
      have hblock := (reads_block h .ifBody).complete hb (stops_nothing (as ++ rest))
      have halt := complete_alternative h ha hr
      simp [Grammar.conditional, hexpr, hblock, halt]

/-! ### Declarations and assignments -/

theorem sound_declaration {type : ValueType} {ls rest : List Lexeme} {d : Declaration}
    (hr : (declaration type).run levels ls = .ok (d, rest)) :
    ∃ used, ls = used ++ rest ∧ Declared lang (type.lexeme :: used) d := by
  obtain ⟨name, ms, rfl, hvalue⟩ := run_identifier_bind_eq_ok.mp hr
  rw [run_peek_bind] at hvalue
  split at hvalue
  · rename_i heq
    cases ms with
    | nil => cases heq
    | cons l ms =>
        cases heq
        rw [run_skip_bind] at hvalue
        obtain ⟨e, mid, he, hend⟩ := run_bind_eq_ok.mp hvalue
        obtain ⟨rfl, rfl⟩ := run_pure_eq_ok.mp hend
        obtain ⟨used, rfl, hu⟩ := h.expr.sound he
        exact ⟨.identifier name :: .equals :: used, rfl, .valued hu⟩
  · obtain ⟨rfl, rfl⟩ := run_pure_eq_ok.mp hvalue
    exact ⟨[.identifier name], rfl, .plain⟩

/-- A declaration has no parenthesis where a function would have one. -/
theorem complete_declaration {used : List Lexeme} {d : Declaration}
    (hd : Declared lang used d) (rest : List Lexeme) :
    ∃ type ms, used = ValueType.lexeme type :: ms ∧
      (ms ++ .semicolon :: rest)[1]? ≠ some .openParen ∧
      (declaration type).run levels (ms ++ .semicolon :: rest) = .ok (d, .semicolon :: rest) := by
  cases hd with
  | @plain type name =>
      have hne : Lexeme.semicolon ≠ .equals := by decide
      exact ⟨type, _, rfl, by simp [Lexeme.semicolon, Lexeme.openParen], by simp [declaration, hne]⟩
  | @valued type name ls e he =>
      have hexpr := h.run_expr (l := .semicolon) he (by decide) (by decide) rest
      exact ⟨type, _, rfl, by simp [Lexeme.equals, Lexeme.openParen], by simp [declaration, hexpr]⟩

theorem sound_assignment {name : String} {ls rest : List Lexeme} {a : Assignment}
    (hr : (assignment name).run levels ls = .ok (a, rest)) :
    ∃ used, ls = used ++ rest ∧ Assigned lang (.identifier name :: used) a ∧ a.name = name := by
  obtain ⟨ms, rfl, h₁⟩ := run_lexeme_bind_eq_ok.mp hr
  obtain ⟨e, mid, he, hp⟩ := run_bind_eq_ok.mp h₁
  obtain ⟨rfl, rfl⟩ := run_pure_eq_ok.mp hp
  obtain ⟨used, rfl, hu⟩ := h.expr.sound he
  exact ⟨.equals :: used, rfl, .mk hu, rfl⟩

theorem complete_assignment {used : List Lexeme} {a : Assignment} {l : Lexeme}
    (ha : Assigned lang used a) (hk : l.kind ≠ .operator) (hl : l ≠ .openParen)
    (rest : List Lexeme) :
    ∃ ms, used = .identifier a.name :: .equals :: ms ∧
      (assignment a.name).run levels (.equals :: ms ++ l :: rest) = .ok (a, l :: rest) := by
  cases ha with
  | @mk name ls e he =>
      have hexpr := h.run_expr he hk hl rest
      exact ⟨ls, rfl, by simp [assignment, hexpr]⟩

theorem sound_function {type : ReturnType} {ls rest : List Lexeme} {stmt : Stmt}
    (hr : (Grammar.function type).run levels ls = .ok (stmt, rest)) :
    ∃ used, ls = used ++ rest ∧ Statement lang inner (type.lexeme :: used) (some stmt) := by
  obtain ⟨name, ms, rfl, h₁⟩ := run_identifier_bind_eq_ok.mp hr
  obtain ⟨ms, rfl, h₂⟩ := run_lexeme_bind_eq_ok.mp h₁
  obtain ⟨params, mid, hp, h₃⟩ := run_bind_eq_ok.mp h₂
  obtain ⟨ns, rfl, h₄⟩ := run_lexeme_bind_eq_ok.mp h₃
  obtain ⟨body, mid, hb, hend⟩ := run_bind_eq_ok.mp h₄
  obtain ⟨rfl, rfl⟩ := run_pure_eq_ok.mp hend
  obtain ⟨ps, rfl, hps⟩ := sound_parameters hp
  obtain ⟨bs, rfl, hbs⟩ := (reads_block h .functionBody).sound hb
  exact ⟨.identifier name :: .openParen :: ps ++ .closeParen :: bs, by simp, .function hps hbs⟩

theorem complete_function (type : ReturnType) (name : String) {ps bs : List Lexeme}
    {params : List Parameter} {body : List Stmt} (hp : Parameters ps params)
    (hb : Block inner bs body) (rest : List Lexeme) :
    (Grammar.function type).run levels
        (.identifier name :: .openParen :: (ps ++ .closeParen :: (bs ++ rest))) =
      .ok (.function type name params body, rest) := by
  have hparams := complete_parameters levels hp (bs ++ rest)
  have hblock := (reads_block h .functionBody).complete hb (stops_nothing rest)
  simp [Grammar.function, hparams, hblock]

theorem sound_typed {type : ReturnType} {ls rest : List Lexeme} {stmt : Stmt}
    (hr : (typed type).run levels ls = .ok (stmt, rest)) :
    ∃ used, ls = used ++ rest ∧ Statement lang inner (type.lexeme :: used) (some stmt) := by
  cases type with
  | void => exact sound_function h hr
  | value type =>
      rw [typed, run_peek_bind] at hr
      split at hr
      · exact sound_function h hr
      · obtain ⟨d, mid, hd, hend⟩ := run_bind_eq_ok.mp hr
        obtain ⟨rfl, rfl⟩ := run_lexeme_pure_eq_ok.mp hend
        obtain ⟨used, rfl, hu⟩ := sound_declaration h hd
        exact ⟨used ++ [.semicolon], by simp, .declare hu⟩

/-! ### Loops -/

theorem sound_loopInit {ls rest : List Lexeme} {init : Option LoopInit}
    (hr : loopInit.run levels ls = .ok (init, rest)) :
    ∃ used, ls = used ++ rest ∧ Optional (Init lang) used init := by
  rw [loopInit, run_peek_bind] at hr
  split at hr
  · obtain ⟨type, mid, ht, hdecl⟩ := run_bind_eq_ok.mp hr
    obtain ⟨d, mid, hd, hend⟩ := run_bind_eq_ok.mp hdecl
    obtain ⟨rfl, rfl⟩ := run_pure_eq_ok.mp hend
    obtain ⟨used, rfl, hu⟩ := sound_declaration h hd
    exact ⟨type.lexeme :: used, run_valueType_eq_ok.mp ht, .present (.declare hu)⟩
  · rename_i name hname
    cases ls with
    | nil => cases hname
    | cons l ms =>
        cases hname
        rw [run_skip_bind] at hr
        obtain ⟨a, mid, ha, hend⟩ := run_bind_eq_ok.mp hr
        obtain ⟨rfl, rfl⟩ := run_pure_eq_ok.mp hend
        obtain ⟨used, rfl, hu, _⟩ := sound_assignment h ha
        exact ⟨.identifier name :: used, rfl, .present (.assign hu)⟩
  · obtain ⟨rfl, rfl⟩ := run_pure_eq_ok.mp hr
    exact ⟨[], rfl, .missing⟩

theorem complete_loopInit {used : List Lexeme} {init : Option LoopInit}
    (hi : Optional (Init lang) used init) (rest : List Lexeme) :
    loopInit.run levels (used ++ .semicolon :: rest) = .ok (init, .semicolon :: rest) := by
  cases hi with
  | missing => rfl
  | present hi =>
      cases hi with
      | declare hd =>
          obtain ⟨type, ms, rfl, _, hrun⟩ := complete_declaration h hd rest
          refine run_bind_eq_ok.mpr ⟨_, _, run_peek .., ?_⟩
          refine run_bind_eq_ok.mpr ⟨type, _, run_valueType_eq_ok.mpr rfl, ?_⟩
          exact run_bind_eq_ok.mpr ⟨_, _, hrun, rfl⟩
      | assign ha =>
          obtain ⟨ms, rfl, hrun⟩ :=
            complete_assignment h (l := .semicolon) ha (by decide) (by decide) rest
          refine run_bind_eq_ok.mpr ⟨_, _, run_peek .., ?_⟩
          refine run_bind_eq_ok.mpr ⟨(), _, run_skip .., ?_⟩
          exact run_bind_eq_ok.mpr ⟨_, _, hrun, rfl⟩

theorem sound_loopCondition {ls rest : List Lexeme} {condition : Option Expr}
    (hr : loopCondition.run levels ls = .ok (condition, rest)) :
    ∃ used, ls = used ++ rest ∧ Optional lang used condition := by
  rw [loopCondition, run_peek_bind] at hr
  split at hr
  · obtain ⟨rfl, rfl⟩ := run_pure_eq_ok.mp hr
    exact ⟨[], rfl, .missing⟩
  · obtain ⟨e, mid, he, hend⟩ := run_bind_eq_ok.mp hr
    obtain ⟨rfl, rfl⟩ := run_pure_eq_ok.mp hend
    obtain ⟨used, rfl, hu⟩ := h.expr.sound he
    exact ⟨used, rfl, .present hu⟩

theorem complete_loopCondition {used : List Lexeme} {condition : Option Expr}
    (hc : Optional lang used condition) (rest : List Lexeme) :
    loopCondition.run levels (used ++ .semicolon :: rest) =
      .ok (condition, .semicolon :: rest) := by
  cases hc with
  | missing => rfl
  | @present _ e he =>
      have hexpr := h.run_expr (l := .semicolon) he (by decide) (by decide) rest
      obtain ⟨l, ms, rfl, _, hl⟩ := h.opens _ _ he
      rw [List.cons_append] at hexpr ⊢
      simp [loopCondition, hl, hexpr]

/-- An expression never has `=` as its second lexeme after a name: reading it
    would end before. -/
theorem not_expr_equals {name : String} {ms : List Lexeme} {e : Expr} :
    ¬ lang (.identifier name :: .equals :: ms) e := by
  intro he
  have hstop : Stops ExprGoesOn (.equals :: ms) := by
    rw [stops_cons]
    rintro ((hg | ⟨op, hg⟩) | ⟨op, hg⟩)
    · cases hg
    · cases op <;> exact absurd hg (by decide)
    · cases op <;> exact absurd hg (by decide)
  have whole := h.expr.complete he (stops_nil ExprGoesOn)
  have first := h.expr.complete (h.names name) hstop
  simp only [List.append_nil, List.singleton_append] at whole first
  rw [whole] at first
  cases first

theorem sound_namedUpdate {name : String} {ms rest : List Lexeme} {update : LoopUpdate}
    (hr : (namedUpdate name).run levels (.identifier name :: ms) = .ok (update, rest)) :
    ∃ used, .identifier name :: ms = used ++ rest ∧ Update lang used update := by
  rw [namedUpdate, run_peek_bind] at hr
  split at hr
  · rename_i op hop
    obtain ⟨l, hl, hl'⟩ := Option.bind_eq_some_iff.mp hop
    cases ms with
    | nil => cases hl
    | cons m ms =>
        cases hl
        obtain rfl := StepOp.ofLexeme?_eq_some.mp hl'
        cases hr
        exact ⟨[_, _], rfl, .stepAfter⟩
  · rename_i hstep
    split at hr
    · rename_i heq
      cases ms with
      | nil => cases heq
      | cons m ms =>
          cases heq
          rw [run_skip_bind] at hr
          obtain ⟨a, mid, ha, hend⟩ := run_bind_eq_ok.mp hr
          obtain ⟨rfl, rfl⟩ := run_pure_eq_ok.mp hend
          obtain ⟨used, hused, hu, _⟩ := sound_assignment h ha
          exact ⟨.identifier name :: used, congrArg _ hused, .assign hu⟩
    · obtain ⟨e, mid, he, hend⟩ := run_bind_eq_ok.mp hr
      obtain ⟨rfl, rfl⟩ := run_pure_eq_ok.mp hend
      obtain ⟨used, hused, hu⟩ := h.expr.sound he
      refine ⟨used, hused, .evaluate hu fun hs => ?_⟩
      have whole := hs.append mid
      rw [← hused] at whole
      cases whole with
      | after =>
          simp only [List.getElem?_cons_succ, List.getElem?_cons_zero, Option.bind_some,
            StepOp.ofLexeme?_eq_some.mpr rfl] at hstep
          cases hstep

theorem sound_loopUpdate {ls rest : List Lexeme} {update : Option LoopUpdate}
    (hr : loopUpdate.run levels ls = .ok (update, rest)) :
    ∃ used, ls = used ++ rest ∧ Optional (Update lang) used update := by
  rw [loopUpdate, run_peek_bind] at hr
  split at hr
  · obtain ⟨rfl, rfl⟩ := run_pure_eq_ok.mp hr
    exact ⟨[], rfl, .missing⟩
  · cases ls with
    | nil =>
        obtain ⟨e, mid, he, _⟩ := run_bind_eq_ok.mp hr
        obtain ⟨used, hused, hu⟩ := h.expr.sound he
        obtain ⟨l, ms, rfl, _⟩ := h.opens _ _ hu
        cases hused
    | cons l ms =>
        simp only [List.getElem?_cons_zero, Option.bind_some] at hr
        split at hr
        · rename_i op hop
          obtain rfl := StepOp.ofLexeme?_eq_some.mp hop
          rw [run_skip_bind] at hr
          obtain ⟨name, ns, rfl, hend⟩ := run_identifier_bind_eq_ok.mp hr
          obtain ⟨rfl, rfl⟩ := run_pure_eq_ok.mp hend
          exact ⟨[op.lexeme, .identifier name], rfl, .present .stepBefore⟩
        · rename_i hstep
          split at hr
          · rename_i name hname
            cases hname
            obtain ⟨u, hn, rfl⟩ := run_map_eq_ok.mp hr
            obtain ⟨used, hused, hu⟩ := sound_namedUpdate h hn
            exact ⟨used, hused, .present hu⟩
          · rename_i hname
            obtain ⟨e, mid, he, hend⟩ := run_bind_eq_ok.mp hr
            obtain ⟨rfl, rfl⟩ := run_pure_eq_ok.mp hend
            obtain ⟨used, hused, hu⟩ := h.expr.sound he
            refine ⟨used, hused, .present (.evaluate hu fun hs => ?_)⟩
            have whole := hs.append mid
            rw [← hused] at whole
            cases whole with
            | before =>
                rw [StepOp.ofLexeme?_eq_some.mpr rfl] at hstep
                cases hstep
            | after => exact hname _ rfl

/-- An expression in the place of an update is read as such, since it starts with
    no step and has no `=` after a name. -/
theorem complete_evaluate {used : List Lexeme} {e : Expr} (he : lang used e)
    (hs : ¬ StartsWithStep used) (rest : List Lexeme) :
    loopUpdate.run levels (used ++ .closeParen :: rest) =
      .ok (some (.evaluate e), .closeParen :: rest) := by
  have hexpr := h.run_expr (l := .closeParen) he (by decide) (by decide) rest
  obtain ⟨⟨kind, text⟩, ms, rfl, hl, _⟩ := h.opens _ _ he
  have whole : ¬ StartsWithStep (⟨kind, text⟩ :: (ms ++ .closeParen :: rest)) :=
    fun hw => hs (hw.of_append rfl)
  have hstep := not_startsWithStep whole
  rw [List.cons_append] at hexpr ⊢
  cases kind with
  | identifier =>
      have hsecond := not_startsWithStep_named whole
      have hequals : (ms ++ .closeParen :: rest)[0]? ≠ some .equals := by
        intro heq
        cases ms with
        | nil => exact absurd (Option.some.inj heq) (by decide)
        | cons m ms =>
            cases heq
            exact not_expr_equals h he
      obtain ⟨second, tail, htail⟩ :=
        List.exists_cons_of_ne_nil (show ms ++ .closeParen :: rest ≠ [] by simp)
      rw [htail] at hexpr hsecond hequals ⊢
      have hnamed : (namedUpdate text).run levels (⟨.identifier, text⟩ :: second :: tail) =
          .ok (.evaluate e, .closeParen :: rest) := by
        have hnone : StepOp.ofLexeme? second = none := hsecond
        have hne : second ≠ .equals := fun heq => hequals (congrArg some heq)
        simp [namedUpdate, hnone, hne, hexpr]
      simp [loopUpdate, hl, hstep, hnamed, Except.map]
  | keyword | number | float | string | operator | delimiter | shift | directive =>
      simp [loopUpdate, hl, hstep, hexpr]

theorem complete_loopUpdate {used : List Lexeme} {update : Option LoopUpdate}
    (hu : Optional (Update lang) used update) (rest : List Lexeme) :
    loopUpdate.run levels (used ++ .closeParen :: rest) = .ok (update, .closeParen :: rest) := by
  cases hu with
  | missing => rfl
  | present hu =>
      cases hu with
      | @stepAfter name op => cases op <;> rfl
      | @stepBefore name op => cases op <;> rfl
      | evaluate he hs => exact complete_evaluate h he hs rest
      | assign ha =>
          obtain ⟨ms, rfl, hrun⟩ :=
            complete_assignment h (l := .closeParen) ha (by decide) (by decide) rest
          refine run_bind_eq_ok.mpr ⟨_, _, run_peek .., run_map_eq_ok.mpr ⟨_, ?_, rfl⟩⟩
          refine run_bind_eq_ok.mpr ⟨_, _, run_peek .., ?_⟩
          refine run_bind_eq_ok.mpr ⟨(), _, run_skip .., ?_⟩
          exact run_bind_eq_ok.mpr ⟨_, _, hrun, rfl⟩

theorem sound_forLoop {ls rest : List Lexeme} {stmt : Stmt}
    (hr : Grammar.forLoop.run levels ls = .ok (stmt, rest)) :
    ∃ used, ls = used ++ rest ∧ Statement lang inner (.word "for" :: used) (some stmt) := by
  obtain ⟨ms, rfl, h₁⟩ := run_lexeme_bind_eq_ok.mp hr
  obtain ⟨init, mid, hi, h₂⟩ := run_bind_eq_ok.mp h₁
  obtain ⟨ns, rfl, h₃⟩ := run_lexeme_bind_eq_ok.mp h₂
  obtain ⟨condition, mid, hc, h₄⟩ := run_bind_eq_ok.mp h₃
  obtain ⟨os, rfl, h₅⟩ := run_lexeme_bind_eq_ok.mp h₄
  obtain ⟨update, mid, hu, h₆⟩ := run_bind_eq_ok.mp h₅
  obtain ⟨ps, rfl, h₇⟩ := run_lexeme_bind_eq_ok.mp h₆
  obtain ⟨body, mid, hb, hend⟩ := run_bind_eq_ok.mp h₇
  obtain ⟨rfl, rfl⟩ := run_pure_eq_ok.mp hend
  obtain ⟨is, rfl, his⟩ := sound_loopInit h hi
  obtain ⟨cs, rfl, hcs⟩ := sound_loopCondition h hc
  obtain ⟨us, rfl, hus⟩ := sound_loopUpdate h hu
  obtain ⟨bs, rfl, hbs⟩ := (reads_block h .forBody).sound hb
  exact ⟨.openParen :: is ++ .semicolon :: cs ++ .semicolon :: us ++ [Lexeme.closeParen] ++ bs,
    by simp, .forLoop (.mk his hcs hus) hbs⟩

theorem complete_forLoop {hs bs : List Lexeme} {head : LoopHead} {body : List Stmt}
    (hh : Head lang hs head) (hb : Block inner bs body) (rest : List Lexeme) :
    Grammar.forLoop.run levels (hs ++ (bs ++ rest)) = .ok (.forLoop head body, rest) := by
  cases hh with
  | @mk is cs us init condition update hi hc hu =>
      have hinit := complete_loopInit h hi
        (cs ++ .semicolon :: (us ++ .closeParen :: (bs ++ rest)))
      have hcondition := complete_loopCondition h hc (us ++ .closeParen :: (bs ++ rest))
      have hupdate := complete_loopUpdate h hu (bs ++ rest)
      have hblock := (reads_block h .forBody).complete hb (stops_nothing rest)
      simp [Grammar.forLoop, hinit, hcondition, hupdate, hblock]

theorem sound_whileLoop {ls rest : List Lexeme} {stmt : Stmt}
    (hr : Grammar.whileLoop.run levels ls = .ok (stmt, rest)) :
    ∃ used, ls = used ++ rest ∧ Statement lang inner (.word "while" :: used) (some stmt) := by
  obtain ⟨ms, rfl, h₁⟩ := run_lexeme_bind_eq_ok.mp hr
  obtain ⟨condition, mid, hc, h₂⟩ := run_bind_eq_ok.mp h₁
  obtain ⟨ns, rfl, h₃⟩ := run_lexeme_bind_eq_ok.mp h₂
  obtain ⟨body, mid, hb, hend⟩ := run_bind_eq_ok.mp h₃
  obtain ⟨rfl, rfl⟩ := run_pure_eq_ok.mp hend
  obtain ⟨cs, rfl, hcs⟩ := h.expr.sound hc
  obtain ⟨bs, rfl, hbs⟩ := (reads_block h .whileBody).sound hb
  exact ⟨.openParen :: cs ++ .closeParen :: bs, by simp, .whileLoop hcs hbs⟩

theorem complete_whileLoop {cs bs : List Lexeme} {condition : Expr} {body : List Stmt}
    (hc : lang cs condition) (hb : Block inner bs body) (rest : List Lexeme) :
    Grammar.whileLoop.run levels (.openParen :: (cs ++ .closeParen :: (bs ++ rest))) =
      .ok (.whileLoop condition body, rest) := by
  have hexpr := h.run_expr (l := .closeParen) hc (by decide) (by decide) (bs ++ rest)
  have hblock := (reads_block h .whileBody).complete hb (stops_nothing rest)
  simp [Grammar.whileLoop, hexpr, hblock]

/-! ### Simple statements -/

theorem sound_result {ls rest : List Lexeme} {stmt : Stmt}
    (hr : Grammar.result.run levels ls = .ok (stmt, rest)) :
    ∃ used, ls = used ++ rest ∧ Statement lang inner (.word "return" :: used) (some stmt) := by
  rw [Grammar.result, run_peek_bind] at hr
  dsimp only at hr
  split at hr
  · obtain ⟨value, mid, hv, hend⟩ := run_bind_eq_ok.mp hr
    obtain ⟨rfl, rfl⟩ := run_pure_eq_ok.mp hv
    obtain ⟨rfl, rfl⟩ := run_lexeme_pure_eq_ok.mp hend
    exact ⟨[.semicolon], rfl, .result .missing⟩
  · obtain ⟨value, mid, hv, hend⟩ := run_bind_eq_ok.mp hr
    obtain ⟨rfl, rfl⟩ := run_lexeme_pure_eq_ok.mp hend
    obtain ⟨e, he, rfl⟩ := run_map_eq_ok.mp hv
    obtain ⟨used, rfl, hu⟩ := h.expr.sound he
    exact ⟨used ++ [.semicolon], by simp, .result (.present hu)⟩

theorem complete_result {ls : List Lexeme} {value : Option Expr} (hv : Optional lang ls value)
    (rest : List Lexeme) :
    Grammar.result.run levels (ls ++ .semicolon :: rest) = .ok (.result value, rest) := by
  cases hv with
  | missing => rfl
  | present he =>
      have hexpr := h.run_expr (l := .semicolon) he (by decide) (by decide) rest
      obtain ⟨l, ms, rfl, _, hl⟩ := h.opens _ _ he
      rw [List.cons_append] at hexpr ⊢
      simp [Grammar.result, hl, hexpr, Except.map]

theorem sound_output {ls rest : List Lexeme} {stmt : Stmt}
    (hr : Grammar.output.run levels ls = .ok (stmt, rest)) :
    ∃ used, ls = used ++ rest ∧ Statement lang inner (.identifier "cout" :: used) (some stmt) := by
  obtain ⟨values, mid, hv, hend⟩ := run_bind_eq_ok.mp hr
  obtain ⟨rfl, rfl⟩ := run_lexeme_pure_eq_ok.mp hend
  obtain ⟨used, rfl, hu⟩ := (h.expr.after (not_exprGoesOn (by decide) (by decide))).sound hv
  exact ⟨used ++ [.semicolon], by simp, .output hu⟩

theorem complete_output {ls : List Lexeme} {values : List Expr}
    (hv : After .shiftLeft lang ls values) (rest : List Lexeme) :
    Grammar.output.run levels (ls ++ .semicolon :: rest) = .ok (.output values, rest) := by
  have hstop : Stops (fun l => ExprGoesOn l ∨ l = .shiftLeft) (.semicolon :: rest) := by
    rw [stops_cons]
    rintro (hg | hg)
    · exact not_exprGoesOn (by decide) (by decide) hg
    · exact absurd hg (by decide)
  have hrun := (h.expr.after (not_exprGoesOn (by decide) (by decide))).complete hv hstop
  simp [Grammar.output, hrun]

theorem sound_namedStmt {name : String} (hname : ¬ IsStream name) {ls rest : List Lexeme}
    {stmt : Stmt} (hr : (namedStmt name).run levels ls = .ok (stmt, rest)) :
    ∃ used, ls = used ++ rest ∧ Statement lang inner (.identifier name :: used) (some stmt) := by
  rw [namedStmt, run_peek_bind] at hr
  split at hr
  · obtain ⟨args, mid, ha, hend⟩ := run_bind_eq_ok.mp hr
    obtain ⟨rfl, rfl⟩ := run_lexeme_pure_eq_ok.mp hend
    obtain ⟨used, rfl, hu⟩ := (h.expr.arguments h.opens).sound ha
    exact ⟨used ++ [.semicolon], by simp, .call hname hu⟩
  · split at hr
    · rename_i op hop
      obtain ⟨l, hl, hl'⟩ := Option.bind_eq_some_iff.mp hop
      cases ls with
      | nil => cases hl
      | cons m ms =>
          cases hl
          obtain rfl := StepOp.ofLexeme?_eq_some.mp hl'
          rw [run_skip_bind] at hr
          obtain ⟨rfl, rfl⟩ := run_lexeme_pure_eq_ok.mp hr
          exact ⟨[_, .semicolon], rfl, .stepAfter hname⟩
    · obtain ⟨a, mid, ha, hend⟩ := run_bind_eq_ok.mp hr
      obtain ⟨rfl, rfl⟩ := run_lexeme_pure_eq_ok.mp hend
      obtain ⟨used, rfl, hu, rfl⟩ := sound_assignment h ha
      exact ⟨used ++ [.semicolon], by simp, .assign hname hu⟩

theorem complete_call (name : String) {ls : List Lexeme} {args : List Expr}
    (ha : Arguments lang ls args) (rest : List Lexeme) :
    (namedStmt name).run levels (ls ++ .semicolon :: rest) = .ok (.call name args, rest) := by
  have hrun := (h.expr.arguments h.opens).complete ha (stops_nothing (.semicolon :: rest))
  obtain ⟨ms, rfl⟩ := ha.exists_cons
  rw [List.cons_append] at hrun ⊢
  simp [namedStmt, Grammar.call, hrun]

theorem complete_assign {a : Assignment} {used : List Lexeme} (ha : Assigned lang used a)
    (rest : List Lexeme) :
    ∃ ms, used = .identifier a.name :: ms ∧
      (namedStmt a.name).run levels (ms ++ .semicolon :: rest) = .ok (.assign a, rest) := by
  obtain ⟨ms, rfl, hrun⟩ :=
    complete_assignment h (l := .semicolon) ha (by decide) (by decide) rest
  refine ⟨.equals :: ms, rfl, ?_⟩
  have hopen : Lexeme.equals ≠ .openParen := by decide
  have hstep : StepOp.ofLexeme? .equals = none := rfl
  rw [List.cons_append] at hrun ⊢
  simp [namedStmt, hopen, hstep, hrun]

omit h

variable (levels) in
theorem reads_name (expected : Expectation) : Reads levels (identifier expected) Name Nothing where
  sound := by
    intro ls rest name hr
    rw [run_identifier_eq_ok.mp hr]
    exact ⟨[_], rfl, .mk⟩
  complete := by
    intro used rest name hn _
    cases hn with
    | mk => exact run_identifier_cons ..

theorem sound_input {ls rest : List Lexeme} {stmt : Stmt}
    (hr : Grammar.input.run levels ls = .ok (stmt, rest)) :
    ∃ used, ls = used ++ rest ∧ Statement lang inner (.identifier "cin" :: used) (some stmt) := by
  obtain ⟨targets, mid, ht, hend⟩ := run_bind_eq_ok.mp hr
  obtain ⟨rfl, rfl⟩ := run_lexeme_pure_eq_ok.mp hend
  obtain ⟨used, rfl, hu⟩ := ((reads_name levels _).after (by simp [Nothing])).sound ht
  exact ⟨used ++ [.semicolon], by simp, .input hu⟩

variable (levels) in
theorem complete_input {ls : List Lexeme} {targets : List String}
    (ht : After .shiftRight Name ls targets) (rest : List Lexeme) :
    Grammar.input.run levels (ls ++ .semicolon :: rest) = .ok (.input targets, rest) := by
  have hstop : Stops (fun l => Nothing l ∨ l = .shiftRight) (.semicolon :: rest) := by
    rw [stops_cons]
    rintro (hg | hg)
    · exact hg
    · exact absurd hg (by decide)
  have hname := reads_name levels .identifierAfterShift
  have hrun := (hname.after (by simp [Nothing])).complete ht hstop
  simp [Grammar.input, hrun]

theorem sound_usingDirective {ls rest : List Lexeme} {u : Unit}
    (hr : usingDirective.run levels ls = .ok (u, rest)) :
    ∃ used, ls = used ++ rest ∧ Statement lang inner (.word "using" :: used) none := by
  obtain ⟨ms, rfl, h₁⟩ := run_lexeme_bind_eq_ok.mp hr
  obtain ⟨name, ns, rfl, h₂⟩ := run_identifier_bind_eq_ok.mp h₁
  rw [run_lexeme_eq_ok.mp h₂]
  exact ⟨[_, _, _], rfl, .usingNamespace⟩

theorem sound_stepBefore {op : StepOp} {ls rest : List Lexeme} {stmt : Stmt}
    (hr : (stepBefore op).run levels ls = .ok (stmt, rest)) :
    ∃ used, ls = used ++ rest ∧ Statement lang inner (op.lexeme :: used) (some stmt) := by
  obtain ⟨name, ms, rfl, hend⟩ := run_identifier_bind_eq_ok.mp hr
  obtain ⟨rfl, rfl⟩ := run_lexeme_pure_eq_ok.mp hend
  exact ⟨[_, _], rfl, .stepBefore⟩

end Rules

/-! ### All statements -/

section Statements

variable {levels : Nat} {lang : Phrases Expr} {inner : Option Derives.Inner}

theorem sound_keywordStmt (h : ReadsContext levels lang inner) {text : String}
    {p : Rule (Option Stmt)} (hk : keywordStmt (.word text) = some p)
    {ls rest : List Lexeme} {stmt : Option Stmt} (hr : p.run levels ls = .ok (stmt, rest)) :
    ∃ used, ls = used ++ rest ∧ Statement lang inner (.word text :: used) stmt := by
  unfold keywordStmt at hk
  split at hk
  · rename_i type htype
    cases hk
    obtain ⟨stmt, hs, rfl⟩ := run_map_eq_ok.mp hr
    rw [ReturnType.ofLexeme?_eq_some.mp htype]
    exact sound_typed h hs
  · simp only [Lexeme.word] at hk
    split at hk
    · cases hk
      obtain ⟨_, mid, hu, hend⟩ := run_bind_eq_ok.mp hr
      obtain ⟨rfl, rfl⟩ := run_pure_eq_ok.mp hend
      exact sound_usingDirective hu
    · cases hk
      obtain ⟨⟨condition, body, otherwise⟩, mid, hc, hend⟩ := run_bind_eq_ok.mp hr
      obtain ⟨rfl, rfl⟩ := run_pure_eq_ok.mp hend
      obtain ⟨used, rfl, hu⟩ := sound_conditional h hc
      exact ⟨used, rfl, .conditional hu⟩
    · cases hk
      obtain ⟨stmt, hs, rfl⟩ := run_map_eq_ok.mp hr
      exact sound_forLoop h hs
    · cases hk
      obtain ⟨stmt, hs, rfl⟩ := run_map_eq_ok.mp hr
      exact sound_whileLoop h hs
    · cases hk
      obtain ⟨stmt, hs, rfl⟩ := run_map_eq_ok.mp hr
      exact sound_result h hs
    · cases hk

theorem sound_statement (h : ReadsContext levels lang inner) {ls rest : List Lexeme}
    {stmt : Option Stmt} (hr : (first .statement stmtAfter).run levels ls = .ok (stmt, rest)) :
    ∃ used, ls = used ++ rest ∧ Statement lang inner used stmt := by
  obtain ⟨⟨kind, text⟩, ms, p, rfl, hc, hp⟩ := run_first_eq_ok.mp hr
  cases kind with
  | number | float | string | delimiter | shift => cases hc
  | directive =>
      cases hc
      cases hp
      exact ⟨[_], rfl, .directive⟩
  | keyword =>
      obtain ⟨used, rfl, hu⟩ := sound_keywordStmt h hc hp
      exact ⟨_ :: used, rfl, hu⟩
  | identifier =>
      simp only [stmtAfter] at hc
      split at hc
      · cases hc
        obtain ⟨stmt, hs, rfl⟩ := run_map_eq_ok.mp hp
        obtain ⟨used, rfl, hu⟩ := sound_output h hs
        exact ⟨_ :: used, rfl, hu⟩
      · cases hc
        obtain ⟨stmt, hs, rfl⟩ := run_map_eq_ok.mp hp
        obtain ⟨used, rfl, hu⟩ := sound_input hs
        exact ⟨_ :: used, rfl, hu⟩
      · rename_i hout hin
        cases hc
        obtain ⟨stmt, hs, rfl⟩ := run_map_eq_ok.mp hp
        have hname : ¬ IsStream text := by
          rintro (same | same)
          · exact hout same
          · exact hin same
        obtain ⟨used, rfl, hu⟩ := sound_namedStmt h hname hs
        exact ⟨_ :: used, rfl, hu⟩
  | operator =>
      obtain ⟨op, hop, rfl⟩ := Option.map_eq_some_iff.mp hc
      obtain ⟨stmt, hs, rfl⟩ := run_map_eq_ok.mp hp
      obtain ⟨used, rfl, hu⟩ := sound_stepBefore hs
      exact ⟨_ :: used, rfl, StepOp.ofLexeme?_eq_some.mp hop ▸ hu⟩

theorem stmtAfter_type (type : ReturnType) :
    stmtAfter type.lexeme = some (some <$> typed type) := by
  have hk : stmtAfter type.lexeme = keywordStmt type.lexeme := rfl
  rw [hk, keywordStmt, ReturnType.ofLexeme?_eq_some.mpr rfl]

theorem stmtAfter_named {name : String} (hname : ¬ IsStream name) :
    stmtAfter (.identifier name) = some (some <$> namedStmt name) := by
  simp only [stmtAfter, Lexeme.identifier]
  split
  · exact absurd (.inl rfl) hname
  · exact absurd (.inr rfl) hname
  · rfl

theorem complete_typed_function (h : ReadsContext levels lang inner) (type : ReturnType)
    (name : String) {ps bs : List Lexeme} {params : List Parameter} {body : List Stmt}
    (hp : Parameters ps params) (hb : Block inner bs body) (rest : List Lexeme) :
    (typed type).run levels
        (.identifier name :: .openParen :: (ps ++ .closeParen :: (bs ++ rest))) =
      .ok (.function type name params body, rest) := by
  have hrun := complete_function h type name hp hb rest
  cases type with
  | void => exact hrun
  | value type =>
      rw [typed, run_peek_bind]
      exact hrun

theorem complete_typed_declaration (h : ReadsContext levels lang inner) {used : List Lexeme}
    {d : Declaration} (hd : Declared lang used d) (rest : List Lexeme) :
    ∃ type ms, used = ReturnType.lexeme (.value type) :: ms ∧
      (typed (.value type)).run levels (ms ++ .semicolon :: rest) = .ok (.declare d, rest) := by
  obtain ⟨type, ms, rfl, hopen, hrun⟩ := complete_declaration h hd rest
  refine ⟨type, ms, rfl, ?_⟩
  rw [typed, run_peek_bind, if_neg hopen]
  exact run_bind_eq_ok.mpr ⟨d, _, hrun, run_lexeme_pure_eq_ok.mpr ⟨rfl, rfl⟩⟩

theorem complete_statement (h : ReadsContext levels lang inner) {used rest : List Lexeme}
    {stmt : Option Stmt} (hs : Statement lang inner used stmt)
    (hr : Stops (· = .word "else") rest) :
    (first .statement stmtAfter).run levels (used ++ rest) = .ok (stmt, rest) := by
  rw [run_first_eq_ok]
  cases hs with
  | directive => exact ⟨_, rest, _, rfl, rfl, rfl⟩
  | usingNamespace => exact ⟨_, _, _, rfl, rfl, rfl⟩
  | @function type name ls params bs body hp hb =>
      have hrun := complete_typed_function h type name hp hb rest
      exact ⟨_, _, _, by simp, stmtAfter_type type, run_map_eq_ok.mpr ⟨_, hrun, rfl⟩⟩
  | declare hd =>
      obtain ⟨type, ms, rfl, hrun⟩ := complete_typed_declaration h hd rest
      exact ⟨_, _, _, by simp, stmtAfter_type _, run_map_eq_ok.mpr ⟨_, hrun, rfl⟩⟩
  | conditional hc =>
      obtain ⟨ms, rfl, hrun⟩ := complete_conditional h hc hr
      exact ⟨_, _, _, rfl, rfl, run_bind_eq_ok.mpr ⟨_, _, hrun, rfl⟩⟩
  | forLoop hh hb =>
      have hrun := complete_forLoop h hh hb rest
      exact ⟨.word "for", _, _, by simp, rfl, run_map_eq_ok.mpr ⟨_, hrun, rfl⟩⟩
  | whileLoop hc hb =>
      have hrun := complete_whileLoop h hc hb rest
      exact ⟨.word "while", _, _, by simp, rfl, run_map_eq_ok.mpr ⟨_, hrun, rfl⟩⟩
  | result hv =>
      have hrun := complete_result h hv rest
      exact ⟨.word "return", _, _, by simp, rfl, run_map_eq_ok.mpr ⟨_, hrun, rfl⟩⟩
  | output hv =>
      have hrun := complete_output h hv rest
      exact ⟨.identifier "cout", _, _, by simp, rfl, run_map_eq_ok.mpr ⟨_, hrun, rfl⟩⟩
  | input ht =>
      have hrun := complete_input levels ht rest
      exact ⟨.identifier "cin", _, _, by simp, rfl, run_map_eq_ok.mpr ⟨_, hrun, rfl⟩⟩
  | @call name _ _ hname ha =>
      have hrun := complete_call h name ha rest
      exact ⟨_, _, _, by simp, stmtAfter_named hname, run_map_eq_ok.mpr ⟨_, hrun, rfl⟩⟩
  | @stepAfter name op hname =>
      have hrun : (namedStmt name).run levels (op.lexeme :: .semicolon :: rest) =
          .ok (.step op name, rest) := by
        cases op <;> rfl
      exact ⟨_, _, _, rfl, stmtAfter_named hname, run_map_eq_ok.mpr ⟨_, hrun, rfl⟩⟩
  | @stepBefore name op => cases op <;> exact ⟨_, _, _, rfl, rfl, rfl⟩
  | assign hname ha =>
      obtain ⟨ms, rfl, hrun⟩ := complete_assign h ha rest
      exact ⟨_, _, _, by simp, stmtAfter_named hname, run_map_eq_ok.mpr ⟨_, hrun, rfl⟩⟩

end Statements

end CppToPython
