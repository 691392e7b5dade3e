import CppToPython.Proofs.Grammar.Acceptance
import CppToPython.Proofs.Grammar.Tracking

/-! # Where parsing fails is a prefix of a sentence

Every rule of the grammar tracks its phrases, so what has been read when it fails can be completed
to a program. The completion may need one level more than the rule has: an expression that is
missing on the last level can be put there, but a block cannot.
-/

namespace CppToPython

open CppToPython.Rule Grammar
open Derives hiding Program deeper

/-! ### Expressions -/

theorem StepOp.exists_cons_of_next {ls : List Lexeme} {op : StepOp}
    (h : ls[0]?.bind StepOp.ofLexeme? = some op) : ∃ ms, ls = op.lexeme :: ms := by
  cases ls with
  | nil => cases h
  | cons l ms =>
      rw [StepOp.ofLexeme?_eq_some.mp h]
      exact ⟨ms, rfl⟩

theorem Tracks.chain {levels : Nat} {operand : Rule Expr} {lang : Phrases Expr}
    (h : Tracks levels operand lang) (tier : Tier) :
    Tracks levels (Grammar.chain tier operand) (Chain tier lang) :=
  h.bind fun _ _ hfront => (h.marked _).bind_pure fun _ _ hback =>
    (Chain.operand hfront).grouped hback

theorem Tracks.expr {levels : Nat} {lang : Phrases Expr} (h : Tracks levels factor lang) :
    Tracks levels Grammar.expr (ExpressionOf lang) :=
  ((h.chain .product).chain .sum).chain .comparison

theorem Tracks.arguments {levels : Nat} {lang : Phrases Expr}
    (h : Tracks levels Grammar.expr lang) :
    Tracks levels Grammar.arguments (Arguments lang) := by
  refine lexeme_bind (peek_ite (fun ls => ?_) ?_)
  · rw [run_bind, run_pure]
    exact ⟨[.closeParen], rfl, .none⟩
  · refine h.commaSeparated.bind fun used args hused => lexeme_bind (pure ?_)
    exact .some hused

section Factors

variable {levels : Nat} {lang : Phrases Expr} (h : ∀ k, levels = k + 1 → Tracks k factor lang)
  (hphrase : ∃ ls e, lang ls e)

include h hphrase

theorem tracks_group : Tracks levels group (Rest [.openParen] (FactorOver (some lang))) := by
  obtain ⟨ls, e, he⟩ := hphrase
  have hn : Tracks levels (nested .group) (ExpressionOf lang) :=
    .nested ⟨ls, e, .operand (.operand (.operand he))⟩ fun k hk => (h k hk).expr
  exact hn.bind fun used e hused => .lexeme_bind (.pure (.group hused))

omit hphrase in
theorem tracks_named (name : String) :
    Tracks levels (named name) (Rest [.identifier name] (FactorOver (some lang))) := by
  have hcall : Tracks levels (nested .arguments) (Arguments (ExpressionOf lang)) :=
    .nested ⟨_, _, .none⟩ fun k hk => (h k hk).expr.arguments
  refine .peek ⟨[], _, .name⟩ fun ls => ?_
  split
  · exact (hcall.bind_pure fun _ _ hused => .call hused).run ls
  · cases hop : ls[0]?.bind StepOp.ofLexeme? with
    | some op =>
        obtain ⟨ms, rfl⟩ := StepOp.exists_cons_of_next hop
        exact tracked_skip (.pure .stepAfter)
    | none => exact (Tracks.pure (.name)).run ls

theorem tracks_factor_of : Tracks levels factor (FactorOver (some lang)) := by
  refine .first ⟨[.identifier "x"], _, .name⟩ fun ⟨kind, text⟩ p hp => ?_
  cases kind with
  | keyword | shift | directive => cases hp
  | number =>
      cases hp
      exact .pure .number
  | float =>
      cases hp
      exact .pure .float
  | string =>
      cases hp
      exact .pure .string
  | identifier =>
      cases hp
      exact tracks_named h text
  | operator =>
      simp only [factorAfter] at hp
      split at hp
      · rename_i op hop
        cases hp
        rw [StepOp.ofLexeme?_eq_some.mp hop]
        exact .identifier_bind fun name => .pure .stepBefore
      · split at hp
        · rename_i same
          cases hp
          rw [same]
          have hoperand : Tracks levels (nested .operand) lang := .nested hphrase h
          exact hoperand.bind_pure fun _ _ hused => .negate hused
        · cases hp
  | delimiter =>
      simp only [factorAfter] at hp
      split at hp
      · rename_i same
        cases hp
        rw [same]
        exact tracks_group h hphrase
      · cases hp

end Factors

theorem tracks_factor (levels : Nat) : Tracks levels factor (Factor (levels + 1)) := by
  induction levels with
  | zero => exact tracks_factor_of nofun ⟨[.identifier "x"], _, .name⟩
  | succ levels ih =>
      refine tracks_factor_of (fun k hk => ?_) ih.phrase
      cases hk
      exact ih

theorem tracks_expr (levels : Nat) : Tracks levels expr (Expression (levels + 1)) :=
  (tracks_factor levels).expr

/-! ### Parts of statements -/

/-- What the rules for statements build on is tracked. There is always a level below for
    the phrases, also where the parser has none. -/
structure TracksContext (levels : Nat) (lang : Phrases Expr) (inner : Derives.Inner) :
    Prop where
  expr : Tracks levels expr lang
  names : ∀ name, lang [.identifier name] (.name name)
  empty : inner.statements [] []
  statements : ∀ k, levels = k + 1 → Tracks k (Nested.rule .statements) inner.statements
  conditional : ∀ k, levels = k + 1 → ∀ ls : List Lexeme,
    Tracked inner.conditional (.word "if" :: ls)
      ((Nested.rule .conditional).run k (.word "if" :: ls))

theorem tracks_valueType :
    Tracks levels valueType fun ls type => ls = [ValueType.lexeme type] := by
  refine .first ⟨[ValueType.int.lexeme], _, rfl⟩ fun l p hp => ?_
  obtain ⟨type, htype, rfl⟩ := Option.map_eq_some_iff.mp hp
  rw [ValueType.ofLexeme?_eq_some.mp htype]
  exact .pure rfl

theorem tracks_parameter : Tracks levels parameter OneParameter := by
  refine tracks_valueType.bind fun used type hused => .identifier_bind fun name => .pure ?_
  rw [hused]
  exact .typed

theorem tracks_parameters : Tracks levels parameters Parameters := by
  refine .peek ⟨[], [], .none⟩ fun ls => ?_
  rw [run_peek_bind]
  split
  · exact (Tracks.pure .none).run ls
  · split
    · rename_i hvoid
      cases ls with
      | nil => cases hvoid.1
      | cons l ls =>
          cases hvoid.1
          exact tracked_skip (.pure .void)
    · exact (tracks_parameter.commaSeparated.mono fun _ _ => .some).run ls

section Rules

variable {levels : Nat} {lang : Phrases Expr} {inner : Derives.Inner}
  (h : TracksContext levels lang inner)

include h

theorem tracks_block (body : Body) : Tracks levels (block body) (Block (some inner)) := by
  have hn : Tracks levels (nested .statements) inner.statements :=
    .nested ⟨[], [], h.empty⟩ h.statements
  refine .lexeme_bind (hn.bind fun used stmts hused => .lexeme_bind (.pure ?_))
  exact .braces hused

theorem tracks_function (type : ReturnType) :
    Tracks levels (Grammar.function type)
      (Rest [type.lexeme] fun ls stmt => Statement lang (some inner) ls (some stmt)) := by
  refine .identifier_bind fun name => .lexeme_bind ?_
  refine tracks_parameters.bind fun ps params hps => .lexeme_bind ?_
  refine (tracks_block h .functionBody).bind fun bs body hbs => .pure ?_
  simpa [Rest] using Statement.function hps hbs

theorem tracks_declaration (type : ValueType) :
    Tracks levels (declaration type) (Rest [type.lexeme] (Declared lang)) := by
  refine .identifier_bind fun name => .peek_ite (fun ls => ?_) (.pure .plain)
  refine tracked_skip (h.expr.bind fun used e hused => .pure ?_)
  simpa [Rest] using Declared.valued hused

theorem tracks_typed (type : ReturnType) :
    Tracks levels (typed type)
      (Rest [type.lexeme] fun ls stmt => Statement lang (some inner) ls (some stmt)) := by
  cases type with
  | void => exact tracks_function h .void
  | value type =>
      refine .peek (tracks_function h _).phrase fun ls => ?_
      split
      · exact (tracks_function h _).run ls
      · refine ((tracks_declaration h type).bind fun used d hused => ?_).run ls
        exact .lexeme_bind (.pure (.declare hused))

/-! ### Conditionals and loops -/

theorem tracks_alternative : Tracks levels alternative (Alternative (some inner)) := by
  refine .peek_ite (fun ls => ?_) (.pure .nothing)
  refine tracked_skip (.peek_ite (fun ls => ?_) ?_)
  · have hnested : Tracked inner.conditional (.word "if" :: ls)
        ((nested .conditional).run levels (.word "if" :: ls)) := by
      cases levels with
      | zero => exact fun he => absurd rfl he
      | succ levels => exact h.conditional levels rfl ls
    exact hnested.bind_pure fun _ _ hused => .elseIf hused
  · exact (tracks_block h .elseBody).bind_pure fun _ _ hused => .block hused

theorem tracks_conditional :
    Tracks levels Grammar.conditional (Rest [.word "if"] (Conditional lang (some inner))) := by
  refine .lexeme_bind (h.expr.bind fun cs condition hcs => .lexeme_bind ?_)
  refine (tracks_block h .ifBody).bind fun bs body hbs => ?_
  refine (tracks_alternative h).bind fun as otherwise has => .pure ?_
  simpa [Rest] using Conditional.mk hcs hbs has

theorem tracks_assignment (name : String) :
    Tracks levels (assignment name)
      (Rest [.identifier name] fun ls a => Assigned lang ls a ∧ a.name = name) := by
  refine .lexeme_bind (h.expr.bind fun used e hused => .pure ?_)
  simpa [Rest] using Assigned.mk hused

theorem tracks_loopInit : Tracks levels loopInit (Optional (Init lang)) := by
  refine .peek ⟨[], _, .missing⟩ fun ls => ?_
  split
  · refine (tracks_valueType.bind fun ts type hts => ?_).run ls
    rw [hts]
    exact (tracks_declaration h type).bind_pure fun _ _ hused => .present (.declare hused)
  · rename_i name hname
    cases ls with
    | nil => cases hname
    | cons l ls =>
        cases hname
        exact tracked_skip <| (tracks_assignment h name).bind_pure fun _ _ hused =>
          .present (.assign hused.1)
  · exact (Tracks.pure .missing).run ls

theorem tracks_loopCondition : Tracks levels loopCondition (Optional lang) := by
  refine .peek_ite (fun ls => (Tracks.pure .missing).run _) ?_
  exact h.expr.bind_pure fun _ _ hused => .present hused

omit h in
theorem not_startsWithStep_name (name : String) : ¬ StartsWithStep [.identifier name] := by
  intro hs
  cases hs

/-- An expression in the place of an update must not start with a step. What has been read
    of it starts with none, and where the rest of a phrase would make one, a name can stand
    instead. -/
theorem tracked_evaluate {ls : List Lexeme} (hs : ¬ StartsWithStep ls) :
    Tracked (fun ls e => Update lang ls (.evaluate e)) ls (expr.run levels ls) := by
  have hexpr := h.expr.run ls
  cases hr : expr.run levels ls with
  | ok r =>
      rw [hr] at hexpr
      obtain ⟨used, rfl, hused⟩ := hexpr
      exact ⟨used, rfl, .evaluate hused fun hstep => hs (hstep.append _)⟩
  | error r =>
      rw [hr] at hexpr
      intro he
      obtain ⟨used, more, e, rfl, hused⟩ := hexpr he
      by_cases hstep : StartsWithStep (used ++ more)
      · have hname (name : String) : Update lang [.identifier name] (.evaluate (.name name)) :=
          .evaluate (h.names name) (not_startsWithStep_name name)
        match used with
        | [] => exact ⟨[], [.identifier "x"], _, rfl, hname "x"⟩
        | [l] =>
            cases hstep with
            | before => exact absurd .before hs
            | @after name => exact ⟨[.identifier name], [], _, rfl, hname name⟩
        | l :: m :: used =>
            cases hstep with
            | before => exact absurd .before hs
            | after => exact absurd .after hs
      · exact ⟨used, more, e, rfl, .evaluate hused hstep⟩

theorem tracked_namedUpdate (name : String) (ls : List Lexeme) :
    Tracked (Update lang) (.identifier name :: ls)
      ((namedUpdate name).run levels (.identifier name :: ls)) := by
  rw [namedUpdate, run_peek_bind, List.getElem?_cons_succ]
  cases hop : ls[0]?.bind StepOp.ofLexeme? with
  | some op =>
      obtain ⟨ms, rfl⟩ := StepOp.exists_cons_of_next hop
      exact ⟨[.identifier name, op.lexeme], rfl, .stepAfter⟩
  | none =>
      simp only
      split
      · exact tracked_skip <| (tracks_assignment h name).bind_pure fun _ _ hused =>
          .assign hused.1
      · refine (tracked_evaluate h fun hs => ?_).bind_pure fun _ _ hu => hu
        cases hs with
        | @after name op ms =>
            rw [List.getElem?_cons_zero, Option.bind_some, StepOp.ofLexeme?_eq_some.mpr rfl] at hop
            cases hop

theorem tracks_loopUpdate : Tracks levels loopUpdate (Optional (Update lang)) := by
  refine .peek ⟨[], _, .missing⟩ fun ls => ?_
  split
  · exact (Tracks.pure .missing).run ls
  · cases hop : ls[0]?.bind StepOp.ofLexeme? with
    | some op =>
        obtain ⟨ms, rfl⟩ := StepOp.exists_cons_of_next hop
        exact tracked_skip (.identifier_bind fun name => .pure (.present .stepBefore))
    | none =>
        simp only
        split
        · rename_i name hname
          cases ls with
          | nil => cases hname
          | cons l ls =>
              cases hname
              rw [run_map]
              exact (tracked_namedUpdate h name ls).map fun _ _ => .present
        · rename_i hname
          refine (tracked_evaluate h fun hs => ?_).bind_pure fun _ _ hu => .present hu
          cases hs with
          | before =>
              rw [List.getElem?_cons_zero, Option.bind_some,
                StepOp.ofLexeme?_eq_some.mpr rfl] at hop
              cases hop
          | after => exact hname _ rfl

theorem tracks_forLoop :
    Tracks levels Grammar.forLoop
      (Rest [.word "for"] fun ls stmt => Statement lang (some inner) ls (some stmt)) := by
  refine .lexeme_bind ((tracks_loopInit h).bind fun is init his => .lexeme_bind ?_)
  refine (tracks_loopCondition h).bind fun cs condition hcs => .lexeme_bind ?_
  refine (tracks_loopUpdate h).bind fun us update hus => .lexeme_bind ?_
  refine (tracks_block h .forBody).bind fun bs body hbs => .pure ?_
  simpa [Rest] using Statement.forLoop (.mk his hcs hus) hbs

theorem tracks_whileLoop :
    Tracks levels Grammar.whileLoop
      (Rest [.word "while"] fun ls stmt => Statement lang (some inner) ls (some stmt)) := by
  refine .lexeme_bind (h.expr.bind fun cs condition hcs => .lexeme_bind ?_)
  refine (tracks_block h .whileBody).bind fun bs body hbs => .pure ?_
  simpa [Rest] using Statement.whileLoop hcs hbs

/-! ### Simple statements -/

theorem tracks_result :
    Tracks levels Grammar.result
      (Rest [.word "return"] fun ls stmt => Statement lang (some inner) ls (some stmt)) := by
  refine .peek_ite (fun ls => ?_) ?_
  · rw [run_bind, run_pure]
    exact ⟨[.semicolon], rfl, .result .missing⟩
  · have hvalue : Tracks levels (some <$> expr) (Optional lang) := h.expr.map fun _ _ => .present
    exact hvalue.bind fun used value hused => .lexeme_bind (.pure (.result hused))

theorem tracks_output :
    Tracks levels Grammar.output
      (Rest [.identifier "cout"] fun ls stmt => Statement lang (some inner) ls (some stmt)) :=
  (h.expr.after .shiftLeft).bind fun _ _ hused => .lexeme_bind (.pure (.output hused))

theorem tracks_call {name : String} (hname : ¬ IsStream name) :
    Tracks levels (Grammar.call name)
      (Rest [.identifier name] fun ls stmt => Statement lang (some inner) ls (some stmt)) :=
  h.expr.arguments.bind fun _ _ hused => .lexeme_bind (.pure (.call hname hused))

theorem tracks_namedStmt {name : String} (hname : ¬ IsStream name) :
    Tracks levels (namedStmt name)
      (Rest [.identifier name] fun ls stmt => Statement lang (some inner) ls (some stmt)) := by
  refine .peek (tracks_call h hname).phrase fun ls => ?_
  split
  · exact (tracks_call h hname).run ls
  · cases hop : ls[0]?.bind StepOp.ofLexeme? with
    | some op =>
        obtain ⟨ms, rfl⟩ := StepOp.exists_cons_of_next hop
        exact tracked_skip (.lexeme_bind (.pure (.stepAfter hname)))
    | none =>
        refine ((tracks_assignment h name).bind fun used a hused => ?_).run ls
        obtain ⟨hassigned, rfl⟩ := hused
        exact .lexeme_bind (.pure (.assign hname hassigned))

omit h

theorem tracks_input :
    Tracks levels Grammar.input
      (Rest [.identifier "cin"] fun ls stmt => Statement lang (some inner) ls (some stmt)) := by
  have hname : Tracks levels (identifier .identifierAfterShift) Name := .identifier _
  exact (hname.after .shiftRight).bind fun _ _ hused => .lexeme_bind (.pure (.input hused))

variable (lang inner) in
theorem tracks_usingDirective :
    Tracks levels usingDirective
      (Rest [.word "using"] fun ls _ => Statement lang (some inner) ls none) := by
  refine .lexeme_bind (.identifier_bind fun name => .lexeme ?_)
  exact .usingNamespace

theorem tracks_stepBefore (op : StepOp) :
    Tracks levels (stepBefore op)
      (Rest [op.lexeme] fun ls stmt => Statement lang (some inner) ls (some stmt)) :=
  .identifier_bind fun _ => .lexeme_bind (.pure .stepBefore)

end Rules

/-! ### All statements -/

section Statements

variable {levels : Nat} {lang : Phrases Expr} {inner : Derives.Inner}
  (h : TracksContext levels lang inner)

include h

theorem tracks_keywordStmt {text : String} {p : Rule (Option Stmt)}
    (hp : keywordStmt (.word text) = some p) :
    Tracks levels p (Rest [.word text] (Statement lang (some inner))) := by
  unfold keywordStmt at hp
  split at hp
  · rename_i type htype
    cases hp
    rw [ReturnType.ofLexeme?_eq_some.mp htype]
    exact (tracks_typed h type).map fun _ _ hs => hs
  · simp only [Lexeme.word] at hp
    split at hp
    · cases hp
      exact (tracks_usingDirective lang inner).bind_pure fun _ _ hused => hused
    · cases hp
      exact (tracks_conditional h).bind_pure fun _ _ hused => .conditional hused
    · cases hp
      exact (tracks_forLoop h).map fun _ _ hs => hs
    · cases hp
      exact (tracks_whileLoop h).map fun _ _ hs => hs
    · cases hp
      exact (tracks_result h).map fun _ _ hs => hs
    · cases hp

theorem tracks_statement :
    Tracks levels (first .statement stmtAfter) (Statement lang (some inner)) := by
  refine .first ⟨[⟨.directive, ""⟩], none, .directive⟩ fun ⟨kind, text⟩ p hp => ?_
  cases kind with
  | number | float | string | delimiter | shift => cases hp
  | directive =>
      cases hp
      exact .pure .directive
  | keyword => exact tracks_keywordStmt h hp
  | identifier =>
      simp only [stmtAfter] at hp
      split at hp
      · cases hp
        exact (tracks_output h).map fun _ _ hs => hs
      · cases hp
        exact tracks_input.map fun _ _ hs => hs
      · rename_i hout hin
        cases hp
        have hname : ¬ IsStream text := by
          rintro (same | same)
          · exact hout same
          · exact hin same
        exact (tracks_namedStmt h hname).map fun _ _ hs => hs
  | operator =>
      obtain ⟨op, hop, rfl⟩ := Option.map_eq_some_iff.mp hp
      rw [StepOp.ofLexeme?_eq_some.mp hop]
      exact (tracks_stepBefore op).map fun _ _ hs => hs

theorem tracks_statements (stop : Lexeme → Bool) :
    Tracks levels (statements stop) (Statements lang (some inner)) :=
  (tracks_statement h).many.bind_pure fun _ _ hused => .mk hused

end Statements

/-! ### All levels -/

/-- Every level is tracked by the phrases of the level above. -/
theorem tracksContext (levels : Nat) :
    ∃ inner, Derives.deeper (levels + 1) = some inner ∧
      TracksContext levels (Expression (levels + 1)) inner := by
  induction levels with
  | zero => exact ⟨_, rfl, tracks_expr 0, expression_name 1, .mk .nil, nofun, nofun⟩
  | succ levels ih =>
      obtain ⟨inner, hinner, hctx⟩ := ih
      refine ⟨_, rfl, tracks_expr _, expression_name _, .mk .nil, ?_, ?_⟩
      · intro k hk
        cases hk
        rw [hinner]
        exact tracks_statements hctx _
      · intro k hk ls
        cases hk
        rw [hinner]
        exact tracked_skip (tracks_conditional hctx)

/-- What has been read of a program when it fails is the start of one. -/
theorem exists_program_of_run_eq_error {levels : Nat} {ls rest : List Lexeme} {e : Expectation}
    (hr : program.run levels ls = .error (e, rest)) (he : e ≠ .nesting) :
    ∃ used more p, ls = used ++ rest ∧ Derives.Program (levels + 1) (used ++ more) p := by
  obtain ⟨inner, hinner, hctx⟩ := tracksContext levels
  have hrun : Tracked _ ls (program.run levels ls) := (tracks_statements hctx _).run ls
  rw [hr, ← hinner] at hrun
  exact hrun he

end CppToPython
