import CppToPython.Proofs.Grammar.Lookahead

/-! # Acceptance

The parser accepts the programs of the grammar and nothing else, and it gives each
of them its meaning. The rules for one level are read as soon as those of the level
below are, so the whole grammar follows by induction on the levels.
-/

namespace CppToPython

open CppToPython.Rule Grammar
open Derives hiding Program deeper

/-- No statement starts with the end of a block or with an alternative. -/
theorem Derives.Statement.starts {lang : Phrases Expr} {inner : Option Derives.Inner}
    {ls : List Lexeme} {stmt : Option Stmt} (h : Statement lang inner ls stmt) :
    ∃ l ms, ls = l :: ms ∧ l ≠ .closeBrace ∧ l ≠ .word "else" := by
  have htype (type : ReturnType) : type.lexeme ≠ .word "else" := by
    cases type with
    | void => decide
    | value type => cases type <;> decide
  have hvalue (type : ValueType) : type.lexeme ≠ .word "else" := htype (.value type)
  have hbrace {kind : Kind} (hkind : kind ≠ .delimiter) (text : String) :
      (⟨kind, text⟩ : Lexeme) ≠ .closeBrace := by
    rintro ⟨⟩
    exact hkind rfl
  have helse {kind : Kind} (hkind : kind ≠ .keyword) (text : String) :
      (⟨kind, text⟩ : Lexeme) ≠ .word "else" := by
    rintro ⟨⟩
    exact hkind rfl
  cases h with
  | directive | output | input | call | stepAfter | stepBefore =>
      exact ⟨_, _, rfl, hbrace (by decide) _, helse (by decide) _⟩
  | usingNamespace | forLoop | whileLoop | result =>
      exact ⟨_, _, rfl, hbrace (by decide) _, by decide⟩
  | @function type => exact ⟨_, _, rfl, hbrace (by decide) _, htype type⟩
  | declare hd =>
      cases hd with
      | @plain type => exact ⟨_, _, rfl, hbrace (by decide) _, hvalue type⟩
      | @valued type => exact ⟨_, _, rfl, hbrace (by decide) _, hvalue type⟩
  | conditional hc =>
      cases hc with
      | mk => exact ⟨_, _, rfl, hbrace (by decide) _, by decide⟩
  | assign _ ha =>
      cases ha with
      | mk => exact ⟨_, _, rfl, hbrace (by decide) _, helse (by decide) _⟩

/-! ### One level -/

section Level

variable {levels : Nat} {lang : Phrases Expr} {inner : Option Derives.Inner}
  (h : ReadsContext levels lang inner)

include h

theorem reads_statement :
    Reads levels (first .statement stmtAfter) (Statement lang inner) (· = .word "else") where
  sound := sound_statement h
  complete := complete_statement h

theorem sound_statements {stop : Lexeme → Bool} {ls rest : List Lexeme} {stmts : List Stmt}
    (hr : (statements stop).run levels ls = .ok (stmts, rest)) :
    ∃ used, ls = used ++ rest ∧ Statements lang inner used stmts ∧
      ∀ l ∈ rest.head?, stop l = true := by
  obtain ⟨all, mid, hmany, hend⟩ := run_bind_eq_ok.mp hr
  obtain ⟨rfl, rfl⟩ := run_pure_eq_ok.mp hend
  obtain ⟨used, rfl, hs, hstop⟩ := (reads_statement h).sound_many hmany
  exact ⟨used, rfl, .mk hs, hstop⟩

theorem run_statements_append (stop : Lexeme → Bool) (hclose : ∀ l, stop l → l = .closeBrace)
    {used rest : List Lexeme} {stmts : List Stmt} (hs : Statements lang inner used stmts)
    (hr : Stops (· = .word "else") rest) :
    (statements stop).run levels (used ++ rest) =
      ((statements stop).run levels rest).map fun (more, left) => (stmts ++ more, left) := by
  cases hs with
  | @mk ls all hseq =>
      have starts : ∀ {ls stmt}, Statement lang inner ls stmt →
          ∃ l ms, ls = l :: ms ∧ stop l = false ∧ ¬ l = .word "else" := by
        intro ls stmt hstmt
        obtain ⟨l, ms, rfl, hbrace, helse⟩ := hstmt.starts
        exact ⟨l, ms, rfl, Bool.eq_false_iff.mpr fun hl => hbrace (hclose l hl), helse⟩
      have hmany := (reads_statement h).run_many_append starts hseq hr
      simp only [statements, run_bind, hmany]
      cases (many stop .statement stmtAfter).run levels rest with
      | error e => rfl
      | ok r => simp [Except.map]

theorem reads_statements :
    Reads levels (statements (· = .closeBrace)) (Statements lang inner) (· ≠ .closeBrace) where
  sound hr := by
    obtain ⟨used, hused, hs, _⟩ := sound_statements h hr
    exact ⟨used, hused, hs⟩
  complete := by
    intro used rest stmts hs hr
    have helse : Stops (· = .word "else") rest := by
      refine hr.mono fun l hl => ?_
      rw [hl]
      nofun
    have hstops : (rest.head?.map Symbol.lexeme).elim true (· = .closeBrace) = true := by
      cases rest with
      | nil => rfl
      | cons l rest => exact decide_eq_true (Decidable.not_not.mp (stops_cons.mp hr))
    have hnone : (statements (· = .closeBrace)).run levels rest = .ok ([], rest) := by
      rw [statements, run_bind, (repeats_many _ _ _).run_of_stops hstops]
      rfl
    rw [run_statements_append h _ (fun l hl => of_decide_eq_true hl) hs helse, hnone]
    simp [Except.map]

/-- A level that is read can stand in the blocks of the level above. -/
theorem readsDeeper_of :
    ReadsDeeper levels ⟨Statements lang inner, Conditional lang inner⟩ where
  statements := reads_statements h
  soundConditional := by
    intro ls rest c hr
    rw [Nested.rule, run_skip_bind] at hr
    obtain ⟨used, rfl, hc⟩ := sound_conditional h hr
    exact ⟨.word "if" :: used, rfl, hc⟩
  completeConditional := by
    intro used rest c hc hr
    obtain ⟨ms, rfl, hrun⟩ := complete_conditional h hc hr
    exact ⟨⟨ms, rfl⟩, (run_skip_bind _ _ _).trans hrun⟩

end Level

/-! ### All levels -/

theorem expression_name (levels : Nat) (name : String) :
    Expression levels [.identifier name] (.name name) := by
  cases levels <;> exact .operand (.operand (.operand .name))

theorem reads_context (levels : Nat) :
    ReadsContext levels (Expression levels) (Derives.deeper levels) where
  expr := reads_expr levels
  opens := opens_expression levels
  names := expression_name levels
  inner := by
    induction levels with
    | zero => exact .none
    | succ levels ih =>
        exact .some (readsDeeper_of
          ⟨reads_expr levels, opens_expression levels, expression_name levels, ih⟩)

theorem run_program_eq_ok {levels : Nat} {ls rest : List Lexeme} {p : Program} :
    program.run levels ls = .ok (p, rest) ↔ rest = [] ∧ Derives.Program levels ls p := by
  constructor
  · intro hr
    obtain ⟨used, rfl, hs, hstop⟩ := sound_statements (reads_context levels) hr
    cases rest with
    | nil => exact ⟨rfl, by rwa [List.append_nil]⟩
    | cons l rest => exact absurd (hstop l rfl) Bool.false_ne_true
  · rintro ⟨rfl, hs⟩
    have hrun := run_statements_append (reads_context levels) (fun _ => false) nofun hs
      (stops_nil _)
    have hnone : program.run levels ([] : List Lexeme) = .ok ([], []) := by
      rw [program, statements, run_bind, (repeats_many _ _ _).run_of_stops rfl]
      rfl
    rw [List.append_nil] at hrun
    rw [program] at hnone ⊢
    rw [hrun, hnone]
    simp [Except.map]

theorem Derives.Program.unique {levels : Nat} {ls : List Lexeme} {p q : CppToPython.Program}
    (hp : Derives.Program levels ls p) (hq : Derives.Program levels ls q) : p = q := by
  have hrun := run_program_eq_ok.mpr ⟨rfl, hp⟩
  rw [run_program_eq_ok.mpr ⟨rfl, hq⟩] at hrun
  cases hrun
  rfl

/-! ### Tokens -/

/-- The tokens of an expression are read to their end. -/
theorem run_expr_eq_ok {levels : Nat} {tokens : List Token} {e : Expr}
    (h : Expression levels (tokens.map Token.toLexeme) e) :
    expr.run levels tokens = .ok (e, []) := by
  have hfollows := follows_expr (followsDeeper levels) []
  have hrun := (reads_expr levels).complete h (stops_nil _)
  rw [List.append_nil] at hrun
  exact (hfollows.run_eq_ok_iff List.nil_suffix).mpr hrun

theorem run_program_eq_error_iff {levels : Nat} {tokens rest : List Token} {e : Expectation}
    (hrest : rest <:+ tokens) :
    program.run levels tokens = .error (e, rest) ↔
      program.run levels (tokens.map Token.toLexeme) = .error (e, rest.map Token.toLexeme) :=
  (follows_program levels).run_eq_error_iff hrest

/-- A program is read to the end of its tokens. -/
theorem rest_eq_nil_of_run_program {levels : Nat} {tokens rest : List Token} {p : Program}
    (h : program.run levels tokens = .ok (p, rest)) : rest = [] := by
  have hlexemes := ((follows_program levels).run_eq_ok_iff (suffix_of_run_eq_ok h)).mp h
  exact List.map_eq_nil_iff.mp (run_program_eq_ok.mp hlexemes).1

theorem Program.parse_eq_ok_iff_run {tokens : List Token} {p : Program} :
    (Program.parse tokens).1 = .ok p ↔ program.run nestingLimit tokens = .ok (p, []) := by
  rw [Program.parse]
  cases hr : program.run nestingLimit tokens with
  | ok result =>
      obtain ⟨q, rest⟩ := result
      obtain rfl := rest_eq_nil_of_run_program hr
      simp
  | error e => simp

theorem Program.parse_eq_ok {tokens : List Token} {p : Program} :
    (Program.parse tokens).1 = .ok p ↔
      program.run nestingLimit (tokens.map Token.toLexeme) = .ok (p, []) := by
  rw [Program.parse_eq_ok_iff_run]
  exact (follows_program nestingLimit).run_eq_ok_iff List.nil_suffix

/-- The parser accepts some tokens as a program exactly when the grammar derives that
    program from them. -/
theorem parse_eq_ok_iff_derives (tokens : List Token) (p : Program) :
    (Program.parse tokens).1 = .ok p ↔
      Derives.Program nestingLimit (tokens.map Token.toLexeme) p := by
  rw [Program.parse_eq_ok, run_program_eq_ok]
  constructor
  · intro h
    exact h.2
  · intro h
    exact ⟨rfl, h⟩

end CppToPython
