import CppToPython.Proofs.Grammar.Following

/-! # How far the grammar looks ahead

Every rule of the grammar stops where it stopped before when the lexemes further on are changed.
Two rules look at two lexemes before they have passed one. A type may belong to a function or to a
variable, but either goes on with a name. Only for a `void` in the place of parameters the second
lexeme matters.

When nothing is changed but where the tokens stand, nothing is read differently: the rules get
whole tokens and make use of their lexemes only.
-/

namespace CppToPython

open CppToPython.Rule Grammar

/-- The rules one level deeper stop at the same places, if there is such a level. -/
def FollowsDeeper (levels : Nat) : Prop :=
  ∀ k, levels = k + 1 → ∀ {α : Type} (n : Nested α) (before : List Lexeme), Follows k before n.rule

theorem FollowsDeeper.nested {levels : Nat} {before : List Lexeme} (h : FollowsDeeper levels)
    {α : Type} (n : Nested α) : Follows levels before (nested n) :=
  .nested fun k hk => h k hk n before

/-! ### Expressions -/

theorem follows_chain {levels : Nat} {before : List Lexeme} {operand : Rule Expr}
    (h : ∀ before, Follows levels before operand) (tier : Tier) :
    Follows levels before (chain tier operand) :=
  (h before).bind fun _ _ => (Follows.marked _ h).bind fun _ _ => .pure _

section Expressions

variable {levels : Nat} {before : List Lexeme} (h : FollowsDeeper levels)

include h

theorem follows_named (name : String) : Follows levels before (named name) := by
  refine .peek fun next => ?_
  split
  · exact (h.nested .arguments).bind fun _ _ => .pure _
  · split
    · exact .skip_bind fun _ => .pure _
    · exact .pure _

theorem follows_group : Follows levels before group :=
  (h.nested .group).bind fun _ _ => .lexeme_bind (.pure _)

theorem follows_factor (before : List Lexeme) : Follows levels before factor := by
  refine .first fun l => ?_
  unfold factorAfter
  split
  · exact .some (.pure _)
  · exact .some (.pure _)
  · exact .some (.pure _)
  · exact .some (follows_named h _)
  · split
    · exact .some (.identifier_bind fun _ => .pure _)
    · split
      · exact .some ((h.nested .operand).bind fun _ _ => .pure _)
      · exact .none
  · split
    · exact .some (follows_group h)
    · exact .none
  · exact .none
  · exact .none
  · exact .none

theorem follows_expr (before : List Lexeme) : Follows levels before expr :=
  follows_chain (fun _ => follows_chain (fun _ => follows_chain (follows_factor h) .product) .sum)
    .comparison

theorem follows_arguments : Follows levels before arguments := by
  refine .lexeme_bind (.peek fun next => ?_)
  split
  · exact (Follows.pure _).bind fun _ _ => .lexeme_bind (.pure _)
  · exact (Follows.commaSeparated (follows_expr h)).bind fun _ _ => .lexeme_bind (.pure _)

end Expressions

theorem passes_expr (levels : Nat) {t : Token} (ht : t.kind = .identifier) :
    Passes levels expr t := by
  have hfactor : Passes levels factor t := .first (by rw [factorAfter, ht])
  exact ((hfactor.bind _).bind _).bind _

/-! ### Parameters -/

section Parameters

variable {levels : Nat} {before : List Lexeme}

theorem follows_valueType : Follows levels before valueType := by
  refine .first fun l => ?_
  cases ValueType.ofLexeme? l with
  | none => exact .none
  | some type => exact .some (.pure type)

theorem follows_parameter (before : List Lexeme) : Follows levels before parameter :=
  follows_valueType.bind fun _ _ => .identifier_bind fun _ => .pure _

theorem run_parameters_void {σ : Type} [Symbol σ] (s : σ) (hs : Symbol.lexeme s = .word "void")
    (ls : List σ) :
    parameters.run levels (s :: ls) =
      if ls.head?.map Symbol.lexeme = some .closeParen then .ok ([], ls)
      else .error (.typeName, s :: ls) := by
  have hclose : Lexeme.word "void" ≠ .closeParen := by decide
  have hrefused :
      (commaSeparated parameter).run levels (s :: ls) = .error (.typeName, s :: ls) := by
    rw [commaSeparated, run_bind, parameter, run_bind, valueType, run_first_cons, hs]
    rfl
  rw [parameters, run_peek_bind_map, run_peek_bind_map, List.head?_eq_getElem?]
  simp only [List.getElem?_cons_zero, List.getElem?_cons_succ, Option.map_some, hs,
    Option.some.injEq, hclose, if_false, true_and]
  split
  · exact run_skip_bind ..
  · exact hrefused

/-- At a `void` the lexeme after it decides. -/
theorem followsOn_parameters_void (hbefore : AtParameters before) {t : Token}
    (ht : t.toLexeme = .word "void") (ts : List Token) (ls : List Lexeme) :
    FollowsOn levels before parameters (t :: ts) (t.toLexeme :: ls) := by
  have hts : parameters.run levels (t :: ts) = _ := run_parameters_void t ht ts
  have hls : parameters.run levels (t.toLexeme :: ls) = _ := run_parameters_void t.toLexeme ht ls
  rw [Symbol.map_lexeme_self] at hls
  by_cases hnext : ts.head?.map Symbol.lexeme = some .closeParen
  · rw [if_pos hnext] at hts
    constructor
    · intro used rest rest' a hsame hr
      rw [hts] at hr
      cases hr
      obtain ⟨more, _, hmore⟩ := hsame.tail (List.suffix_refl ts)
      obtain ⟨_, rfl⟩ := hmore.nil_of_self
      rw [Symbol.map_lexeme_head?, hmore.next] at hnext
      rw [hls, if_pos hnext]
    · intro used rest rest' e _ hr
      rw [hts] at hr
      cases hr
  · rw [if_neg hnext] at hts
    by_cases hnext' : ls.head? = some .closeParen
    · constructor
      · intro used rest rest' a _ hr
        rw [hts] at hr
        cases hr
      · intro used rest rest' e hsame hr
        rw [hts] at hr
        cases hr
        obtain ⟨rfl, rfl⟩ := hsame.nil_of_self
        right
        rw [List.map_nil, List.append_nil]
        refine ⟨hbefore, congrArg some ht, ?_, ?_⟩
        · rwa [List.map_cons, List.getElem?_cons_succ, ← List.head?_eq_getElem?,
            ← Symbol.map_lexeme_head?]
        · rwa [List.getElem?_cons_succ, ← List.head?_eq_getElem?]
    · rw [if_neg hnext'] at hls
      exact .refused hts hls fun _ => rfl

theorem exists_cons_of_head? {ts : List Token} {l : Lexeme}
    (h : (ts.map Token.toLexeme).head? = some l) : ∃ t us, ts = t :: us ∧ t.toLexeme = l := by
  cases ts with
  | nil => cases h
  | cons t us => exact ⟨t, us, rfl, Option.some.inj h⟩

theorem follows_parameters (hbefore : AtParameters before) :
    Follows levels before parameters := by
  intro ts ls
  by_cases hvoid : ls.head? = some (.word "void")
  · refine .of_head fun hhead => ?_
    obtain ⟨ms, rfl⟩ := List.head?_eq_some_iff.mp hvoid
    obtain ⟨t, us, rfl, ht⟩ := exists_cons_of_head? hhead
    rw [← ht]
    exact followsOn_parameters_void hbefore ht us ms
  refine .peek fun _ => ?_
  simp only [hvoid, false_and, if_false]
  by_cases hclose : ls.head? = some .closeParen
  · simp only [hclose, if_true]
    exact .congr (run_peek_bind_map ..) (run_peek_bind_map ..) (.pure [])
  · simp only [hclose, if_false]
    exact .congr (run_peek_bind_map ..) (run_peek_bind_map ..)
      (Follows.commaSeparated follows_parameter ts ls)

end Parameters

section Rules

variable {levels : Nat} {before : List Lexeme} (h : FollowsDeeper levels)

include h

theorem follows_block (body : Body) : Follows levels before (block body) :=
  .lexeme_bind <| (h.nested .statements).bind fun _ _ => .lexeme_bind (.pure _)

theorem follows_function (type : ReturnType) :
    Follows levels (before ++ [type.lexeme]) (Grammar.function type) := by
  refine .identifier_bind fun name => .lexeme_bind ?_
  refine (follows_parameters ⟨before, type, name, by simp⟩).bind fun _ _ => .lexeme_bind ?_
  exact (follows_block h _).bind fun _ _ => .pure _

theorem follows_declaration (type : ValueType) :
    Follows levels before (declaration type) := by
  refine .identifier_bind fun name => .peek fun next => ?_
  split
  · exact .skip_bind fun _ => (follows_expr h _).bind fun _ _ => .pure _
  · exact .pure _

omit h in
theorem run_typed_refused {σ : Type} [Symbol σ] (s : σ)
    (hs : (Symbol.lexeme s).kind ≠ .identifier) (type : ValueType) (ls : List σ) :
    (typed (.value type)).run levels (s :: ls) =
      .error (.identifier
        (if ls[0]?.map Symbol.lexeme = some .openParen then .functionName else .variableName),
        s :: ls) := by
  have hname (expected : Expectation) :
      (identifier expected).run levels (s :: ls) = .error (expected, s :: ls) := by
    rw [identifier, run_first_cons, if_neg hs]
  rw [typed, run_peek_bind_map, List.getElem?_cons_succ]
  split
  · rw [Grammar.function, run_bind, hname]
  · rw [declaration, run_bind, run_bind, hname]

/-- Whether a function or a variable is declared depends on two lexemes, but the first of them
    has to be a name. -/
theorem follows_typed (type : ReturnType) :
    Follows levels (before ++ [type.lexeme]) (typed type) := by
  cases type with
  | void => exact follows_function h .void
  | value type =>
      refine fun ts ls => .of_head fun hhead => ?_
      cases ts with
      | nil =>
          rw [List.head?_eq_none_iff.mp hhead.symm]
          exact .refused rfl rfl fun _ => rfl
      | cons t us =>
          obtain ⟨ms, rfl⟩ := List.head?_eq_some_iff.mp hhead.symm
          by_cases ht : t.kind = .identifier
          · have hname (expected : Expectation) : Passes levels (identifier expected) t :=
              .first (if_pos ht)
            refine .peek_second (fun second => ?_) fun second => ?_
            · split
              · exact follows_function h _
              · exact (follows_declaration h type).bind fun _ _ => .lexeme_bind (.pure _)
            · split
              · exact (hname _).bind _
              · exact ((hname _).bind _).bind _
          · refine .refused (run_typed_refused t ht type us)
              (run_typed_refused t.toLexeme ht type ms) ?_
            intro hsame
            rw [List.map_cons, List.getElem?_cons_succ, List.getElem?_cons_succ,
              List.getElem?_map] at hsame
            rw [Symbol.map_lexeme_self, ← hsame]
            rfl

/-! ### Conditionals and loops -/

theorem follows_alternative : Follows levels before alternative := by
  refine .peek fun next => ?_
  split
  · refine .skip_bind fun _ => .peek fun next => ?_
    split
    · exact (h.nested .conditional).bind fun _ _ => .pure _
    · exact (follows_block h _).bind fun _ _ => .pure _
  · exact .pure _

theorem follows_conditional :
    Follows levels before Grammar.conditional := by
  refine .lexeme_bind <| (follows_expr h _).bind fun _ _ => .lexeme_bind ?_
  refine (follows_block h _).bind fun _ _ => ?_
  exact (follows_alternative h).bind fun _ _ => .pure _

theorem follows_assignment (name : String) :
    Follows levels before (assignment name) :=
  .lexeme_bind <| (follows_expr h _).bind fun _ _ => .pure _

theorem follows_loopInit : Follows levels before loopInit := by
  refine .peek fun next => ?_
  split
  · exact follows_valueType.bind fun _ _ => (follows_declaration h _).bind fun _ _ => .pure _
  · exact .skip_bind fun _ => (follows_assignment h _).bind fun _ _ => .pure _
  · exact .pure _

theorem follows_loopCondition :
    Follows levels before loopCondition := by
  refine .peek fun next => ?_
  split
  · exact .pure _
  · exact (follows_expr h _).bind fun _ _ => .pure _

/-- The lexeme after a name decides about an update, and the name is passed in any case. -/
theorem followsOn_namedUpdate (name : String) {t : Token} (ht : t.kind = .identifier)
    (ts : List Token) (ls : List Lexeme) :
    FollowsOn levels before (namedUpdate name) (t :: ts) (t.toLexeme :: ls) := by
  refine .peek_second (fun second => ?_) fun second => ?_
  · split
    · exact .skip_bind fun _ => .skip_bind fun _ => .pure _
    · split
      · exact .skip_bind fun _ => (follows_assignment h _).bind fun _ _ => .pure _
      · exact (follows_expr h _).bind fun _ _ => .pure _
  · split
    · exact (Passes.skip _).bind _
    · split
      · exact (Passes.skip _).bind _
      · exact (passes_expr levels ht).bind _

theorem follows_loopUpdate : Follows levels before loopUpdate := by
  refine fun ts ls => .peek fun hhead => ?_
  split
  · exact .pure _
  · split
    · exact Follows.skip_bind (fun _ => .identifier_bind fun _ => .pure _) ts ls
    · split
      · rename_i name hname
        obtain ⟨ms, rfl⟩ := List.head?_eq_some_iff.mp hname
        obtain ⟨t, us, rfl, ht⟩ := exists_cons_of_head? hhead
        rw [← ht]
        exact (followsOn_namedUpdate h name (congrArg Lexeme.kind ht) us ms).map _
      · exact Follows.bind (follows_expr h _) (fun _ _ => .pure _) ts ls

theorem follows_forLoop :
    Follows levels before Grammar.forLoop := by
  refine .lexeme_bind <| (follows_loopInit h).bind fun _ _ => .lexeme_bind ?_
  refine (follows_loopCondition h).bind fun _ _ => .lexeme_bind ?_
  refine (follows_loopUpdate h).bind fun _ _ => .lexeme_bind ?_
  exact (follows_block h _).bind fun _ _ => .pure _

theorem follows_whileLoop :
    Follows levels before Grammar.whileLoop := by
  refine .lexeme_bind <| (follows_expr h _).bind fun _ _ => .lexeme_bind ?_
  exact (follows_block h _).bind fun _ _ => .pure _

/-! ### Simple statements -/

theorem follows_result : Follows levels before Grammar.result := by
  refine .peek fun next => ?_
  split
  · exact (Follows.pure _).bind fun _ _ => .lexeme_bind (.pure _)
  · exact ((follows_expr h _).map _).bind fun _ _ => .lexeme_bind (.pure _)

theorem follows_output : Follows levels before Grammar.output :=
  (Follows.after _ (follows_expr h)).bind fun _ _ => .lexeme_bind (.pure _)

theorem follows_namedStmt (name : String) :
    Follows levels before (namedStmt name) := by
  refine .peek fun next => ?_
  split
  · exact (follows_arguments h).bind fun _ _ => .lexeme_bind (.pure _)
  · split
    · exact .skip_bind fun _ => .lexeme_bind (.pure _)
    · exact (follows_assignment h _).bind fun _ _ => .lexeme_bind (.pure _)

end Rules

theorem follows_input {levels : Nat} {before : List Lexeme} :
    Follows levels before Grammar.input :=
  (Follows.after _ fun _ => .identifier _).bind fun _ _ => .lexeme_bind (.pure _)

theorem follows_usingDirective {levels : Nat} {before : List Lexeme} :
    Follows levels before usingDirective :=
  .lexeme_bind <| .identifier_bind fun _ => .lexeme _ _

theorem follows_stepBefore {levels : Nat} {before : List Lexeme} (op : StepOp) :
    Follows levels before (stepBefore op) :=
  .identifier_bind fun _ => .lexeme_bind (.pure _)

/-! ### All statements -/

section Statements

variable {levels : Nat} (h : FollowsDeeper levels)

include h

theorem follows_keywordStmt (before : List Lexeme) (l : Lexeme) :
    FollowsChosen levels (before ++ [l]) (keywordStmt l) := by
  unfold keywordStmt
  cases htype : ReturnType.ofLexeme? l with
  | some type =>
      rw [ReturnType.ofLexeme?_eq_some.mp htype]
      exact .some ((follows_typed h type).map _)
  | none =>
      simp only
      split
      · exact .some (follows_usingDirective.bind fun _ _ => .pure _)
      · exact .some ((follows_conditional h).bind fun _ _ => .pure _)
      · exact .some ((follows_forLoop h).map _)
      · exact .some ((follows_whileLoop h).map _)
      · exact .some ((follows_result h).map _)
      · exact .none

theorem follows_stmtAfter (before : List Lexeme) (l : Lexeme) :
    FollowsChosen levels (before ++ [l]) (stmtAfter l) := by
  unfold stmtAfter
  split
  · exact .some (.pure _)
  · exact follows_keywordStmt h before l
  · split
    · exact .some ((follows_output h).map _)
    · exact .some (follows_input.map _)
    · exact .some ((follows_namedStmt h _).map _)
  · cases StepOp.ofLexeme? l with
    | none => exact .none
    | some op => exact .some ((follows_stepBefore op).map _)
  · exact .none
  · exact .none
  · exact .none
  · exact .none
  · exact .none

theorem follows_statements (before : List Lexeme) (stop : Lexeme → Bool) :
    Follows levels before (statements stop) :=
  (Follows.many (follows_stmtAfter h)).bind fun _ _ => .pure _

end Statements

/-! ### All levels -/

theorem followsDeeper (levels : Nat) : FollowsDeeper levels := by
  induction levels with
  | zero => exact nofun
  | succ levels ih =>
      intro k hk α n before
      cases hk
      cases n with
      | statements => exact follows_statements ih before _
      | conditional => exact .skip_bind fun _ => follows_conditional ih
      | group => exact follows_expr ih before
      | arguments => exact follows_arguments ih
      | operand => exact follows_factor ih before

theorem follows_program (levels : Nat) : Follows levels [] program :=
  follows_statements (followsDeeper levels) [] _

/-! ### Positions -/

/-- What is left of the lexemes when this is left of the tokens. -/
def Rule.unplaced {α : Type} :
    Except (Expectation × List Token) (α × List Token) →
      Except (Expectation × List Lexeme) (α × List Lexeme)
  | .ok (a, rest) => .ok (a, rest.map Token.toLexeme)
  | .error (e, rest) => .error (e, rest.map Token.toLexeme)

theorem SameUpTo.of_suffix {ts rest : List Token} (h : rest <:+ ts) :
    ∃ used, SameUpTo used ts rest (ts.map Token.toLexeme) (rest.map Token.toLexeme) := by
  obtain ⟨used, rfl⟩ := h
  exact ⟨used, rfl, List.map_append, rfl⟩

/-- A rule that stops at the same places on tokens and on lexemes makes the same of both. -/
theorem Follows.run_map {α : Type} {levels : Nat} {before : List Lexeme} {r : Rule α}
    (h : Follows levels before r) (ts : List Token) :
    r.run levels (ts.map Token.toLexeme) = Rule.unplaced (r.run levels ts) := by
  have hfollows := h ts (ts.map Token.toLexeme)
  cases hrun : r.run levels ts with
  | ok result =>
      obtain ⟨a, rest⟩ := result
      obtain ⟨used, hsame⟩ := SameUpTo.of_suffix (suffix_of_run_eq_ok hrun)
      exact hfollows.ok hsame hrun
  | error result =>
      obtain ⟨e, rest⟩ := result
      obtain ⟨used, hsame⟩ := SameUpTo.of_suffix (suffix_of_run_eq_error hrun)
      rcases hfollows.error hsame hrun with ⟨e', hfail, he⟩ | ⟨_, _, hopen, hclose⟩
      · rw [hfail, he rfl]
        rfl
      · exact absurd hclose hopen

theorem eq_of_suffix_of_map_eq {ts us vs : List Token} (hus : us <:+ ts) (hvs : vs <:+ ts)
    (h : us.map Token.toLexeme = vs.map Token.toLexeme) : us = vs := by
  have hlength : us.length = vs.length := by simpa using congrArg List.length h
  rw [List.suffix_iff_eq_drop.mp hus, List.suffix_iff_eq_drop.mp hvs, hlength]

section Positions

variable {α : Type} {levels : Nat} {before : List Lexeme} {r : Rule α} {ts rest : List Token}
  (h : Follows levels before r) (hrest : rest <:+ ts)

include h hrest

/-- A success on tokens is one on their lexemes, with as many of them left. -/
theorem Follows.run_eq_ok_iff {a : α} :
    r.run levels ts = .ok (a, rest) ↔
      r.run levels (ts.map Token.toLexeme) = .ok (a, rest.map Token.toLexeme) := by
  rw [h.run_map]
  cases hrun : r.run levels ts with
  | error result => simp [Rule.unplaced]
  | ok result =>
      obtain ⟨b, left⟩ := result
      simp only [Rule.unplaced, Except.ok.injEq, Prod.mk.injEq]
      refine and_congr_right fun _ => ⟨congrArg _, ?_⟩
      exact eq_of_suffix_of_map_eq (suffix_of_run_eq_ok hrun) hrest

theorem Follows.run_eq_error_iff {e : Expectation} :
    r.run levels ts = .error (e, rest) ↔
      r.run levels (ts.map Token.toLexeme) = .error (e, rest.map Token.toLexeme) := by
  rw [h.run_map]
  cases hrun : r.run levels ts with
  | ok result => simp [Rule.unplaced]
  | error result =>
      obtain ⟨e', left⟩ := result
      simp only [Rule.unplaced, Except.error.injEq, Prod.mk.injEq]
      refine and_congr_right fun _ => ⟨congrArg _, ?_⟩
      exact eq_of_suffix_of_map_eq (suffix_of_run_eq_error hrun) hrest

end Positions

end CppToPython
