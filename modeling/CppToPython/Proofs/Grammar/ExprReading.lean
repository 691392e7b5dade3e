import CppToPython.Proofs.Grammar.Reading

/-! # Reading expressions

The rule of expressions reads the expressions of the grammar, level by level.
What goes on with a factor is a parenthesis or a step after a name; what goes on
with an expression are these and the operators.
-/

namespace CppToPython

open Derives Grammar CppToPython.Rule

/-! ### Lexemes of operators -/

theorem Lexeme.eq_of_find? {α : Type} {l : Lexeme} {kind : Kind} {all : List α}
    {text : α → String} {a : α}
    (h : (if l.kind = kind then all.find? (fun a => text a = l.text) else none) = some a) :
    l = ⟨kind, text a⟩ := by
  split at h
  · rename_i same
    have found := List.find?_some h
    simp only [decide_eq_true_eq] at found
    rw [← same, found]
  · cases h

theorem StepOp.ofLexeme?_eq_some {l : Lexeme} {op : StepOp} :
    StepOp.ofLexeme? l = some op ↔ l = op.lexeme := by
  constructor
  · exact Lexeme.eq_of_find?
  · rintro rfl
    cases op <;> rfl

theorem BinaryOp.ofLexeme?_eq_some {l : Lexeme} {op : BinaryOp} :
    BinaryOp.ofLexeme? l = some op ↔ l = op.lexeme := by
  constructor
  · exact Lexeme.eq_of_find?
  · rintro rfl
    cases op <;> rfl

theorem Grammar.Tier.operator?_eq_some {tier : Tier} {l : Lexeme} {op : BinaryOp} :
    tier.operator? l = some op ↔ l = op.lexeme ∧ Tier.of op = tier := by
  simp only [Tier.operator?, Option.filter_eq_some_iff, BinaryOp.ofLexeme?_eq_some,
    decide_eq_true_eq]

/-- No step is an operator between two expressions. -/
theorem StepOp.lexeme_ne_binary (step : StepOp) (op : BinaryOp) : step.lexeme ≠ op.lexeme := by
  cases step <;> cases op <;> decide

/-! ### Chains -/

namespace Derives

theorem Chain.grouped {tier : Tier} {operand : Phrases Expr} {ls ms : List Lexeme} {left : Expr}
    {more : List (BinaryOp × Expr)} (h : Chain tier operand ls left)
    (hs : Sequence (Marked tier.operator? operand) ms more) :
    Chain tier operand (ls ++ ms) (Grammar.grouped left more) := by
  induction hs generalizing ls left with
  | nil =>
      rw [List.append_nil]
      exact h
  | cons hitem _ ih =>
      cases hitem with
      | mk hm hi =>
          obtain ⟨rfl, ht⟩ := Tier.operator?_eq_some.mp hm
          rw [← List.append_assoc]
          exact ih (.binary h ht hi)

theorem Chain.exists_grouped {tier : Tier} {operand : Phrases Expr} {ls : List Lexeme} {e : Expr}
    (h : Chain tier operand ls e) :
    ∃ fs ms first more, ls = fs ++ ms ∧ operand fs first ∧
      Sequence (Marked tier.operator? operand) ms more ∧ e = Grammar.grouped first more := by
  induction h with
  | @operand ls e he => exact ⟨ls, [], e, [], (List.append_nil ls).symm, he, .nil, rfl⟩
  | @binary ls ms left op right _ ht hr ih =>
      obtain ⟨fs, ns, first, more, rfl, hf, hs, rfl⟩ := ih
      have hm := Marked.mk (Tier.operator?_eq_some.mpr ⟨rfl, ht⟩) hr
      refine ⟨fs, ns ++ op.lexeme :: ms, first, more ++ [(op, right)], ?_, hf,
        hs.append (.singleton hm), ?_⟩
      · rw [List.append_assoc]
      · rw [Grammar.grouped, Grammar.grouped, List.foldl_append]
        rfl

end Derives

def FactorGoesOn (l : Lexeme) : Prop := l = .openParen ∨ ∃ op : StepOp, l = op.lexeme

def ExprGoesOn (l : Lexeme) : Prop := FactorGoesOn l ∨ ∃ op : BinaryOp, l = op.lexeme

namespace Reads

theorem chain (tier : Tier) {levels : Nat} {operand : Rule Expr} {lang : Phrases Expr}
    {goesOn : Lexeme → Prop} (h : Reads levels operand lang goesOn)
    (apart : ∀ op, Tier.of op = tier → ¬ goesOn op.lexeme) :
    Reads levels (Grammar.chain tier operand) (Chain tier lang)
      (fun l => goesOn l ∨ ∃ op, l = op.lexeme ∧ Tier.of op = tier) where
  sound := by
    intro ls rest e hr
    obtain ⟨first, mid, hf, hr⟩ := run_bind_eq_ok.mp hr
    obtain ⟨more, left, hm, hp⟩ := run_bind_eq_ok.mp hr
    obtain ⟨rfl, rfl⟩ := run_pure_eq_ok.mp hp
    obtain ⟨front, rfl, hfront⟩ := h.sound hf
    obtain ⟨back, rfl, hback⟩ := sound_marked h hm
    exact ⟨front ++ back, (List.append_assoc ..).symm, (Chain.operand hfront).grouped hback⟩
  complete := by
    intro used rest e hc hr
    obtain ⟨fs, ms, first, more, rfl, hf, hs, rfl⟩ := hc.exists_grouped
    have hmark : ∀ l op, tier.operator? l = some op → ¬ goesOn l := by
      intro l op hl
      obtain ⟨rfl, ht⟩ := Tier.operator?_eq_some.mp hl
      exact apart op ht
    have hstop : Stops (fun l => goesOn l ∨ (tier.operator? l).isSome) rest := by
      refine hr.mono fun l hl => hl.imp_right fun hm => ?_
      obtain ⟨op, hop⟩ := Option.isSome_iff_exists.mp hm
      exact ⟨op, Tier.operator?_eq_some.mp hop⟩
    have hfirst := stops_append_marked hmark hs (hr.mono fun _ => .inl)
    rw [List.append_assoc]
    refine run_bind_eq_ok.mpr ⟨first, _, h.complete hf hfirst, ?_⟩
    exact run_bind_eq_ok.mpr ⟨more, rest, complete_marked h hmark hs hstop, rfl⟩

end Reads

theorem not_factorGoesOn_lexeme (op : BinaryOp) : ¬ FactorGoesOn op.lexeme := by
  rintro (h | ⟨step, h⟩)
  · cases op <;> cases h
  · exact step.lexeme_ne_binary op h.symm

theorem BinaryOp.eq_of_lexeme_eq {a b : BinaryOp} (h : a.lexeme = b.lexeme) : a = b := by
  have hb := BinaryOp.ofLexeme?_eq_some.mpr h
  rw [BinaryOp.ofLexeme?_eq_some.mpr rfl] at hb
  exact Option.some.inj hb

/-- Lexemes that are neither operators nor open a parenthesis end an expression. -/
theorem not_exprGoesOn {l : Lexeme} (hk : l.kind ≠ .operator) (hl : l ≠ .openParen) :
    ¬ ExprGoesOn l := by
  rintro ((h | ⟨op, rfl⟩) | ⟨op, rfl⟩)
  · exact hl h
  · exact hk rfl
  · exact hk rfl

theorem Reads.expr {levels : Nat} {lang : Phrases Expr}
    (h : Reads levels factor lang FactorGoesOn) :
    Reads levels Grammar.expr (ExpressionOf lang) ExprGoesOn := by
  have products := h.chain .product fun op _ => not_factorGoesOn_lexeme op
  have sums := products.chain .sum fun op ht hg => by
    rcases hg with hf | ⟨other, same, hp⟩
    · exact not_factorGoesOn_lexeme op hf
    · rw [BinaryOp.eq_of_lexeme_eq same, hp] at ht
      cases ht
  have comparisons := sums.chain .comparison fun op ht hg => by
    rcases hg with (hf | ⟨other, same, hp⟩) | ⟨other, same, hp⟩
    · exact not_factorGoesOn_lexeme op hf
    · rw [BinaryOp.eq_of_lexeme_eq same, hp] at ht
      cases ht
    · rw [BinaryOp.eq_of_lexeme_eq same, hp] at ht
      cases ht
  refine comparisons.weaken fun l hl => ?_
  rcases hl with ((hf | ⟨op, hop, _⟩) | ⟨op, hop, _⟩) | ⟨op, hop, _⟩
  · exact .inl hf
  · exact .inr ⟨op, hop⟩
  · exact .inr ⟨op, hop⟩
  · exact .inr ⟨op, hop⟩

/-! ### First lexemes -/

/-- Every phrase starts with a lexeme that ends neither a list nor a statement, so
    one look tells it from a missing phrase. -/
def Opens {α : Type} (lang : Phrases α) : Prop :=
  ∀ ls a, lang ls a → ∃ l ms, ls = l :: ms ∧ l ≠ .closeParen ∧ l ≠ .semicolon

theorem Opens.chain {tier : Tier} {operand : Phrases Expr} (h : Opens operand) :
    Opens (Chain tier operand) := by
  intro ls e hc
  induction hc with
  | operand he => exact h _ _ he
  | binary _ _ _ ih =>
      obtain ⟨l, ms, rfl, hl⟩ := ih
      exact ⟨l, _, rfl, hl⟩

theorem Opens.exprOf {factor : Phrases Expr} (h : Opens factor) : Opens (ExpressionOf factor) :=
  h.chain.chain.chain

theorem Opens.separated {α : Type} {item : Phrases α} (h : Opens item) :
    Opens (Separated item) := by
  intro ls as hs
  cases hs with
  | cons hi _ =>
      obtain ⟨l, ms, rfl, hl⟩ := h _ _ hi
      exact ⟨l, _, rfl, hl⟩

theorem opens_factorOver (inner : Option (Phrases Expr)) : Opens (FactorOver inner) := by
  intro ls e hf
  cases hf with
  | number | float | string | name | stepAfter | stepBefore | call | negate =>
      exact ⟨_, _, rfl, nofun, nofun⟩
  | group => exact ⟨_, _, rfl, by decide, by decide⟩

theorem Derives.Arguments.exists_cons {expr : Phrases Expr} {ls : List Lexeme} {args : List Expr}
    (h : Arguments expr ls args) : ∃ ms, ls = .openParen :: ms := by
  cases h with
  | none => exact ⟨_, rfl⟩
  | some => exact ⟨_, rfl⟩

/-! ### Factors -/

theorem Reads.arguments {levels : Nat} {lang : Phrases Expr}
    (h : Reads levels Grammar.expr lang ExprGoesOn) (opens : Opens lang) :
    Reads levels Grammar.arguments (Arguments lang) Nothing where
  sound := by
    intro ls rest args hr
    obtain ⟨mid, rfl, hargs⟩ := run_lexeme_bind_eq_ok.mp hr
    rw [run_peek_bind] at hargs
    dsimp only at hargs
    split at hargs
    · obtain ⟨args', mid', ha, hclose⟩ := run_bind_eq_ok.mp hargs
      obtain ⟨rfl, rfl⟩ := run_lexeme_pure_eq_ok.mp hclose
      obtain ⟨rfl, rfl⟩ := run_pure_eq_ok.mp ha
      exact ⟨[.openParen, .closeParen], rfl, .none⟩
    · obtain ⟨args', mid', ha, hclose⟩ := run_bind_eq_ok.mp hargs
      obtain ⟨rfl, rfl⟩ := run_lexeme_pure_eq_ok.mp hclose
      have comma := h.commaSeparated (not_exprGoesOn (by decide) (by decide))
      obtain ⟨used, rfl, hs⟩ := comma.sound ha
      exact ⟨.openParen :: used ++ [.closeParen], by simp, .some hs⟩
  complete := by
    intro used rest args ha _
    have comma := h.commaSeparated (not_exprGoesOn (by decide) (by decide))
    cases ha with
    | none => simp [Grammar.arguments]
    | @some ls args hs =>
        have hstop : Stops (fun l => ExprGoesOn l ∨ l = .comma) (.closeParen :: rest) := by
          rw [stops_cons]
          rintro (hg | hg)
          · exact not_exprGoesOn (by decide) (by decide) hg
          · exact absurd hg (by decide)
        have hrun := comma.complete hs hstop
        obtain ⟨l, ms, rfl, hl, _⟩ := opens.separated _ _ hs
        simp only [List.cons_append, List.append_assoc, List.nil_append] at hrun ⊢
        simp [Grammar.arguments, hl, hrun]

namespace Grammar

variable {levels : Nat} {ls rest : List Lexeme} {e : Expr}

theorem run_group_eq_ok :
    group.run levels ls = .ok (e, rest) ↔
      ∃ k, levels = k + 1 ∧ expr.run k ls = .ok (e, .closeParen :: rest) := by
  rw [group, run_bind_eq_ok]
  constructor
  · rintro ⟨e', mid, hn, hclose⟩
    obtain ⟨rfl, rfl⟩ := run_lexeme_pure_eq_ok.mp hclose
    exact run_nested_eq_ok.mp hn
  · intro h
    exact ⟨e, _, run_nested_eq_ok.mpr h, run_lexeme_pure_eq_ok.mpr ⟨rfl, rfl⟩⟩

theorem run_named_call {name : String} {ms : List Lexeme} :
    (named name).run levels (.openParen :: ms) = .ok (e, rest) ↔
      ∃ k args, levels = k + 1 ∧ arguments.run k (.openParen :: ms) = .ok (args, rest) ∧
        e = .call name args := by
  have hrun : (named name).run levels (.openParen :: ms) =
      (nested .arguments >>= fun args => pure (.call name args) : Rule Expr).run levels
        (.openParen :: ms) := by
    rw [named, run_peek_bind, List.getElem?_cons_zero, if_pos rfl]
  rw [hrun, run_bind_eq_ok]
  constructor
  · rintro ⟨args, mid, hn, hp⟩
    obtain ⟨rfl, rfl⟩ := run_pure_eq_ok.mp hp
    obtain ⟨k, rfl, hargs⟩ := run_nested_eq_ok.mp hn
    exact ⟨k, args, rfl, hargs, rfl⟩
  · rintro ⟨k, args, rfl, hargs, rfl⟩
    exact ⟨args, rest, run_nested_eq_ok.mpr ⟨k, rfl, hargs⟩, rfl⟩

theorem run_named_step {name : String} (op : StepOp) (ms : List Lexeme) :
    (named name).run levels (op.lexeme :: ms) = .ok (.step op name, ms) := by
  cases op <;> rfl

theorem run_named_stops {name : String} (h : Stops FactorGoesOn ls) :
    (named name).run levels ls = .ok (.name name, ls) := by
  cases ls with
  | nil => rfl
  | cons l ms =>
      have hl := stops_cons.mp h
      have hopen : l ≠ .openParen := fun same => hl (.inl same)
      have hstep : StepOp.ofLexeme? l = none := by
        cases ho : StepOp.ofLexeme? l with
        | none => rfl
        | some op => exact absurd (.inr ⟨op, StepOp.ofLexeme?_eq_some.mp ho⟩) hl
      simp [named, hopen, hstep]

/-- What a name at the front of a factor can be the start of. -/
theorem named_cases (ls : List Lexeme) :
    (∃ ms, ls = .openParen :: ms) ∨ (∃ op ms, ls = StepOp.lexeme op :: ms) ∨
      Stops FactorGoesOn ls := by
  cases ls with
  | nil => exact .inr (.inr (stops_nil _))
  | cons l ms =>
      by_cases hl : FactorGoesOn l
      · rcases hl with rfl | ⟨op, rfl⟩
        · exact .inl ⟨ms, rfl⟩
        · exact .inr (.inl ⟨op, ms, rfl⟩)
      · exact .inr (.inr (stops_cons.mpr hl))

end Grammar

/-- What is one level deeper, if there is such a level. -/
inductive Below {γ : Type} (related : Nat → γ → Prop) : Nat → Option γ → Prop where
  | none : Below related 0 none
  | some {levels c} : related levels c → Below related (levels + 1) (some c)

/-- The factors one level deeper are read as they are derived. -/
abbrev ReadsFactors : Nat → Option (Phrases Expr) → Prop :=
  Below fun levels lang => Reads levels factor lang FactorGoesOn ∧ Opens lang

section Factors

variable {levels : Nat} {inner : Option (Phrases Expr)} (h : ReadsFactors levels inner)

include h

theorem sound_factor {ls rest : List Lexeme} {e : Expr}
    (hr : factor.run levels ls = .ok (e, rest)) :
    ∃ used, ls = used ++ rest ∧ FactorOver inner used e := by
  obtain ⟨⟨kind, text⟩, ms, r, rfl, hc, hp⟩ := run_first_eq_ok.mp hr
  cases kind with
  | keyword | shift | directive => cases hc
  | number =>
      cases hc
      cases hp
      exact ⟨_, rfl, .number⟩
  | float =>
      cases hc
      cases hp
      exact ⟨_, rfl, .float⟩
  | string =>
      cases hc
      cases hp
      exact ⟨_, rfl, .string⟩
  | identifier =>
      cases hc
      rcases named_cases ms with ⟨ns, rfl⟩ | ⟨op, ns, rfl⟩ | hs
      · obtain ⟨k, args, rfl, hargs, rfl⟩ := run_named_call.mp hp
        cases h with
        | some hinner =>
            obtain ⟨used, hused, ha⟩ := (hinner.1.expr.arguments hinner.2.exprOf).sound hargs
            exact ⟨_ :: used, by rw [hused]; rfl, .call ha⟩
      · rw [run_named_step] at hp
        cases hp
        exact ⟨[_, _], rfl, .stepAfter⟩
      · rw [run_named_stops hs] at hp
        cases hp
        exact ⟨[_], rfl, .name⟩
  | operator =>
      simp only [factorAfter] at hc
      split at hc
      · rename_i op hop
        cases hc
        obtain ⟨name, ns, rfl, hend⟩ := run_identifier_bind_eq_ok.mp hp
        obtain ⟨rfl, rfl⟩ := run_pure_eq_ok.mp hend
        rw [StepOp.ofLexeme?_eq_some.mp hop]
        exact ⟨[_, _], rfl, .stepBefore⟩
      · split at hc
        · rename_i same
          cases hc
          obtain ⟨e, mid, hn, hp⟩ := run_bind_eq_ok.mp hp
          obtain ⟨rfl, rfl⟩ := run_pure_eq_ok.mp hp
          obtain ⟨k, rfl, hrun⟩ := run_nested_eq_ok.mp hn
          cases h with
          | some hinner =>
              obtain ⟨used, rfl, hu⟩ := hinner.1.sound hrun
              exact ⟨_ :: used, by rw [same]; rfl, .negate hu⟩
        · cases hc
  | delimiter =>
      simp only [factorAfter] at hc
      split at hc
      · rename_i same
        cases hc
        obtain ⟨k, rfl, hrun⟩ := run_group_eq_ok.mp hp
        cases h with
        | some hinner =>
            obtain ⟨used, rfl, hu⟩ := hinner.1.expr.sound hrun
            exact ⟨.openParen :: used ++ [.closeParen], by rw [same]; simp, .group hu⟩
      · cases hc

theorem complete_factor {used rest : List Lexeme} {e : Expr} (hf : FactorOver inner used e)
    (hr : Stops FactorGoesOn rest) : factor.run levels (used ++ rest) = .ok (e, rest) := by
  cases hf with
  | number | float | string => rfl
  | name => exact run_first_eq_ok.mpr ⟨_, _, _, rfl, rfl, run_named_stops hr⟩
  | stepAfter => exact run_first_eq_ok.mpr ⟨_, _, _, rfl, rfl, run_named_step _ _⟩
  | @stepBefore _ name op =>
      have hrun : (do return Expr.step op (← identifier .identifierAfterStep) : Rule Expr).run
          levels (.identifier name :: rest) = .ok (.step op name, rest) :=
        run_bind_eq_ok.mpr ⟨name, rest, run_identifier_cons .., rfl⟩
      cases op <;> exact run_first_eq_ok.mpr ⟨_, _, _, rfl, rfl, hrun⟩
  | @call _ name ls args ha =>
      cases h with
      | some hinner =>
          have hrun := (hinner.1.expr.arguments hinner.2.exprOf).complete ha (stops_nothing rest)
          obtain ⟨ms, rfl⟩ := ha.exists_cons
          refine run_first_eq_ok.mpr ⟨_, _, _, rfl, rfl, ?_⟩
          exact run_named_call.mpr ⟨_, args, rfl, hrun, rfl⟩
  | negate hu =>
      cases h with
      | some hinner =>
          refine run_first_eq_ok.mpr ⟨_, _, _, rfl, rfl, ?_⟩
          exact run_bind_eq_ok.mpr ⟨_, rest, hinner.1.complete hu hr, rfl⟩
  | @group _ ls e hu =>
      cases h with
      | some hinner =>
          have hclose : Stops ExprGoesOn (.closeParen :: rest) :=
            stops_cons.mpr (not_exprGoesOn (by decide) (by decide))
          have hrun := hinner.1.expr.complete hu hclose
          exact run_first_eq_ok.mpr
            ⟨.openParen, ls ++ .closeParen :: rest, _, by simp, rfl,
              run_group_eq_ok.mpr ⟨_, rfl, hrun⟩⟩

end Factors

theorem reads_factor (levels : Nat) : Reads levels factor (Factor levels) FactorGoesOn := by
  induction levels with
  | zero => exact ⟨sound_factor .none, complete_factor .none⟩
  | succ levels ih =>
      have opens : Opens (Factor levels) := by
        cases levels <;> exact opens_factorOver _
      exact ⟨sound_factor (.some ⟨ih, opens⟩), complete_factor (.some ⟨ih, opens⟩)⟩

theorem reads_expr (levels : Nat) : Reads levels expr (Expression levels) ExprGoesOn :=
  (reads_factor levels).expr

theorem opens_expression (levels : Nat) : Opens (Expression levels) := by
  cases levels <;> exact (opens_factorOver _).exprOf

end CppToPython
