import CppToPython.Proofs.Grammar.Derivation

/-! # More levels

With more levels left, all that was derived before is still derived. So the grammar
without a limit is that of all levels together.
-/

namespace CppToPython.Derives

/-- All phrases of one sort are phrases of another. -/
def Within {α : Type} (lang lang' : Phrases α) : Prop := ∀ ⦃ls a⦄, lang ls a → lang' ls a

section Repetition

variable {α : Type} {item item' : Phrases α} (h : Within item item')

include h

theorem Optional.mono : Within (Optional item) (Optional item') := by
  intro ls a hd
  cases hd with
  | missing => exact .missing
  | present hi => exact .present (h hi)

theorem Sequence.mono : Within (Sequence item) (Sequence item') := by
  intro ls as hd
  induction hd with
  | nil => exact .nil
  | cons hi _ ih => exact .cons (h hi) ih

theorem After.mono (mark : Lexeme) : Within (After mark item) (After mark item') := by
  intro ls as hd
  induction hd with
  | nil => exact .nil
  | cons hi _ ih => exact .cons (h hi) ih

theorem Separated.mono : Within (Separated item) (Separated item') := by
  intro ls as hd
  cases hd with
  | cons hi hafter => exact .cons (h hi) (After.mono h _ hafter)

end Repetition

/-! ### Expressions -/

section Expressions

variable {lang lang' : Phrases Expr} (h : Within lang lang')

include h

theorem Chain.mono (tier : Grammar.Tier) : Within (Chain tier lang) (Chain tier lang') := by
  intro ls e hd
  induction hd with
  | operand ho => exact .operand (h ho)
  | binary _ hop ho ih => exact .binary ih hop (h ho)

theorem ExpressionOf.mono : Within (ExpressionOf lang) (ExpressionOf lang') :=
  Chain.mono (Chain.mono (Chain.mono h _) _) _

theorem Arguments.mono : Within (Arguments lang) (Arguments lang') := by
  intro ls args hd
  cases hd with
  | none => exact .none
  | some hs => exact .some (Separated.mono h hs)

theorem FactorOver.mono : Within (FactorOver (some lang)) (FactorOver (some lang')) := by
  intro ls e hd
  cases hd with
  | number => exact .number
  | float => exact .float
  | string => exact .string
  | name => exact .name
  | stepAfter => exact .stepAfter
  | stepBefore => exact .stepBefore
  | call ha => exact .call (Arguments.mono (ExpressionOf.mono h) ha)
  | negate hi => exact .negate (h hi)
  | group he => exact .group (ExpressionOf.mono h he)

omit h in
theorem FactorOver.of_none : Within (FactorOver none) (FactorOver (some lang)) := by
  intro ls e hd
  cases hd with
  | number => exact .number
  | float => exact .float
  | string => exact .string
  | name => exact .name
  | stepAfter => exact .stepAfter
  | stepBefore => exact .stepBefore

end Expressions

theorem Factor.succ (levels : Nat) : Within (Factor levels) (Factor (levels + 1)) := by
  induction levels with
  | zero => exact FactorOver.of_none
  | succ levels ih => exact FactorOver.mono ih

theorem Expression.succ (levels : Nat) : Within (Expression levels) (Expression (levels + 1)) :=
  ExpressionOf.mono (Factor.succ levels)

/-! ### Parts of statements -/

section Parts

variable {lang lang' : Phrases Expr} (h : Within lang lang')

include h

theorem Declared.mono : Within (Declared lang) (Declared lang') := by
  intro ls d hd
  cases hd with
  | plain => exact .plain
  | valued he => exact .valued (h he)

theorem Assigned.mono : Within (Assigned lang) (Assigned lang') := by
  intro ls a hd
  cases hd with
  | mk he => exact .mk (h he)

theorem Init.mono : Within (Init lang) (Init lang') := by
  intro ls i hd
  cases hd with
  | declare hd => exact .declare (Declared.mono h hd)
  | assign ha => exact .assign (Assigned.mono h ha)

theorem Update.mono : Within (Update lang) (Update lang') := by
  intro ls u hd
  cases hd with
  | stepAfter => exact .stepAfter
  | stepBefore => exact .stepBefore
  | assign ha => exact .assign (Assigned.mono h ha)
  | evaluate he hstep => exact .evaluate (h he) hstep

theorem Head.mono : Within (Head lang) (Head lang') := by
  intro ls head hd
  cases hd with
  | mk hi hc hu =>
      exact .mk (Optional.mono (Init.mono h) hi) (Optional.mono h hc)
        (Optional.mono (Update.mono h) hu)

end Parts

/-! ### Statements -/

/-- What can stand one level deeper can do so in another way too. -/
inductive InnerWithin : Option Inner → Option Inner → Prop where
  | none {inner} : InnerWithin none inner
  | some {inner inner'} :
      Within inner.statements inner'.statements → Within inner.conditional inner'.conditional →
        InnerWithin (some inner) (some inner')

section Statements

variable {lang lang' : Phrases Expr} {inner inner' : Option Inner} (h : Within lang lang')
  (hi : InnerWithin inner inner')

include hi

theorem Block.mono : Within (Block inner) (Block inner') := by
  intro ls stmts hd
  cases hd with
  | braces hs =>
      cases hi with
      | some hstatements _ => exact .braces (hstatements hs)

theorem Alternative.mono : Within (Alternative inner) (Alternative inner') := by
  intro ls otherwise hd
  cases hd with
  | nothing => exact .nothing
  | block hb => exact .block (Block.mono hi hb)
  | elseIf hc =>
      cases hi with
      | some _ hconditional => exact .elseIf (hconditional hc)

include h

theorem Conditional.mono : Within (Conditional lang inner) (Conditional lang' inner') := by
  intro ls c hd
  cases hd with
  | mk hc hb ha => exact .mk (h hc) (Block.mono hi hb) (Alternative.mono hi ha)

theorem Statement.mono : Within (Statement lang inner) (Statement lang' inner') := by
  intro ls stmt hd
  cases hd with
  | directive => exact .directive
  | usingNamespace => exact .usingNamespace
  | function hp hb => exact .function hp (Block.mono hi hb)
  | declare hd => exact .declare (Declared.mono h hd)
  | conditional hc => exact .conditional (Conditional.mono h hi hc)
  | forLoop hhead hb => exact .forLoop (Head.mono h hhead) (Block.mono hi hb)
  | whileLoop hc hb => exact .whileLoop (h hc) (Block.mono hi hb)
  | result hv => exact .result (Optional.mono h hv)
  | output hv => exact .output (After.mono h _ hv)
  | input ht => exact .input ht
  | call hname ha => exact .call hname (Arguments.mono h ha)
  | stepAfter hname => exact .stepAfter hname
  | stepBefore => exact .stepBefore
  | assign hname ha => exact .assign hname (Assigned.mono h ha)

theorem Statements.mono : Within (Statements lang inner) (Statements lang' inner') := by
  intro ls stmts hd
  cases hd with
  | mk hs => exact .mk (Sequence.mono (Statement.mono h hi) hs)

end Statements

theorem deeper_succ (levels : Nat) : InnerWithin (deeper levels) (deeper (levels + 1)) := by
  induction levels with
  | zero => exact .none
  | succ levels ih =>
      exact .some (Statements.mono (Expression.succ levels) ih)
        (Conditional.mono (Expression.succ levels) ih)

theorem Program.mono {m n : Nat} (h : m ≤ n) : Within (Program m) (Program n) := by
  induction h with
  | refl => exact fun _ _ hp => hp
  | step _ ih => exact fun _ _ hp => Statements.mono (Expression.succ _) (deeper_succ _) (ih hp)

end CppToPython.Derives
