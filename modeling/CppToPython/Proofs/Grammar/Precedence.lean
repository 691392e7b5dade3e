import CppToPython.Proofs.Grammar.Acceptance

/-! # Precedence

An expression without parentheses is a row of operands with operators between them, and what tree
it is depends on how tightly the operators bind. The grammar has three tiers for that. C++ has one
more, since its `==` and `!=` bind looser than the other comparisons, so the two disagree where
such a comparison stands somewhere after a `==` or `!=`.
-/

namespace CppToPython

open Derives Grammar

/-! ### Rows -/

/-- An operand that is a single lexeme. -/
inductive Operand where
  | name (text : String)
  | number (text : String)
  | float (text : String)

namespace Operand

def lexeme : Operand → Lexeme
  | name text => .identifier text
  | number text => ⟨.number, text⟩
  | float text => ⟨.float, text⟩

def expr : Operand → Expr
  | name text => .name text
  | number text | float text => .number text

end Operand

/-- Operands with operators between them. -/
structure Row where
  first : Operand
  more : List (BinaryOp × Operand)

namespace Row

def lexemes (r : Row) : List Lexeme :=
  r.first.lexeme :: r.more.flatMap fun (op, a) => [op.lexeme, a.lexeme]

def ops (r : Row) : List BinaryOp := r.more.map Prod.fst

def join (r : Row) (op : BinaryOp) (s : Row) : Row := ⟨r.first, r.more ++ (op, s.first) :: s.more⟩

variable (r s : Row) (op : BinaryOp)

@[simp]
theorem lexemes_join : (r.join op s).lexemes = r.lexemes ++ op.lexeme :: s.lexemes := by
  simp [lexemes, join]

@[simp]
theorem ops_join : (r.join op s).ops = r.ops ++ op :: s.ops := by
  simp [ops, join]

end Row

/-! ### Trees of rows -/

/-- The tree of a row by a table that says how tightly operators bind: the operator at the root is
    the last of those that bind least, so operators that bind alike group to the left. -/
inductive Groups (binding : BinaryOp → Nat) : Row → Expr → Prop where
  | operand {a} : Groups binding ⟨a, []⟩ a.expr
  | binary {r s left op right} :
      Groups binding r left → Groups binding s right →
      (∀ o ∈ r.ops, binding op ≤ binding o) → (∀ o ∈ s.ops, binding op < binding o) →
        Groups binding (r.join op s) (.binary left op right)

/-- How tightly the operators bind in the grammar. -/
def BinaryOp.tightness : BinaryOp → Nat
  | mul | div | mod => 2
  | add | sub => 1
  | lt | gt | le | ge | eq | ne => 0

/-- How tightly the operators bind in C++. -/
def BinaryOp.cppTightness : BinaryOp → Nat
  | mul | div | mod => 3
  | add | sub => 2
  | lt | gt | le | ge => 1
  | eq | ne => 0

/-- The comparisons that C++ lets bind least. -/
def BinaryOp.IsEquality (op : BinaryOp) : Prop := op = eq ∨ op = ne

def BinaryOp.IsRelational (op : BinaryOp) : Prop := op = lt ∨ op = gt ∨ op = le ∨ op = ge

def Expr.operators : Expr → List BinaryOp
  | .binary left op right => left.operators ++ op :: right.operators
  | .number _ | .string _ | .name _ | .step _ _ | .call _ _ | .negate _ => []

section Groups

variable {binding : BinaryOp → Nat}

/-- The last of the least values of a function on a list. -/
theorem exists_last_least {α : Type} (f : α → Nat) {as : List α} (h : as ≠ []) :
    ∃ front a back, as = front ++ a :: back ∧ (∀ b ∈ front, f a ≤ f b) ∧ ∀ b ∈ back, f a < f b := by
  induction as with
  | nil => exact absurd rfl h
  | cons a as ih =>
      by_cases hnil : as = []
      · exact ⟨[], a, as, rfl, by simp, by simp [hnil]⟩
      obtain ⟨front, least, back, rfl, hfront, hback⟩ := ih hnil
      by_cases hle : f least ≤ f a
      · refine ⟨a :: front, least, back, rfl, ?_, hback⟩
        simpa using ⟨hle, hfront⟩
      · refine ⟨[], a, _, rfl, by simp, ?_⟩
        intro b hb
        have hleast : f least ≤ f b := by
          rcases List.mem_append.mp hb with hb | hb
          · exact hfront b hb
          · rcases List.mem_cons.mp hb with rfl | hb
            · exact Nat.le_refl _
            · exact Nat.le_of_lt (hback b hb)
        omega

/-- Every row has a tree, whatever the table is. -/
theorem exists_groups (binding : BinaryOp → Nat) (first : Operand)
    (more : List (BinaryOp × Operand)) : ∃ e, Groups binding ⟨first, more⟩ e := by
  by_cases hnil : more = []
  · subst hnil
    exact ⟨first.expr, .operand⟩
  obtain ⟨front, ⟨op, next⟩, back, hmore, hfront, hback⟩ :=
    exists_last_least (fun pair : BinaryOp × Operand => binding pair.1) hnil
  obtain ⟨left, hleft⟩ := exists_groups binding first front
  obtain ⟨right, hright⟩ := exists_groups binding next back
  refine ⟨.binary left op right, ?_⟩
  rw [hmore]
  apply Groups.binary hleft hright
  · simpa [Row.ops] using fun o a hmem => hfront (o, a) hmem
  · simpa [Row.ops] using fun o a hmem => hback (o, a) hmem
termination_by more.length
decreasing_by
  all_goals
    simp only [hmore, List.length_append, List.length_cons]
    omega

/-- Of two places at which a row can be cut, so that the operator there is the root, none is before
    the other. -/
theorem eq_nil_of_roots {x x' : BinaryOp × Operand}
    {front between back back' : List (BinaryOp × Operand)}
    (h : x :: back = between ++ x' :: back') (hback : ∀ y ∈ back, binding x.1 < binding y.1)
    (hfront : ∀ y ∈ front ++ between, binding x'.1 ≤ binding y.1) : between = [] := by
  cases between with
  | nil => rfl
  | cons y between =>
      cases h
      have hlt := hback x' (by simp)
      have hle := hfront x (by simp)
      omega

theorem Row.join_inj {r s r' s' : Row} {op op' : BinaryOp} (h : r.join op s = r'.join op' s')
    (hr : ∀ o ∈ r.ops, binding op ≤ binding o) (hs : ∀ o ∈ s.ops, binding op < binding o)
    (hr' : ∀ o ∈ r'.ops, binding op' ≤ binding o) (hs' : ∀ o ∈ s'.ops, binding op' < binding o) :
    r = r' ∧ op = op' ∧ s = s' := by
  obtain ⟨first, front⟩ := r
  obtain ⟨next, back⟩ := s
  obtain ⟨first', front'⟩ := r'
  obtain ⟨next', back'⟩ := s'
  simp only [ops, List.forall_mem_map] at hr hs hr' hs'
  simp only [join, mk.injEq] at h
  obtain ⟨rfl, hmore⟩ := h
  rcases List.append_eq_append_iff.mp hmore with ⟨between, rfl, hrest⟩ | ⟨between, rfl, hrest⟩
  · obtain rfl := eq_nil_of_roots hrest hs hr'
    cases hrest
    exact ⟨by rw [List.append_nil], rfl, rfl⟩
  · obtain rfl := eq_nil_of_roots hrest hs' hr
    cases hrest
    exact ⟨by rw [List.append_nil], rfl, rfl⟩

theorem Groups.unique {r : Row} {e d : Expr} (he : Groups binding r e) (hd : Groups binding r d) :
    e = d := by
  induction he generalizing d with
  | @operand a =>
      generalize hrow : Row.mk a [] = row at hd
      cases hd with
      | operand =>
          cases hrow
          rfl
      | binary => simp [Row.join] at hrow
  | @binary r s left op right _ _ hr hs ihleft ihright =>
      generalize hrow : r.join op s = row at hd
      cases hd with
      | operand => simp [Row.join] at hrow
      | binary hleft hright hr' hs' =>
          obtain ⟨rfl, rfl, rfl⟩ := Row.join_inj hrow hr hs hr' hs'
          rw [ihleft hleft, ihright hright]

theorem Groups.ops_eq {r : Row} {e : Expr} (h : Groups binding r e) : r.ops = e.operators := by
  induction h with
  | @operand a => cases a <;> rfl
  | binary _ _ _ _ ihleft ihright => rw [Row.ops_join, ihleft, ihright, Expr.operators]

end Groups

/-! ### The grammar -/

/-- The phrases of the grammar in which all operators bind at least as tightly as a number says. -/
def TightPhrases (factor : Phrases Expr) : Nat → Phrases Expr
  | 0 => ExpressionOf factor
  | 1 => Chain .sum (Chain .product factor)
  | 2 => Chain .product factor
  | _ + 3 => factor

namespace TightPhrases

variable {factor : Phrases Expr} {ls ms : List Lexeme} {left right e : Expr}

theorem looser {m n : Nat} (hle : m ≤ n) (h : TightPhrases factor n ls e) :
    TightPhrases factor m ls e := by
  induction hle with
  | refl => exact h
  | @step n _ ih =>
      apply ih
      match n with
      | 0 | 1 | 2 => exact .operand h
      | _ + 3 => exact h

theorem binary {op : BinaryOp} (hleft : TightPhrases factor op.tightness ls left)
    (hright : TightPhrases factor (op.tightness + 1) ms right) :
    TightPhrases factor op.tightness (ls ++ op.lexeme :: ms) (.binary left op right) := by
  cases op with
  | mul | div | mod => exact Chain.binary hleft rfl hright
  | add | sub => exact Chain.binary hleft rfl hright
  | lt | gt | le | ge | eq | ne => exact Chain.binary hleft rfl hright

end TightPhrases

theorem Groups.tightPhrases {factor : Phrases Expr}
    (hfactor : ∀ a : Operand, factor [a.lexeme] a.expr) {r : Row} {e : Expr}
    (h : Groups BinaryOp.tightness r e) {n : Nat} (hn : ∀ o ∈ r.ops, n ≤ o.tightness) :
    TightPhrases factor n r.lexemes e := by
  induction h generalizing n with
  | @operand a => exact TightPhrases.looser (Nat.le_add_right n 3) (hfactor a)
  | @binary r s left op right _ _ hr hs ihleft ihright =>
      rw [Row.lexemes_join]
      rw [Row.ops_join] at hn
      exact (TightPhrases.binary (ihleft hr) (ihright hs)).looser (hn op (by simp))

theorem factor_operand (levels : Nat) (a : Operand) : Factor levels [a.lexeme] a.expr := by
  cases levels <;> cases a
  all_goals constructor

/-- A row is read to its end, and its tree is the one by the tiers of the grammar. -/
theorem run_expr_of_groups (levels : Nat) {r : Row} {e : Expr}
    (h : Groups BinaryOp.tightness r e) {tokens : List Token}
    (htokens : tokens.map Token.toLexeme = r.lexemes) : expr.run levels tokens = .ok (e, []) := by
  have hphrase : Expression levels r.lexemes e :=
    h.tightPhrases (factor_operand levels) fun o _ => Nat.zero_le o.tightness
  rw [← htokens] at hphrase
  exact run_expr_eq_ok hphrase

/-! ### C++ -/

namespace BinaryOp

variable (op : BinaryOp)

theorem isEquality_iff : op.IsEquality ↔ op.cppTightness = 0 := by
  cases op <;> simp [IsEquality, cppTightness]

theorem isRelational_iff : op.IsRelational ↔ op.cppTightness = 1 := by
  cases op <;> simp [IsRelational, cppTightness]

/-- The grammar puts the two loosest tiers of C++ together. -/
theorem tightness_eq : op.tightness = op.cppTightness - 1 := by
  cases op <;> rfl

end BinaryOp

/-- No comparison by size stands after one for equality. -/
def Row.RelationsFirst (r : Row) : Prop :=
  r.ops.Pairwise fun a b => a.IsEquality → ¬ b.IsRelational

theorem Row.relationsFirst_join {r s : Row} {op : BinaryOp} :
    (r.join op s).RelationsFirst ↔
      r.RelationsFirst ∧ s.RelationsFirst ∧
        (∀ a ∈ r.ops, a.IsEquality → ¬ op.IsRelational) ∧
        (∀ b ∈ s.ops, op.IsEquality → ¬ b.IsRelational) ∧
        ∀ a ∈ r.ops, ∀ b ∈ s.ops, a.IsEquality → ¬ b.IsRelational := by
  simp only [RelationsFirst, ops_join, List.pairwise_append, List.pairwise_cons, List.mem_cons]
  grind

theorem Groups.cpp {r : Row} {e : Expr} (h : Groups BinaryOp.tightness r e)
    (hrow : r.RelationsFirst) : Groups BinaryOp.cppTightness r e := by
  induction h with
  | operand => exact .operand
  | @binary r s left op right _ _ hr hs ihleft ihright =>
      obtain ⟨hfront, hback, hbefore, _, _⟩ := Row.relationsFirst_join.mp hrow
      simp only [BinaryOp.tightness_eq] at hr hs
      apply Groups.binary (ihleft hfront) (ihright hback)
      · intro o ho
        have hle := hr o ho
        have hops := hbefore o ho
        rw [BinaryOp.isEquality_iff, BinaryOp.isRelational_iff] at hops
        omega
      · intro o ho
        have hlt := hs o ho
        omega

/-- Where both tables give the same tree, a comparison for equality at the root has nothing but sums
    on its right. -/
theorem Groups.relationsFirst {r s : Row} {e : Expr} (h : Groups BinaryOp.tightness r e)
    (hcpp : Groups BinaryOp.cppTightness s e) : r.RelationsFirst := by
  induction h generalizing s with
  | operand => exact List.Pairwise.nil
  | @binary r₁ r₂ left op right hleft hright hr hs ihleft ihright =>
      generalize he : Expr.binary left op right = e at hcpp
      cases hcpp with
      | @operand a => cases a <;> cases he
      | @binary s₁ s₂ _ _ _ hleft' hright' hr' hs' =>
          cases he
          rw [hleft'.ops_eq, ← hleft.ops_eq] at hr'
          rw [hright'.ops_eq, ← hright.ops_eq] at hs'
          simp only [BinaryOp.tightness_eq] at hs
          refine Row.relationsFirst_join.mpr ⟨ihleft hleft', ihright hright', ?_, ?_, ?_⟩
          · intro a ha
            have hle := hr' a ha
            rw [BinaryOp.isEquality_iff, BinaryOp.isRelational_iff]
            omega
          · intro b hb
            have hlt := hs b hb
            rw [BinaryOp.isEquality_iff, BinaryOp.isRelational_iff]
            omega
          · intro a ha b hb
            have hle := hr' a ha
            have hlt := hs b hb
            rw [BinaryOp.isEquality_iff, BinaryOp.isRelational_iff]
            omega

/-- A row of operands is read to its end, as the one tree that has products below sums and sums
    below comparisons, all grouped to the left. It is the tree that C++ gives the row just if no
    comparison by size stands after one for equality. -/
theorem expr_groups_row (levels : Nat) (r : Row) :
    ∃ e, (∀ tokens, tokens.map Token.toLexeme = r.lexemes →
        expr.run levels tokens = .ok (e, [])) ∧
      (∀ d, Groups BinaryOp.tightness r d ↔ d = e) ∧
      (Groups BinaryOp.cppTightness r e ↔ r.RelationsFirst) := by
  obtain ⟨e, he⟩ := exists_groups BinaryOp.tightness r.first r.more
  refine ⟨e, fun _ => run_expr_of_groups levels he, ?_, he.relationsFirst, he.cpp⟩
  intro d
  constructor
  · intro hd
    exact hd.unique he
  · rintro rfl
    exact he

def Row.equalityThenRelation : Row := ⟨.name "a", [(.eq, .name "b"), (.lt, .name "c")]⟩

/-- Not every row is read as in C++: `a == b < c` is `a == (b < c)` there, and is read as
    `(a == b) < c`. -/
theorem not_expr_groups_cpp :
    Groups BinaryOp.cppTightness .equalityThenRelation
        (.binary (.name "a") .eq (.binary (.name "b") .lt (.name "c"))) ∧
      (∀ levels tokens, tokens.map Token.toLexeme = Row.equalityThenRelation.lexemes →
        expr.run levels tokens =
          .ok (.binary (.binary (.name "a") .eq (.name "b")) .lt (.name "c"), [])) ∧
      ¬ ∀ levels tokens r e, tokens.map Token.toLexeme = r.lexemes →
        Groups BinaryOp.cppTightness r e → expr.run levels tokens = .ok (e, []) := by
  have hcpp : Groups BinaryOp.cppTightness .equalityThenRelation
      (.binary (.name "a") .eq (.binary (.name "b") .lt (.name "c"))) := by
    refine .binary (r := ⟨.name "a", []⟩) (s := ⟨.name "b", [(.lt, .name "c")]⟩) .operand
      (.binary (r := ⟨.name "b", []⟩) (s := ⟨.name "c", []⟩) .operand .operand ?_ ?_) ?_ ?_
    all_goals simp [Row.ops, BinaryOp.cppTightness]
  have htiers : Groups BinaryOp.tightness .equalityThenRelation
      (.binary (.binary (.name "a") .eq (.name "b")) .lt (.name "c")) := by
    refine .binary (r := ⟨.name "a", [(.eq, .name "b")]⟩) (s := ⟨.name "c", []⟩)
      (.binary (r := ⟨.name "a", []⟩) (s := ⟨.name "b", []⟩) .operand .operand ?_ ?_)
      .operand ?_ ?_
    all_goals simp [Row.ops, BinaryOp.tightness]
  refine ⟨hcpp, fun levels _ => run_expr_of_groups levels htiers, ?_⟩
  intro h
  have htokens : (Row.equalityThenRelation.lexemes.map Symbol.token).map Token.toLexeme =
      Row.equalityThenRelation.lexemes := rfl
  have hsame := h 0 _ _ _ htokens hcpp
  rw [run_expr_of_groups 0 htiers htokens] at hsame
  cases hsame

end CppToPython
