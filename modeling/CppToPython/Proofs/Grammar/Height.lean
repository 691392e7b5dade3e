import CppToPython.Proofs.Grammar.Expressions

/-! # How high expressions grow

The levels that may be nested bound an expression in every direction but one. Each level adds an
operand on the right of up to three operators, an argument or a negated operand, but operators
of one tier group to the left without going a level deeper. So a tree is as high as its longest
chain of operators, times a bound that only depends on the levels.
-/

namespace CppToPython

/-! ### Heights -/

mutual
/-- The height of an expression, when a step down to the left operand of an operator counts
    `left` and every other step counts one. The variable of a step stands below it. -/
def Expr.heightBy (left : Nat) : Expr → Nat
  | .number _ | .string _ | .name _ => 0
  | .step _ _ => 1
  | .binary first _ second => max (first.heightBy left + left) (second.heightBy left + 1)
  | .call _ args => Expr.argsHeightBy left args
  | .negate operand => operand.heightBy left + 1

def Expr.argsHeightBy (left : Nat) : List Expr → Nat
  | [] => 0
  | e :: es => max (e.heightBy left + 1) (Expr.argsHeightBy left es)
end

namespace Expr

/-- The number of steps on the longest way down from the root of an expression. -/
def height (e : Expr) : Nat := e.heightBy 1

/-- The same, without the steps to left operands. -/
def nesting (e : Expr) : Nat := e.heightBy 0

/-- The number of steps from left operand to left operand, from the root on. -/
def leftRun : Expr → Nat
  | .binary first _ _ => first.leftRun + 1
  | _ => 0

end Expr

mutual
/-- The longest run of steps from left operand to left operand, from anywhere on. -/
def Expr.longestRun : Expr → Nat
  | .number _ | .string _ | .name _ | .step _ _ => 0
  | .binary first _ second => max (first.leftRun + 1) (max first.longestRun second.longestRun)
  | .call _ args => Expr.listLongestRun args
  | .negate operand => operand.longestRun

def Expr.listLongestRun : List Expr → Nat
  | [] => 0
  | e :: es => max e.longestRun (Expr.listLongestRun es)
end

theorem Expr.leftRun_le_longestRun (e : Expr) : e.leftRun ≤ e.longestRun := by
  cases e with
  | binary first op second => exact Nat.le_max_left _ _
  | number | string | name | step | call | negate => exact Nat.zero_le _

mutual
/-- Between two steps that count for the nesting, a way down goes along one run. -/
theorem Expr.height_le_of_longestRun (e : Expr) {run : Nat} (h : e.longestRun ≤ run) :
    e.height ≤ e.leftRun + e.nesting * (run + 1) := by
  cases e with
  | number | string | name => exact Nat.zero_le _
  | step => simp [height, nesting, heightBy, leftRun]
  | binary first op second =>
      simp only [longestRun, Nat.max_le] at h
      have hfirst := Expr.height_le_of_longestRun first h.2.1
      have hsecond := Expr.height_le_of_longestRun second h.2.2
      have hrun := second.leftRun_le_longestRun
      have hleft : first.nesting * (run + 1) ≤
          max first.nesting (second.nesting + 1) * (run + 1) :=
        Nat.mul_le_mul_right _ (Nat.le_max_left _ _)
      have hright : (second.nesting + 1) * (run + 1) ≤
          max first.nesting (second.nesting + 1) * (run + 1) :=
        Nat.mul_le_mul_right _ (Nat.le_max_right _ _)
      rw [Nat.succ_mul] at hright
      simp only [height, nesting, heightBy, leftRun, Nat.add_zero] at *
      omega
  | call function args => exact Expr.argsHeight_le_of_longestRun args h
  | negate operand =>
      have hoperand := Expr.height_le_of_longestRun operand h
      have hrun := operand.leftRun_le_longestRun
      simp only [longestRun] at h
      simp only [height, nesting, heightBy, leftRun, Nat.succ_mul] at *
      omega
termination_by structural e

theorem Expr.argsHeight_le_of_longestRun (es : List Expr) {run : Nat}
    (h : Expr.listLongestRun es ≤ run) :
    Expr.argsHeightBy 1 es ≤ 0 + Expr.argsHeightBy 0 es * (run + 1) := by
  cases es with
  | nil => exact Nat.zero_le _
  | cons e es =>
      simp only [listLongestRun, Nat.max_le] at h
      have hhead := Expr.height_le_of_longestRun e h.1
      have htail := Expr.argsHeight_le_of_longestRun es h.2
      have hrun := e.leftRun_le_longestRun
      have hleft : (e.nesting + 1) * (run + 1) ≤
          max (e.nesting + 1) (Expr.argsHeightBy 0 es) * (run + 1) :=
        Nat.mul_le_mul_right _ (Nat.le_max_left _ _)
      have hright : Expr.argsHeightBy 0 es * (run + 1) ≤
          max (e.nesting + 1) (Expr.argsHeightBy 0 es) * (run + 1) :=
        Nat.mul_le_mul_right _ (Nat.le_max_right _ _)
      rw [Nat.succ_mul] at hleft
      simp only [height, nesting, argsHeightBy] at *
      omega
termination_by structural es
end

/-! ### What the levels bound -/

namespace Derives

open Grammar (Tier)

/-- Operators of one tier add one step to the right, however many they are. -/
theorem Chain.nesting_le {tier : Tier} {operand : Phrases Expr} {n : Nat}
    (h : ∀ ls e, operand ls e → e.nesting ≤ n) {ls : List Lexeme} {e : Expr}
    (hc : Chain tier operand ls e) : e.nesting ≤ n + 1 := by
  induction hc with
  | operand ho =>
      have hn := h _ _ ho
      omega
  | binary _ _ ho ih =>
      have hn := h _ _ ho
      simp only [Expr.nesting, Expr.heightBy] at *
      omega

theorem ExpressionOf.nesting_le {factor : Phrases Expr} {n : Nat}
    (h : ∀ ls e, factor ls e → e.nesting ≤ n) {ls : List Lexeme} {e : Expr}
    (he : ExpressionOf factor ls e) : e.nesting ≤ n + 3 :=
  Chain.nesting_le
    (fun _ _ hsum => Chain.nesting_le (fun _ _ hproduct => Chain.nesting_le h hproduct) hsum) he

theorem argsHeightBy_le {left n : Nat} {es : List Expr} (h : ∀ e ∈ es, e.heightBy left ≤ n) :
    Expr.argsHeightBy left es ≤ n + 1 := by
  induction es with
  | nil => exact Nat.zero_le _
  | cons e es ih =>
      have hhead := h e List.mem_cons_self
      have htail := ih fun d hd => h d (List.mem_cons_of_mem e hd)
      rw [Expr.argsHeightBy]
      omega

theorem Factor.nesting_le {levels : Nat} {ls : List Lexeme} {e : Expr}
    (h : Factor levels ls e) : e.nesting ≤ 4 * levels + 1 := by
  induction levels generalizing ls e with
  | zero =>
      cases h with
      | number | float | string | name | stepAfter | stepBefore =>
          simp [Expr.nesting, Expr.heightBy]
  | succ levels ih =>
      have hexpr {ms : List Lexeme} {d : Expr} (hd : ExpressionOf (Factor levels) ms d) :
          d.nesting ≤ 4 * levels + 1 + 3 :=
        hd.nesting_le fun _ _ => ih
      cases h with
      | number | float | string | name | stepAfter | stepBefore =>
          simp only [Expr.nesting, Expr.heightBy]
          omega
      | call ha =>
          have hargs := argsHeightBy_le (ha.forall_mem fun _ _ hd => hexpr hd)
          simp only [Expr.nesting, Expr.heightBy]
          omega
      | negate ho =>
          have hoperand := ih ho
          simp only [Expr.nesting, Expr.heightBy] at *
          omega
      | group he =>
          have hinner := hexpr he
          omega

theorem Expression.nesting_le {levels : Nat} {ls : List Lexeme} {e : Expr}
    (h : Expression levels ls e) : e.nesting ≤ 4 * levels + 4 :=
  ExpressionOf.nesting_le (fun _ _ => Factor.nesting_le) h

end Derives

/-! ### A sum of ones -/

/-- One and `n` ones more, added up. -/
def Expr.ones : (n : Nat) → Expr
  | 0 => .number "1"
  | n + 1 => .binary (Expr.ones n) .add (.number "1")

/-- The lexemes of `1 + ... + 1`, with `n` operators. -/
def Lexeme.ones : (n : Nat) → List Lexeme
  | 0 => [⟨.number, "1"⟩]
  | n + 1 => Lexeme.ones n ++ BinaryOp.add.lexeme :: [⟨.number, "1"⟩]

/-- The tokens of `x = 1 + ... + 1;`, all at one place. -/
def Token.assignedOnes (n : Nat) : List Token :=
  (Lexeme.identifier "x" :: Lexeme.equals :: Lexeme.ones n ++ [Lexeme.semicolon]).map
    (⟨·, .start⟩)

theorem Expr.height_ones (n : Nat) : (Expr.ones n).height = n := by
  induction n with
  | zero => rfl
  | succ n ih =>
      simp only [height, ones, heightBy] at *
      omega

theorem Derives.expression_ones (levels n : Nat) :
    Expression levels (Lexeme.ones n) (Expr.ones n) := by
  have hone : Factor levels [⟨.number, "1"⟩] (.number "1") := by
    cases levels with
    | zero => exact .number
    | succ levels => exact .number
  refine .operand ?_
  induction n with
  | zero => exact .operand (.operand hone)
  | succ n ih => exact .binary ih rfl (.operand hone)

theorem Program.parse_assignedOnes (n : Nat) :
    (parse (Token.assignedOnes n)).1 = .ok [.assign ⟨"x", Expr.ones n⟩] := by
  have hstream : ¬ Derives.IsStream "x" := by simp [Derives.IsStream]
  have hassigned : Derives.Assigned (Derives.Expression nestingLimit)
      (.identifier "x" :: .equals :: Lexeme.ones n) ⟨"x", Expr.ones n⟩ :=
    .mk (Derives.expression_ones nestingLimit n)
  have hlexemes : (Token.assignedOnes n).map Token.toLexeme =
      .identifier "x" :: .equals :: Lexeme.ones n ++ [.semicolon] := by
    simp [Token.assignedOnes, Function.comp_def]
  rw [parse_eq_ok, run_program_eq_ok, hlexemes]
  exact ⟨rfl, .mk (.singleton (.assign hstream hassigned))⟩

/-- On every way down an expression of a program, all steps but those to left operands are
    bounded by the nesting limit alone. So only a long chain of operators makes an expression
    high. -/
theorem parse_nesting_le {tokens : List Token} {p : Program}
    (h : (Program.parse tokens).1 = .ok p) :
    ∀ e ∈ Stmt.listExprs p, e.nesting ≤ 4 * nestingLimit + 4 ∧
      e.height ≤ e.longestRun + (4 * nestingLimit + 4) * (e.longestRun + 1) := by
  obtain ⟨_, hderives⟩ := run_program_eq_ok.mp (Program.parse_eq_ok.mp h)
  intro e hmem
  have hnesting : e.nesting ≤ 4 * nestingLimit + 4 := by
    refine hderives.forall_exprs (P := fun e => e.nesting ≤ 4 * nestingLimit + 4) ?_ e hmem
    intro n hn ls e he
    have hlevel := he.nesting_le
    omega
  refine ⟨hnesting, ?_⟩
  calc e.height
      ≤ e.leftRun + e.nesting * (e.longestRun + 1) := e.height_le_of_longestRun (Nat.le_refl _)
    _ ≤ e.longestRun + (4 * nestingLimit + 4) * (e.longestRun + 1) :=
        Nat.add_le_add e.leftRun_le_longestRun (Nat.mul_le_mul_right _ hnesting)

/-- A sum can be higher than the levels would let it nest. -/
theorem parse_nesting_le_ones :
    (Program.parse (Token.assignedOnes 600)).1 = .ok [.assign ⟨"x", Expr.ones 600⟩] ∧
      (Expr.ones 600).nesting ≤ 4 * nestingLimit + 4 ∧
      4 * nestingLimit + 4 < (Expr.ones 600).height ∧
      (Expr.ones 600).height ≤
        (Expr.ones 600).longestRun + (4 * nestingLimit + 4) * ((Expr.ones 600).longestRun + 1) := by
  have hparse := Program.parse_assignedOnes 600
  obtain ⟨hnesting, hheight⟩ :=
    parse_nesting_le hparse (Expr.ones 600) (by simp [Stmt.listExprs, Stmt.exprs])
  refine ⟨hparse, hnesting, ?_, hheight⟩
  rw [Expr.height_ones]
  decide

/-- No bound on the height of expressions holds for all programs: operators can follow each
    other on one level as often as they want. -/
theorem not_exists_height_bound :
    ¬ ∃ bound, ∀ tokens p, (Program.parse tokens).1 = .ok p →
      ∀ e ∈ Stmt.listExprs p, e.height ≤ bound := by
  rintro ⟨bound, h⟩
  have hheight := h _ _ (Program.parse_assignedOnes (bound + 1)) (Expr.ones (bound + 1)) (by
    simp [Stmt.listExprs, Stmt.exprs])
  rw [Expr.height_ones] at hheight
  omega

end CppToPython
