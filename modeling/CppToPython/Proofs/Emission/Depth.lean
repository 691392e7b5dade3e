import CppToPython.Proofs.Emission.Forest
import CppToPython.Proofs.Grammar.Expressions
import CppToPython.Proofs.RoundTrip

/-! # How deep lines stand

A line stands as deep as there are blocks around it. The parser counts more than that towards its
limit: parentheses, calls and negations, and an `else if` as one level more than its `if`. So no
line is deeper than the limit, and the spaces before it can be counted in 64 bits.
-/

namespace CppToPython

open Emission

/-! ### Blocks in blocks -/

mutual
/-- How many blocks stand inside each other in a statement. An `else if` stands beside its `if`. -/
def Stmt.blockDepth : Stmt → Nat
  | .function _ _ _ body | .forLoop _ body | .whileLoop _ body => Stmt.listBlockDepth body + 1
  | .conditional _ body otherwise => max (Stmt.listBlockDepth body + 1) otherwise.blockDepth
  | .declare _ | .assign _ | .output _ | .input _ | .step _ _ | .result _ | .call _ _ => 0

def Stmt.listBlockDepth : List Stmt → Nat
  | [] => 0
  | stmt :: stmts => max stmt.blockDepth (Stmt.listBlockDepth stmts)

def Else.blockDepth : Else → Nat
  | .nothing => 0
  | .block body => Stmt.listBlockDepth body + 1
  | .elseIf _ body otherwise => max (Stmt.listBlockDepth body + 1) otherwise.blockDepth
end

theorem Stmt.listBlockDepth_le {stmts : List Stmt} {n : Nat} :
    Stmt.listBlockDepth stmts ≤ n ↔ ∀ stmt ∈ stmts, stmt.blockDepth ≤ n := by
  induction stmts with
  | nil => simp [listBlockDepth]
  | cons stmt stmts ih => rw [listBlockDepth, Nat.max_le, ih, List.forall_mem_cons]

/-! ### Lines -/

theorem depth_le_header {depth n : Nat} {text : String} {block : List Line}
    (h : ∀ l ∈ block, l.depth ≤ depth + 1 + n) :
    ∀ l ∈ Line.mk depth text :: block, l.depth ≤ depth + (n + 1) := by
  intro l hl
  rcases List.mem_cons.mp hl with rfl | hl
  · exact Nat.le_add_right depth (n + 1)
  · have hle := h l hl
    omega

theorem depth_le_append {front back : List Line} {depth m n : Nat}
    (hf : ∀ l ∈ front, l.depth ≤ depth + m) (hb : ∀ l ∈ back, l.depth ≤ depth + n) :
    ∀ l ∈ front ++ back, l.depth ≤ depth + max m n := by
  intro l hl
  rcases List.mem_append.mp hl with hl | hl
  · have hle := hf l hl
    omega
  · have hle := hb l hl
    omega

theorem depth_le_block {depth : Nat} {body : List Stmt}
    (h : ∀ l ∈ Stmt.listToPython depth body, l.depth ≤ depth + Stmt.listBlockDepth body) :
    ∀ l ∈ Stmt.blockToPython depth body, l.depth ≤ depth + Stmt.listBlockDepth body := by
  cases body with
  | nil => simp [Stmt.blockToPython]
  | cons => exact h

mutual
theorem Stmt.depth_le (stmt : Stmt) (depth : Nat) :
    ∀ l ∈ stmt.toPython depth, l.depth ≤ depth + stmt.blockDepth := by
  cases stmt with
  | function type name params body =>
      exact depth_le_header (depth_le_block (Stmt.list_depth_le body (depth + 1)))
  | declare | assign | output | input | step | result | call => simp [Stmt.toPython]
  | conditional condition body otherwise =>
      apply depth_le_append
      · exact depth_le_header (depth_le_block (Stmt.list_depth_le body (depth + 1)))
      · exact Else.depth_le otherwise depth
  | forLoop head body =>
      simp only [Stmt.toPython]
      split
      · exact depth_le_header (depth_le_block (Stmt.list_depth_le body (depth + 1)))
      · simp
  | whileLoop condition body =>
      exact depth_le_header (depth_le_block (Stmt.list_depth_le body (depth + 1)))
termination_by structural stmt

theorem Stmt.list_depth_le (stmts : List Stmt) (depth : Nat) :
    ∀ l ∈ Stmt.listToPython depth stmts, l.depth ≤ depth + Stmt.listBlockDepth stmts := by
  cases stmts with
  | nil => simp [Stmt.listToPython]
  | cons stmt stmts =>
      apply depth_le_append
      · exact Stmt.depth_le stmt depth
      · exact Stmt.list_depth_le stmts depth
termination_by structural stmts

theorem Else.depth_le (otherwise : Else) (depth : Nat) :
    ∀ l ∈ otherwise.toPython depth, l.depth ≤ depth + otherwise.blockDepth := by
  cases otherwise with
  | nothing => simp [Else.toPython]
  | block body =>
      cases body with
      | nil => simp [Else.toPython]
      | cons stmt stmts =>
          exact depth_le_header (depth_le_block (Stmt.list_depth_le (stmt :: stmts) (depth + 1)))
  | elseIf condition body otherwise =>
      apply depth_le_append
      · exact depth_le_header (depth_le_block (Stmt.list_depth_le body (depth + 1)))
      · exact Else.depth_le otherwise depth
termination_by structural otherwise
end

/-! ### Levels -/

namespace Derives

/-- What can stand one level deeper has no more blocks inside each other than there are levels. -/
structure BlocksWithin (levels : Nat) (inner : Inner) : Prop where
  statements : ∀ ls stmts, inner.statements ls stmts → Stmt.listBlockDepth stmts + 1 ≤ levels
  conditional : ∀ ls condition body otherwise,
    inner.conditional ls (condition, body, otherwise) →
      (Stmt.conditional condition body otherwise).blockDepth ≤ levels

section Level

variable {expr : Phrases Expr} {inner : Option Inner} {levels : Nat}
  (hi : ∀ deep ∈ inner, BlocksWithin levels deep) {ls : List Lexeme}

include hi

theorem Block.blockDepth_le {body : List Stmt} (hb : Block inner ls body) :
    Stmt.listBlockDepth body + 1 ≤ levels := by
  cases hb with
  | braces hs => exact (hi _ rfl).statements _ _ hs

theorem Alternative.blockDepth_le {otherwise : Else} (ha : Alternative inner ls otherwise) :
    otherwise.blockDepth ≤ levels := by
  cases ha with
  | nothing => exact Nat.zero_le levels
  | block hb => exact hb.blockDepth_le hi
  | elseIf hc => exact (hi _ rfl).conditional _ _ _ _ hc

theorem Conditional.blockDepth_le {condition : Expr} {body : List Stmt} {otherwise : Else}
    (hc : Conditional expr inner ls (condition, body, otherwise)) :
    (Stmt.conditional condition body otherwise).blockDepth ≤ levels := by
  cases hc with
  | mk _ hbody hotherwise =>
      exact Nat.max_le.mpr ⟨hbody.blockDepth_le hi, hotherwise.blockDepth_le hi⟩

theorem Statement.blockDepth_le {s : Option Stmt} (hs : Statement expr inner ls s) :
    ∀ stmt ∈ s, stmt.blockDepth ≤ levels := by
  intro stmt hstmt
  cases hs with
  | directive | usingNamespace => cases hstmt
  | function _ hb =>
      cases hstmt
      exact hb.blockDepth_le hi
  | conditional hc =>
      cases hstmt
      exact hc.blockDepth_le hi
  | forLoop _ hb =>
      cases hstmt
      exact hb.blockDepth_le hi
  | whileLoop _ hb =>
      cases hstmt
      exact hb.blockDepth_le hi
  | declare | result | output | input | call | stepAfter | stepBefore | assign =>
      cases hstmt
      exact Nat.zero_le levels

theorem Statements.blockDepth_le {stmts : List Stmt} (hs : Statements expr inner ls stmts) :
    Stmt.listBlockDepth stmts ≤ levels := by
  cases hs with
  | mk hseq =>
      rw [Stmt.listBlockDepth_le]
      intro stmt hstmt
      obtain ⟨found, hfound, rfl⟩ := List.mem_filterMap.mp hstmt
      exact hseq.forall_mem (fun _ _ h => h.blockDepth_le hi) _ hfound stmt rfl

end Level

theorem blocksWithin_deeper (levels : Nat) : ∀ deep ∈ deeper levels, BlocksWithin levels deep := by
  induction levels with
  | zero => simp [deeper]
  | succ levels ih =>
      rintro deep ⟨⟩
      constructor
      · intro ls stmts hs
        exact Nat.succ_le_succ (Statements.blockDepth_le ih hs)
      · intro ls condition body otherwise hc
        exact Nat.le_succ_of_le (Conditional.blockDepth_le ih hc)

theorem Program.blockDepth_le {levels : Nat} {ls : List Lexeme} {p : CppToPython.Program}
    (h : Program levels ls p) : Stmt.listBlockDepth p ≤ levels :=
  Statements.blockDepth_le (blocksWithin_deeper levels) h

end Derives

/-! ### Whole programs -/

open Program (OfSource)

theorem Program.blockDepth_le_of_ofSource {source : String} {p : Program} (h : OfSource source p) :
    Stmt.listBlockDepth p ≤ nestingLimit := by
  obtain ⟨tokens, _, hp⟩ := h
  have hderives := (run_program_eq_ok.mp (Program.parse_eq_ok.mp hp)).2
  exact hderives.blockDepth_le

theorem Program.depth_le_items {p : Program} {n : Nat} (hp : Stmt.listBlockDepth p ≤ n)
    (hn : 1 ≤ n) (mainGuard : Bool) : ∀ lines ∈ p.items mainGuard, ∀ l ∈ lines, l.depth ≤ n := by
  intro lines hlines l hl
  rcases mem_items hlines with ⟨stmt, hstmt, rfl⟩ | rfl | rfl
  · have hdepth := stmt.depth_le 0 l hl
    have hblocks := Stmt.listBlockDepth_le.mp hp stmt hstmt
    omega
  · have hdepth : ∀ l ∈ guardLines, l.depth ≤ 1 := by decide
    exact Nat.le_trans (hdepth l hl) hn
  · cases List.mem_singleton.mp hl
    exact Nat.zero_le n

/-- No line of a program that a source is stands deeper than the limit, so for widths up to
    `(2 ^ 64 - 1) / 128` its spaces are a 64-bit number. -/
theorem depth_le_nestingLimit {source : String} {p : Program} (h : OfSource source p)
    (mainGuard : Bool) :
    ∀ lines ∈ p.items mainGuard, ∀ l ∈ lines,
      l.depth ≤ nestingLimit ∧
        ∀ width ≤ (UInt64.size - 1) / nestingLimit, l.depth * width < UInt64.size := by
  intro lines hlines l hl
  have hdepth : l.depth ≤ nestingLimit :=
    p.depth_le_items (Program.blockDepth_le_of_ofSource h) (by decide) mainGuard lines hlines l hl
  refine ⟨hdepth, ?_⟩
  intro width hwidth
  calc l.depth * width
      ≤ nestingLimit * ((UInt64.size - 1) / nestingLimit) := Nat.mul_le_mul hdepth hwidth
    _ ≤ UInt64.size - 1 := Nat.mul_div_le _ _
    _ < UInt64.size := by decide

def Stmt.loops : Nat → List Stmt
  | 0 => []
  | n + 1 => [.whileLoop (.name "x") (Stmt.loops n)]

theorem Stmt.wellFormed_loops (n : Nat) : Stmt.AllWellFormed (Stmt.loops n) := by
  have hx : IsName "x" := ⟨⟨by decide, nofun⟩, by decide⟩
  induction n with
  | zero => trivial
  | succ n ih => exact ⟨⟨hx, ih⟩, trivial⟩

theorem Stmt.listLevels_loops (n : Nat) : Stmt.listLevels (Stmt.loops n) = n := by
  induction n with
  | zero => rfl
  | succ n ih => simp [loops, listLevels, levels, Expr.levels, ih]

theorem Stmt.pass_mem_loops (n depth : Nat) :
    ⟨depth + n, "pass"⟩ ∈ Stmt.blockToPython depth (Stmt.loops n) := by
  induction n generalizing depth with
  | zero => exact List.mem_singleton.mpr rfl
  | succ n ih =>
      have hin := ih (depth + 1)
      rw [Nat.add_right_comm] at hin
      exact List.mem_append_left _ (List.mem_cons_of_mem _ hin)

theorem Program.pass_mem_items_loops (n : Nat) :
    ∃ lines ∈ Program.items false (Stmt.loops n), ⟨n, "pass"⟩ ∈ lines := by
  cases n with
  | zero => exact ⟨_, List.mem_singleton.mpr rfl, List.mem_singleton.mpr rfl⟩
  | succ n =>
      refine ⟨(Stmt.whileLoop (.name "x") (Stmt.loops n)).toPython 0, ?_, ?_⟩
      · rw [Stmt.loops, items_of_ne_nil (List.cons_ne_nil _ _)]
        exact List.mem_append_left _ (List.mem_singleton.mpr rfl)
      · have hpass := Stmt.pass_mem_loops n 1
        rw [Nat.add_comm] at hpass
        exact List.mem_cons_of_mem _ hpass

/-- The bound is reached: the innermost of 128 loops has an empty body, written as `pass`. -/
theorem depth_le_nestingLimit_loops :
    OfSource (String.ofList (spread (Stmt.listLexemes (Stmt.loops nestingLimit))))
        (Stmt.loops nestingLimit) ∧
      ∃ lines ∈ Program.items false (Stmt.loops nestingLimit), ∃ l ∈ lines,
        l.depth = nestingLimit ∧ l.depth * ((UInt64.size - 1) / nestingLimit) < UInt64.size := by
  have hsource : OfSource (String.ofList (spread (Stmt.listLexemes (Stmt.loops nestingLimit))))
      (Stmt.loops nestingLimit) := by
    have hwf := Stmt.wellFormed_loops nestingLimit
    have hspaced := spaced_spread (Stmt.listLexemes (Stmt.loops nestingLimit))
    rw [ofSource_of_spaced (by rwa [String.toList_ofList]) (Stmt.plain_listLexemes _ hwf)]
    exact Stmt.statements_lexemes _ hwf (Nat.le_of_eq (Stmt.listLevels_loops nestingLimit))
  obtain ⟨lines, hlines, hpass⟩ := Program.pass_mem_items_loops nestingLimit
  have hbound := depth_le_nestingLimit hsource false lines hlines _ hpass
  exact ⟨hsource, lines, hlines, _, hpass, rfl, hbound.2 _ (Nat.le_refl _)⟩

end CppToPython
