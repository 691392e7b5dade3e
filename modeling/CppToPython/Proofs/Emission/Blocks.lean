import CppToPython.Emission.Program
import CppToPython.Proofs.Emission.Text
import Mathlib.Control.Monad.Basic
import Mathlib.Data.List.Forall2

/-! # Blocks

A line that ends in a colon opens a block, and Python wants a statement in it. The
lines that open blocks are those of the bodies in the program, in order. A body
whose loops have no equivalent leaves a block of comments only.
-/

namespace CppToPython

open Emission

namespace Emission

def Line.opens (l : Line) : Bool := l.text.toList.getLast? == some ':'

def Line.IsStatement (l : Line) : Prop := Starts (· ≠ '#') l.text

/-- A line that opens a block, and the lines after it. -/
structure Opening where
  line : Line
  rest : List Line

namespace Opening

/-- The lines of the block: all that follow until a line is no deeper. -/
def block (o : Opening) : List Line := o.rest.takeWhile fun l => o.line.depth < l.depth

def HasNext (o : Opening) : Prop := ∃ l, o.rest.head? = some l ∧ l.depth = o.line.depth + 1

def HasStatement (o : Opening) : Prop :=
  ∃ l ∈ o.block, l.depth = o.line.depth + 1 ∧ l.IsStatement

end Opening

/-- The lines that open a block, each with the lines after it. -/
def openings : List Line → List Opening
  | [] => []
  | l :: rest => if l.opens then ⟨l, rest⟩ :: openings rest else openings rest

end Emission

/-! ### The bodies of a program -/

/-- A body for which a block is written, and the line that opens it. -/
structure HeadedBody where
  header : Line
  body : List Stmt

mutual
/-- The bodies in a statement for which a block is written, in order. -/
def Stmt.bodies (depth : Nat) : Stmt → List HeadedBody
  | .function _ name params body =>
      ⟨⟨depth, functionHeader name params⟩, body⟩ :: Stmt.listBodies (depth + 1) body
  | .whileLoop condition body =>
      ⟨⟨depth, "while " ++ condition.toPython ++ ":"⟩, body⟩ :: Stmt.listBodies (depth + 1) body
  | .conditional condition body otherwise =>
      ⟨⟨depth, "if " ++ condition.toPython ++ ":"⟩, body⟩ :: Stmt.listBodies (depth + 1) body
        ++ otherwise.bodies depth
  | .forLoop head body =>
      match head.range? with
      | some range => ⟨⟨depth, range.header⟩, body⟩ :: Stmt.listBodies (depth + 1) body
      | none => []
  | .declare _ | .assign _ | .output _ | .input _ | .step _ _ | .result _ | .call _ _ => []

def Stmt.listBodies (depth : Nat) : List Stmt → List HeadedBody
  | [] => []
  | stmt :: stmts => stmt.bodies depth ++ Stmt.listBodies depth stmts

def Else.bodies (depth : Nat) : Else → List HeadedBody
  | .nothing | .block [] => []
  | .block (stmt :: stmts) =>
      ⟨⟨depth, "else:"⟩, stmt :: stmts⟩ ::
        (stmt.bodies (depth + 1) ++ Stmt.listBodies (depth + 1) stmts)
  | .elseIf condition body otherwise =>
      ⟨⟨depth, "elif " ++ condition.toPython ++ ":"⟩, body⟩ :: Stmt.listBodies (depth + 1) body
        ++ otherwise.bodies depth
end

/-- The bodies of a program, and the call of `main` if the guard is written. -/
def Program.bodies (mainGuard : Bool) (p : Program) : List HeadedBody :=
  Stmt.listBodies 0 p ++
    if mainGuard && p.any (·.isMain) then
      [⟨⟨0, "if __name__ == \"__main__\":"⟩, [.call "main" []]⟩]
    else []

def Stmt.isUnsupportedLoop : Stmt → Bool
  | .forLoop head _ => head.range?.isNone
  | _ => false

/-- An input statement without variables leaves no line, so it has to have another statement
    beside it for which one is written that is run. -/
def HasCompany (body : List Stmt) : Prop :=
  .input [] ∈ body → ∃ stmt ∈ body, stmt ≠ .input [] ∧ stmt.isUnsupportedLoop = false

/-- The block of a body stands one deeper, right after the line that opens it. It has a statement
    in it, unless the body is nothing but loops for which comments are written. -/
def Filled (o : Opening) (b : HeadedBody) : Prop :=
  o.line = b.header ∧ (HasCompany b.body → o.HasNext ∧
    if b.body ≠ [] ∧ ∀ stmt ∈ b.body, stmt.isUnsupportedLoop then
      o.block = List.replicate b.body.length ⟨b.header.depth + 1, unsupportedLoopText⟩
    else o.HasStatement)

/-- The lines that open blocks are those of the bodies, in order, and each block is
    filled. -/
def BlocksFilled (lines : List Line) (bodies : List HeadedBody) : Prop :=
  List.Forall₂ Filled (openings lines) bodies

/-! ### Depths -/

theorem le_depth_header {depth : Nat} {text : String} {block : List Line}
    (h : ∀ l ∈ block, depth + 1 ≤ l.depth) :
    ∀ l ∈ Line.mk depth text :: block, depth ≤ l.depth := by
  intro l hl
  rcases List.mem_cons.mp hl with rfl | hl
  · exact Nat.le_refl depth
  · exact Nat.le_of_succ_le (h l hl)

theorem le_depth_append {depth : Nat} {front back : List Line} (hf : ∀ l ∈ front, depth ≤ l.depth)
    (hb : ∀ l ∈ back, depth ≤ l.depth) : ∀ l ∈ front ++ back, depth ≤ l.depth := by
  intro l hl
  rcases List.mem_append.mp hl with hl | hl
  · exact hf l hl
  · exact hb l hl

theorem le_depth_block {depth : Nat} {body : List Stmt}
    (h : ∀ l ∈ Stmt.listToPython depth body, depth ≤ l.depth) :
    ∀ l ∈ Stmt.blockToPython depth body, depth ≤ l.depth := by
  cases body with
  | nil => exact le_depth_header nofun
  | cons => exact h

mutual
theorem Stmt.le_depth (stmt : Stmt) (depth : Nat) : ∀ l ∈ stmt.toPython depth, depth ≤ l.depth := by
  cases stmt with
  | function type name params body =>
      exact le_depth_header (le_depth_block (Stmt.list_le_depth body (depth + 1)))
  | declare | assign | step | result | call => exact le_depth_header nofun
  | output values =>
      intro l hl
      obtain ⟨line, _, rfl⟩ := List.mem_map.mp hl
      exact Nat.le_refl depth
  | input targets =>
      intro l hl
      obtain ⟨name, _, rfl⟩ := List.mem_map.mp hl
      exact Nat.le_refl depth
  | conditional condition body otherwise =>
      apply le_depth_append
      · exact le_depth_header (le_depth_block (Stmt.list_le_depth body (depth + 1)))
      · exact Else.le_depth otherwise depth
  | forLoop head body =>
      simp only [Stmt.toPython]
      split
      · exact le_depth_header (le_depth_block (Stmt.list_le_depth body (depth + 1)))
      · exact le_depth_header nofun
  | whileLoop condition body =>
      exact le_depth_header (le_depth_block (Stmt.list_le_depth body (depth + 1)))
termination_by structural stmt

theorem Stmt.list_le_depth (stmts : List Stmt) (depth : Nat) :
    ∀ l ∈ Stmt.listToPython depth stmts, depth ≤ l.depth := by
  cases stmts with
  | nil => nofun
  | cons stmt stmts =>
      apply le_depth_append
      · exact Stmt.le_depth stmt depth
      · exact Stmt.list_le_depth stmts depth
termination_by structural stmts

theorem Else.le_depth (otherwise : Else) (depth : Nat) :
    ∀ l ∈ otherwise.toPython depth, depth ≤ l.depth := by
  cases otherwise with
  | nothing => nofun
  | block body =>
      cases body with
      | nil => nofun
      | cons stmt stmts =>
          exact le_depth_header (le_depth_block (Stmt.list_le_depth (stmt :: stmts) (depth + 1)))
  | elseIf condition body otherwise =>
      apply le_depth_append
      · exact le_depth_header (le_depth_block (Stmt.list_le_depth body (depth + 1)))
      · exact Else.le_depth otherwise depth
termination_by structural otherwise
end

/-- No line that follows at once is deeper than `depth`. -/
def Closes (depth : Nat) (rest : List Line) : Prop := ∀ l ∈ rest.head?, l.depth ≤ depth

theorem closes_nil (depth : Nat) : Closes depth [] := nofun

theorem Closes.append {depth : Nat} {front rest : List Line}
    (hf : ∀ l ∈ front.head?, l.depth = depth) (hr : Closes depth rest) :
    Closes depth (front ++ rest) := by
  cases front with
  | nil => exact hr
  | cons l front =>
      rintro l ⟨⟩
      exact Nat.le_of_eq (hf l rfl)

theorem Stmt.head_depth (stmt : Stmt) (depth : Nat) :
    ∀ l ∈ (stmt.toPython depth).head?, l.depth = depth := by
  intro l hl
  cases stmt with
  | function | declare | assign | step | conditional | whileLoop | result | call =>
      cases hl
      rfl
  | output values =>
      obtain ⟨line, _, rfl⟩ := List.mem_map.mp (List.mem_of_mem_head? hl)
      rfl
  | input targets =>
      obtain ⟨name, _, rfl⟩ := List.mem_map.mp (List.mem_of_mem_head? hl)
      rfl
  | forLoop head body =>
      simp only [Stmt.toPython] at hl
      split at hl
      · cases hl
        rfl
      · cases hl
        rfl

theorem Else.head_depth (otherwise : Else) (depth : Nat) :
    ∀ l ∈ (otherwise.toPython depth).head?, l.depth = depth := by
  intro l hl
  cases otherwise with
  | nothing => cases hl
  | block body =>
      cases body with
      | nil => cases hl
      | cons =>
          cases hl
          rfl
  | elseIf =>
      cases hl
      rfl

theorem Stmt.list_head_depth (stmts : List Stmt) (depth : Nat) :
    ∀ l ∈ (Stmt.listToPython depth stmts).head?, l.depth = depth := by
  induction stmts with
  | nil => nofun
  | cons stmt stmts ih =>
      intro l hl
      rw [Stmt.listToPython, List.head?_append] at hl
      cases hfirst : (stmt.toPython depth).head? with
      | none =>
          rw [hfirst] at hl
          exact ih l hl
      | some first =>
          rw [hfirst] at hl
          exact stmt.head_depth depth l (hfirst.trans hl)

/-! ### What a block holds -/

theorem Stmt.listToPython_eq_flatMap (depth : Nat) (stmts : List Stmt) :
    Stmt.listToPython depth stmts = stmts.flatMap (·.toPython depth) := by
  induction stmts with
  | nil => rfl
  | cons stmt stmts ih => rw [Stmt.listToPython, ih, List.flatMap_cons]

theorem Emission.printedLines_ne_nil (values : List Expr) : printedLines values ≠ [] := by
  fun_cases printedLines values with
  | case1 => simp
  | case2 => simp
  | case3 => simp
  | case4 => simp
  | case5 => simp
  | case6 => simp

theorem not_hash_of_isWordStart {c : Char} (h : Piece.isWordStart c = true) : c ≠ '#' := by
  rintro rfl
  exact absurd h (by decide)

theorem IsName.isStatement {name : String} (h : IsName name) (depth : Nat) (more : String) :
    (Line.mk depth (name ++ more)).IsStatement :=
  (h.starts.mono fun _ => not_hash_of_isWordStart).append more

/-- All statements but those that leave nothing or a comment start with a line that
    is run. -/
theorem Stmt.exists_statement {stmt : Stmt} (hwf : stmt.WellFormed)
    (hloop : stmt.isUnsupportedLoop = false) (hinput : stmt ≠ .input []) (depth : Nat) :
    ∃ l ∈ stmt.toPython depth, l.depth = depth ∧ l.IsStatement := by
  cases stmt with
  | function type name params body =>
      exact ⟨_, List.mem_cons_self, rfl, 'd', by simp [functionHeader], by decide⟩
  | declare d => exact ⟨_, List.mem_cons_self, rfl, (hwf.1.isStatement depth _).append _⟩
  | assign a => exact ⟨_, List.mem_cons_self, rfl, (hwf.1.1.isStatement depth _).append _⟩
  | output values =>
      obtain ⟨line, lines, hlines⟩ := List.exists_cons_of_ne_nil (printedLines_ne_nil values)
      refine ⟨_, List.mem_map.mpr ⟨line, ?_, rfl⟩, rfl, 'p', ?_, by decide⟩
      · rw [hlines]
        exact List.mem_cons_self
      · simp [callText]
  | input targets =>
      cases targets with
      | nil => exact absurd rfl hinput
      | cons name targets =>
          have hname := hwf name List.mem_cons_self
          exact ⟨_, List.mem_cons_self, rfl, (hname.isStatement depth _).append _⟩
  | step op target =>
      have hstart := hwf.starts_variableText.mono fun _ => not_hash_of_isWordStart
      exact ⟨_, List.mem_cons_self, rfl, ((hstart.append _).append _).append _⟩
  | conditional condition body otherwise =>
      exact ⟨_, List.mem_cons_self, rfl, 'i', by simp, by decide⟩
  | forLoop head body =>
      cases hrange : head.range? with
      | none => simp [Stmt.isUnsupportedLoop, hrange] at hloop
      | some range =>
          simp only [Stmt.toPython, hrange]
          exact ⟨_, List.mem_cons_self, rfl, 'f', by simp [Range.header], by decide⟩
  | whileLoop condition body => exact ⟨_, List.mem_cons_self, rfl, 'w', by simp, by decide⟩
  | result value =>
      cases value with
      | none => exact ⟨_, List.mem_cons_self, rfl, 'r', by simp [resultText], by decide⟩
      | some e => exact ⟨_, List.mem_cons_self, rfl, 'r', by simp [resultText], by decide⟩
  | call function args =>
      have hname := hwf.1.isStatement depth
      exact ⟨_, List.mem_cons_self, rfl, ((hname _).append _).append _⟩

theorem Stmt.toPython_unsupported {stmt : Stmt} (h : stmt.isUnsupportedLoop = true) (depth : Nat) :
    stmt.toPython depth = [⟨depth, unsupportedLoopText⟩] := by
  cases stmt with
  | forLoop head body =>
      have hrange : head.range? = none := by simpa [Stmt.isUnsupportedLoop] using h
      rw [Stmt.toPython, hrange]
  | function | declare | assign | output | input | step | conditional | whileLoop | result
  | call =>
      cases h

theorem Stmt.listToPython_unsupported {body : List Stmt}
    (h : ∀ stmt ∈ body, stmt.isUnsupportedLoop = true) (depth : Nat) :
    Stmt.listToPython depth body =
      List.replicate body.length ⟨depth, unsupportedLoopText⟩ := by
  induction body with
  | nil => rfl
  | cons stmt stmts ih =>
      rw [Stmt.listToPython, Stmt.toPython_unsupported (h stmt List.mem_cons_self),
        ih fun other hother => h other (List.mem_cons_of_mem stmt hother)]
      rfl

theorem Stmt.exists_line {stmt : Stmt} (hwf : stmt.WellFormed) (hinput : stmt ≠ .input [])
    (depth : Nat) : ∃ l, l ∈ stmt.toPython depth := by
  cases hloop : stmt.isUnsupportedLoop with
  | false =>
      obtain ⟨l, hl, _⟩ := Stmt.exists_statement hwf hloop hinput depth
      exact ⟨l, hl⟩
  | true =>
      rw [Stmt.toPython_unsupported hloop]
      exact ⟨_, List.mem_cons_self⟩

theorem takeWhile_deeper {depth : Nat} {block rest : List Line}
    (hb : ∀ l ∈ block, depth + 1 ≤ l.depth) (hr : Closes depth rest) :
    (block ++ rest).takeWhile (depth < ·.depth) = block := by
  apply takeWhile_append_boundary
  · intro l hl
    exact decide_eq_true (hb l hl)
  · intro l hl
    simpa using hr l hl

/-- The block of a body is all that stands before a line that closes it. -/
theorem block_eq {depth : Nat} {rest : List Line} (text : String) (body : List Stmt)
    (hr : Closes depth rest) :
    (Opening.mk ⟨depth, text⟩ (Stmt.blockToPython (depth + 1) body ++ rest)).block =
      Stmt.blockToPython (depth + 1) body :=
  takeWhile_deeper (le_depth_block (Stmt.list_le_depth body (depth + 1))) hr

theorem Stmt.mem_listToPython {stmt : Stmt} {body : List Stmt} (hs : stmt ∈ body) {depth : Nat}
    {l : Line} (hl : l ∈ stmt.toPython depth) : l ∈ Stmt.listToPython depth body := by
  rw [Stmt.listToPython_eq_flatMap]
  exact List.mem_flatMap.mpr ⟨stmt, hs, hl⟩

theorem hasNext_block {depth : Nat} (text : String) {body : List Stmt}
    (hne : Stmt.listToPython (depth + 1) body ≠ []) (rest : List Line) :
    (Opening.mk ⟨depth, text⟩ (Stmt.listToPython (depth + 1) body ++ rest)).HasNext := by
  obtain ⟨next, more, hcons⟩ := List.exists_cons_of_ne_nil hne
  refine ⟨next, ?_, ?_⟩
  · rw [hcons]
    rfl
  · apply Stmt.list_head_depth body (depth + 1)
    rw [hcons]
    rfl

/-- Among statements that are not all loops for comments, one leaves a line that is run. -/
theorem HasCompany.exists_statement {body : List Stmt} (h : HasCompany body)
    (hall : ¬ ∀ stmt ∈ body, stmt.isUnsupportedLoop = true) :
    ∃ stmt ∈ body, stmt ≠ .input [] ∧ stmt.isUnsupportedLoop = false := by
  simp only [not_forall, Bool.not_eq_true] at hall
  obtain ⟨stmt, hs, hloop⟩ := hall
  by_cases hinput : stmt = .input []
  · exact h (hinput ▸ hs)
  · exact ⟨stmt, hs, hinput, hloop⟩

theorem filled_block {depth : Nat} {rest : List Line} (text : String) {body : List Stmt}
    (hwf : Stmt.AllWellFormed body) (hr : Closes depth rest) :
    Filled ⟨⟨depth, text⟩, Stmt.blockToPython (depth + 1) body ++ rest⟩
      ⟨⟨depth, text⟩, body⟩ := by
  refine ⟨rfl, fun hcompany => ?_⟩
  have hblock := block_eq text body hr
  cases body with
  | nil =>
      rw [if_neg (fun hall => hall.1 rfl)]
      refine ⟨⟨_, rfl, rfl⟩, ⟨depth + 1, "pass"⟩, ?_, rfl, 'p', by simp, by decide⟩
      rw [hblock]
      exact List.mem_cons_self
  | cons first stmts =>
      have hlines : Stmt.blockToPython (depth + 1) (first :: stmts) =
          Stmt.listToPython (depth + 1) (first :: stmts) := rfl
      rw [hlines] at hblock ⊢
      rw [Stmt.allWellFormed_iff] at hwf
      by_cases hall : ∀ stmt ∈ first :: stmts, stmt.isUnsupportedLoop = true
      · have hcomments := Stmt.listToPython_unsupported hall (depth + 1)
        rw [if_pos ⟨List.cons_ne_nil _ _, hall⟩, hblock]
        refine ⟨hasNext_block text ?_ rest, hcomments⟩
        rw [hcomments]
        exact List.cons_ne_nil _ _
      · obtain ⟨stmt, hs, hinput, hloop⟩ := hcompany.exists_statement hall
        obtain ⟨l, hl, hdepth, hstatement⟩ :=
          Stmt.exists_statement (hwf stmt hs) hloop hinput (depth + 1)
        have hmem := Stmt.mem_listToPython hs hl
        rw [if_neg (fun h => hall h.2)]
        refine ⟨hasNext_block text (List.ne_nil_of_mem hmem) rest, l, ?_, hdepth, hstatement⟩
        rw [hblock]
        exact hmem

/-! ### The lines that open blocks -/

theorem openings_cons_of_opens {depth : Nat} {text : String} (h : Ends (· = ':') text)
    (rest : List Line) :
    openings (⟨depth, text⟩ :: rest) = ⟨⟨depth, text⟩, rest⟩ :: openings rest := by
  obtain ⟨c, hc, rfl⟩ := h
  rw [openings, if_pos]
  simp [Line.opens, hc]

theorem openings_append_of_plain {lines : List Line} (h : ∀ l ∈ lines, Ends (· ≠ ':') l.text)
    (rest : List Line) : openings (lines ++ rest) = openings rest := by
  induction lines with
  | nil => rfl
  | cons l lines ih =>
      obtain ⟨c, hc, hcolon⟩ := h l List.mem_cons_self
      rw [List.cons_append, openings, if_neg]
      · exact ih fun m hm => h m (List.mem_cons_of_mem l hm)
      · simp [Line.opens, hc, hcolon]

theorem openings_pass (depth : Nat) (rest : List Line) :
    openings (⟨depth, "pass"⟩ :: rest) = openings rest := by
  have hplain : ∀ l ∈ [Line.mk depth "pass"], Ends (· ≠ ':') l.text := by
    intro l hl
    cases List.mem_singleton.mp hl
    exact ⟨'s', by simp, by decide⟩
  exact openings_append_of_plain hplain rest

theorem filled_header {depth : Nat} {rest : List Line} {more : List HeadedBody} {text : String}
    (ht : Ends (· = ':') text) {body : List Stmt} (hwf : Stmt.AllWellFormed body)
    (hr : Closes depth rest)
    (hlist : BlocksFilled (Stmt.listToPython (depth + 1) body ++ rest)
      (Stmt.listBodies (depth + 1) body ++ more)) :
    BlocksFilled (⟨depth, text⟩ :: Stmt.blockToPython (depth + 1) body ++ rest)
      (⟨⟨depth, text⟩, body⟩ :: Stmt.listBodies (depth + 1) body ++ more) := by
  rw [BlocksFilled, List.cons_append, openings_cons_of_opens ht]
  refine .cons (filled_block text hwf hr) ?_
  cases body with
  | nil =>
      rw [Stmt.blockToPython, List.singleton_append, openings_pass]
      exact hlist
  | cons => exact hlist

theorem Closes.succ {depth : Nat} {rest : List Line} (h : Closes depth rest) :
    Closes (depth + 1) rest :=
  fun l hl => Nat.le_succ_of_le (h l hl)

theorem ends_plain_toPython {e : Expr} (h : e.WellFormed) : Ends (· ≠ ':') e.toPython :=
  (Expr.ends_toPython h).mono fun _ => not_colon_of_endsOperand

theorem Stmt.ends_plain {stmt : Stmt} (hwf : stmt.WellFormed) {depth : Nat}
    (hbodies : stmt.bodies depth = []) : ∀ l ∈ stmt.toPython depth, Ends (· ≠ ':') l.text := by
  intro l hl
  cases stmt with
  | function | conditional | whileLoop => cases hbodies
  | declare d =>
      cases List.mem_singleton.mp hl
      obtain ⟨type, name, value⟩ := d
      cases value with
      | none => exact Ends.append ⟨'e', by simp, by decide⟩ _
      | some e => exact (ends_plain_toPython (hwf.2 e rfl)).append _
  | assign a =>
      cases List.mem_singleton.mp hl
      exact (ends_plain_toPython hwf.1.2).append _
  | output values =>
      obtain ⟨line, _, rfl⟩ := List.mem_map.mp hl
      exact (ends_callText _ _).mono fun _ => not_colon_of_endsOperand
  | input targets =>
      obtain ⟨name, _, rfl⟩ := List.mem_map.mp hl
      exact Ends.append ⟨')', by simp, by decide⟩ _
  | step op target =>
      cases List.mem_singleton.mp hl
      exact Ends.append ⟨'1', by simp, by decide⟩ _
  | forLoop head body =>
      cases hrange : head.range? with
      | none =>
          simp only [Stmt.toPython, hrange, List.mem_singleton] at hl
          subst hl
          exact ⟨'p', by simp [unsupportedLoopText], by decide⟩
      | some range => simp [Stmt.bodies, hrange] at hbodies
  | result value =>
      cases List.mem_singleton.mp hl
      cases value with
      | none => exact ⟨'n', by simp [resultText], by decide⟩
      | some e => exact (ends_plain_toPython (hwf e rfl)).append _
  | call function args =>
      cases List.mem_singleton.mp hl
      exact (ends_callText _ _).mono fun _ => not_colon_of_endsOperand

theorem ends_colon (front : String) : Ends (· = ':') (front ++ ":") :=
  Ends.append ⟨':', by simp, by simp⟩ front

theorem Range.ends_header (range : Range) : Ends (· = ':') range.header :=
  Ends.append ⟨':', by simp, by simp⟩ _

mutual
/-- The blocks of a statement are filled, and so are those of the lines after it. -/
theorem Stmt.filled (stmt : Stmt) (hwf : stmt.WellFormed) {depth : Nat} {rest : List Line}
    {more : List HeadedBody} (hr : Closes depth rest) (hrest : BlocksFilled rest more) :
    BlocksFilled (stmt.toPython depth ++ rest) (stmt.bodies depth ++ more) := by
  cases stmt with
  | function type name params body =>
      exact filled_header (ends_colon _) hwf.2.2 hr (Stmt.list_filled body hwf.2.2 hr.succ hrest)
  | whileLoop condition body =>
      exact filled_header (ends_colon _) hwf.2 hr (Stmt.list_filled body hwf.2 hr.succ hrest)
  | conditional condition body otherwise =>
      have helse := Else.filled otherwise hwf.2.2 hr hrest
      have hclose := Closes.append (otherwise.head_depth depth) hr
      have hblock := filled_header (ends_colon ("if " ++ condition.toPython)) hwf.2.1 hclose
        (Stmt.list_filled body hwf.2.1 hclose.succ helse)
      simpa [Stmt.toPython, Stmt.bodies] using hblock
  | forLoop head body =>
      cases hrange : head.range? with
      | none =>
          have hbodies : (Stmt.forLoop head body).bodies depth = [] := by
            simp [Stmt.bodies, hrange]
          rw [BlocksFilled, openings_append_of_plain (Stmt.ends_plain hwf hbodies), hbodies]
          exact hrest
      | some range =>
          have hblock := Stmt.list_filled body hwf.2 hr.succ hrest
          simp only [Stmt.toPython, Stmt.bodies, hrange]
          exact filled_header range.ends_header hwf.2 hr hblock
  | declare | assign | output | input | step | result | call =>
      rw [BlocksFilled, openings_append_of_plain (Stmt.ends_plain hwf rfl)]
      exact hrest
termination_by structural stmt

theorem Stmt.list_filled (stmts : List Stmt) (hwf : Stmt.AllWellFormed stmts) {depth : Nat}
    {rest : List Line} {more : List HeadedBody} (hr : Closes depth rest)
    (hrest : BlocksFilled rest more) :
    BlocksFilled (Stmt.listToPython depth stmts ++ rest) (Stmt.listBodies depth stmts ++ more) := by
  cases stmts with
  | nil => exact hrest
  | cons stmt stmts =>
      have hlist := Stmt.list_filled stmts hwf.2 hr hrest
      have hclose := Closes.append (Stmt.list_head_depth stmts depth) hr
      have hstmt := Stmt.filled stmt hwf.1 hclose hlist
      simpa [Stmt.listToPython, Stmt.listBodies] using hstmt
termination_by structural stmts

theorem Else.filled (otherwise : Else) (hwf : otherwise.WellFormed) {depth : Nat}
    {rest : List Line} {more : List HeadedBody} (hr : Closes depth rest)
    (hrest : BlocksFilled rest more) :
    BlocksFilled (otherwise.toPython depth ++ rest) (otherwise.bodies depth ++ more) := by
  cases otherwise with
  | nothing => exact hrest
  | block body =>
      cases body with
      | nil => exact hrest
      | cons stmt stmts =>
          have hblock := Stmt.list_filled (stmt :: stmts) hwf hr.succ hrest
          exact filled_header (ends_colon "else") hwf hr hblock
  | elseIf condition body otherwise =>
      have helse := Else.filled otherwise hwf.2.2 hr hrest
      have hclose := Closes.append (otherwise.head_depth depth) hr
      have hblock := filled_header (ends_colon ("elif " ++ condition.toPython)) hwf.2.1 hclose
        (Stmt.list_filled body hwf.2.1 hclose.succ helse)
      simpa [Else.toPython, Else.bodies] using hblock
termination_by structural otherwise
end

/-! ### Whole programs -/

open Program (OfSource)

theorem Program.flatten_items {p : Program} (hp : p ≠ []) (mainGuard : Bool) :
    (p.items mainGuard).flatten =
      Stmt.listToPython 0 p ++ if mainGuard && p.any (·.isMain) then guardLines else [] := by
  have hown : p.map (·.toPython 0) ≠ [] := by simpa using hp
  rw [items, if_neg (by simp [hown]), List.flatten_append, Stmt.listToPython_eq_flatMap,
    List.flatMap]
  split
  · rw [List.flatten_singleton]
  · rw [List.flatten_nil]

theorem isName_main : IsName "main" := by
  refine ⟨?_, by decide⟩
  simp [IsWord, Piece.isWordStart, Piece.isWordPart]

theorem Program.guard_filled :
    BlocksFilled guardLines [⟨⟨0, "if __name__ == \"__main__\":"⟩, [.call "main" []]⟩] := by
  have hstream : ¬ Derives.IsStream "main" := by simp [Derives.IsStream]
  have hwf : Stmt.AllWellFormed [.call "main" []] := ⟨⟨isName_main, hstream, nofun⟩, trivial⟩
  have hend : Closes 0 [] := nofun
  exact filled_header (ends_colon "if __name__ == \"__main__\"") hwf hend
    (Stmt.list_filled _ hwf hend.succ .nil)

theorem Program.blocksFilled {p : Program} (hwf : Stmt.AllWellFormed p) (mainGuard : Bool) :
    BlocksFilled (p.items mainGuard).flatten (p.bodies mainGuard) := by
  cases p with
  | nil =>
      have hitems : items mainGuard [] = [[⟨0, "pass"⟩]] := by simp [items]
      have hbodies : bodies mainGuard [] = [] := by simp [bodies, Stmt.listBodies]
      rw [hitems, hbodies, BlocksFilled, List.flatten_singleton, openings_pass]
      exact .nil
  | cons stmt stmts =>
      rw [flatten_items (List.cons_ne_nil stmt stmts), bodies]
      split
      · apply Stmt.list_filled (stmt :: stmts) hwf _ guard_filled
        rintro l ⟨⟩
        exact Nat.le_refl 0
      · exact Stmt.list_filled (stmt :: stmts) hwf nofun .nil

/-- The lines that open blocks in the output are those of the bodies in the program,
    and each block is filled. -/
theorem translate_blocksFilled {options : Options} {source output : String}
    (h : (translate options source).result = .ok output) :
    ∃ p, OfSource source p ∧ output = p.toPython options ∧
      BlocksFilled (p.items options.mainGuard).flatten (p.bodies options.mainGuard) := by
  obtain ⟨p, hp, houtput⟩ := translate_eq_ok.mp h
  exact ⟨p, hp, houtput, p.blocksFilled (wellFormed_of_ofSource hp) options.mainGuard⟩

theorem translate_blocksFilled_main :
    ∃ p, OfSource "int main() { while (x) { cin; y = 1; } }" p ∧
      "def main():\n  while x:\n    y = 1\n\nif __name__ == \"__main__\":\n  main()\n" =
        p.toPython ⟨2, true⟩ ∧
      BlocksFilled (p.items true).flatten (p.bodies true) :=
  translate_blocksFilled (by decide +kernel)

/-- A block can be a comment and nothing else. -/
theorem exists_block_without_statement :
    ∃ p, OfSource "void f() { for (int i = 0; i < 10; i = i + 2) { cout << i; } }" p ∧
      ∃ o ∈ openings (p.items false).flatten, ¬ o.HasStatement := by
  have hsource : Program.passes
      (fun p => (p.items false).flatten = [⟨0, "def f():"⟩, ⟨1, unsupportedLoopText⟩])
      "void f() { for (int i = 0; i < 10; i = i + 2) { cout << i; } }" = true := by
    decide +kernel
  obtain ⟨p, hp, htest⟩ := Program.ofSource_of_passes hsource
  have hlines := of_decide_eq_true htest
  refine ⟨p, hp, ⟨⟨0, "def f():"⟩, [⟨1, unsupportedLoopText⟩]⟩, ?_, ?_⟩
  · rw [hlines, openings, if_pos (by decide +kernel)]
    exact List.mem_cons_self
  · rintro ⟨l, hl, -, c, hc, hhash⟩
    cases List.mem_singleton.mp hl
    have hchar : '#' = c := by simpa [unsupportedLoopText] using hc
    exact hhash hchar.symm

end CppToPython
