import CppToPython.Proofs.Emission.Options
import CppToPython.Proofs.Position

/-! # Placeholders and warnings

A loop that is no counting loop leaves a comment in the output and a warning in the log. What
stands inside of it leaves neither. `Stmt.loopSites` lists all loops of a program with the loops
around them, and `Reported` compares the lines and the warnings of a statement with it.

No other line of output is such a comment: all other lines start with a name or a word of the
language.
-/

namespace CppToPython

open Emission

/-! ### Loops -/

/-- A `for` loop of a program: its head, the number of blocks around it, and the heads of the `for`
    loops around it. -/
structure LoopSite where
  head : LoopHead
  depth : Nat
  around : List LoopHead

namespace LoopSite

/-- Whether a loop has no equivalent and is inside of no other such loop. -/
def isLeftOut (site : LoopSite) : Bool :=
  site.head.range?.isNone && site.around.all (·.range?.isSome)

def counter (site : LoopSite) : Option String := site.head.init.map LoopInit.name

def placeholder (site : LoopSite) : Line := ⟨site.depth, unsupportedLoopText⟩

end LoopSite

mutual
/-- All `for` loops of a statement in the order in which they are written, those inside of other
    loops included. An `else if` is as deep as its `if`. -/
def Stmt.loopSites (depth : Nat) (around : List LoopHead) : Stmt → List LoopSite
  | .function _ _ _ body => Stmt.listLoopSites (depth + 1) around body
  | .conditional _ body otherwise =>
      Stmt.listLoopSites (depth + 1) around body ++ otherwise.loopSites depth around
  | .forLoop head body =>
      ⟨head, depth, around⟩ :: Stmt.listLoopSites (depth + 1) (head :: around) body
  | .whileLoop _ body => Stmt.listLoopSites (depth + 1) around body
  | .declare _ | .assign _ | .output _ | .input _ | .step _ _ | .result _ | .call _ _ => []

def Stmt.listLoopSites (depth : Nat) (around : List LoopHead) : List Stmt → List LoopSite
  | [] => []
  | stmt :: stmts => stmt.loopSites depth around ++ Stmt.listLoopSites depth around stmts

def Else.loopSites (depth : Nat) (around : List LoopHead) : Else → List LoopSite
  | .nothing => []
  | .block body => Stmt.listLoopSites (depth + 1) around body
  | .elseIf _ body otherwise =>
      Stmt.listLoopSites (depth + 1) around body ++ otherwise.loopSites depth around
end

mutual
/-- Inside of a loop without equivalent, no loop is left out on its own. -/
theorem Stmt.not_isLeftOut (stmt : Stmt) (depth : Nat) {around : List LoopHead}
    (h : ∃ outer ∈ around, outer.range? = none) :
    ∀ site ∈ stmt.loopSites depth around, site.isLeftOut = false := by
  cases stmt with
  | function type name params body => exact Stmt.list_not_isLeftOut body (depth + 1) h
  | whileLoop condition body => exact Stmt.list_not_isLeftOut body (depth + 1) h
  | declare | assign | output | input | step | result | call => exact List.forall_mem_nil _
  | conditional condition body otherwise =>
      exact List.forall_mem_append.mpr
        ⟨Stmt.list_not_isLeftOut body (depth + 1) h, Else.not_isLeftOut otherwise depth h⟩
  | forLoop head body =>
      obtain ⟨outer, hmem, hrange⟩ := h
      refine List.forall_mem_cons.mpr ⟨?_, ?_⟩
      · have hall : around.all (·.range?.isSome) = false :=
          List.all_eq_false.mpr ⟨outer, hmem, by simp [hrange]⟩
        rw [LoopSite.isLeftOut, hall, Bool.and_false]
      · exact Stmt.list_not_isLeftOut body (depth + 1)
          ⟨outer, List.mem_cons_of_mem head hmem, hrange⟩
termination_by structural stmt

theorem Stmt.list_not_isLeftOut (stmts : List Stmt) (depth : Nat) {around : List LoopHead}
    (h : ∃ outer ∈ around, outer.range? = none) :
    ∀ site ∈ Stmt.listLoopSites depth around stmts, site.isLeftOut = false := by
  cases stmts with
  | nil => exact List.forall_mem_nil _
  | cons stmt stmts =>
      exact List.forall_mem_append.mpr
        ⟨Stmt.not_isLeftOut stmt depth h, Stmt.list_not_isLeftOut stmts depth h⟩
termination_by structural stmts

theorem Else.not_isLeftOut (otherwise : Else) (depth : Nat) {around : List LoopHead}
    (h : ∃ outer ∈ around, outer.range? = none) :
    ∀ site ∈ otherwise.loopSites depth around, site.isLeftOut = false := by
  cases otherwise with
  | nothing => exact List.forall_mem_nil _
  | block body => exact Stmt.list_not_isLeftOut body (depth + 1) h
  | elseIf condition body otherwise =>
      exact List.forall_mem_append.mpr
        ⟨Stmt.list_not_isLeftOut body (depth + 1) h, Else.not_isLeftOut otherwise depth h⟩
termination_by structural otherwise
end

/-! ### Lines and warnings of a statement -/

/-- Of the loops, those that are left out are the placeholders among `lines` and have `counters` as
    their variables, one for each and in the same order. -/
structure Reported (lines : List Line) (counters : List (Option String)) (sites : List LoopSite) :
    Prop where
  lines : lines.filter (·.text = unsupportedLoopText) =
    (sites.filter (·.isLeftOut)).map (·.placeholder)
  counters : counters = (sites.filter (·.isLeftOut)).map (·.counter)

theorem Emission.Line.IsStatement.ne_placeholder {l : Line} (h : l.IsStatement) :
    l.text ≠ unsupportedLoopText := by
  intro htext
  obtain ⟨c, hc, hhash⟩ := h
  rw [htext] at hc
  cases hc
  exact hhash rfl

namespace Reported

variable {l : Line} {lines more : List Line} {counters others : List (Option String)}
  {sites rest : List LoopSite} {site : LoopSite}

theorem append (h : Reported lines counters sites) (h' : Reported more others rest) :
    Reported (lines ++ more) (counters ++ others) (sites ++ rest) := by
  constructor
  · rw [List.filter_append, List.filter_append, List.map_append, h.lines, h'.lines]
  · rw [List.filter_append, List.map_append, ← h.counters, ← h'.counters]

theorem plain (h : ∀ l ∈ lines, l.IsStatement) : Reported lines [] [] := by
  refine ⟨List.filter_eq_nil_iff.mpr ?_, rfl⟩
  intro l hl
  simpa using (h l hl).ne_placeholder

theorem header (hl : l.IsStatement) (h : Reported lines counters sites) :
    Reported (l :: lines) counters sites :=
  (plain (List.forall_mem_singleton.mpr hl)).append h

theorem block {depth : Nat} {body : List Stmt}
    (h : Reported (Stmt.listToPython depth body) counters sites) :
    Reported (Stmt.blockToPython depth body) counters sites := by
  cases body with
  | nil => exact header ⟨'p', by simp, by decide⟩ h
  | cons stmt stmts => exact h

theorem loop (hsite : site.isLeftOut = false) (hl : l.IsStatement)
    (h : Reported lines counters sites) : Reported (l :: lines) counters (site :: sites) := by
  have hfilter : (site :: sites).filter (·.isLeftOut) = sites.filter (·.isLeftOut) :=
    List.filter_cons_of_neg (by simp [hsite])
  constructor
  · rw [hfilter]
    exact (header hl h).lines
  · rw [hfilter]
    exact h.counters

/-- A loop that is left out leaves its placeholder, and nothing inside of it is left out again. -/
theorem leftOut (hsite : site.isLeftOut = true) (hsites : ∀ s ∈ sites, s.isLeftOut = false) :
    Reported [site.placeholder] [site.counter] (site :: sites) := by
  have hfilter : (site :: sites).filter (·.isLeftOut) = [site] := by
    rw [List.filter_cons_of_pos hsite, List.filter_eq_nil_iff.mpr]
    intro s hs
    simp [hsites s hs]
  constructor
  · rw [hfilter]
    rfl
  · rw [hfilter]
    rfl

end Reported

def Stmt.isBlockless : Stmt → Bool
  | .declare _ | .assign _ | .output _ | .input _ | .step _ _ | .result _ | .call _ _ => true
  | .function .. | .conditional .. | .forLoop .. | .whileLoop .. => false

theorem Stmt.isStatement_of_isBlockless {stmt : Stmt} (hwf : stmt.WellFormed)
    (hblock : stmt.isBlockless = true) (depth : Nat) : ∀ l ∈ stmt.toPython depth, l.IsStatement := by
  cases stmt with
  | function | conditional | forLoop | whileLoop => cases hblock
  | declare d => exact List.forall_mem_singleton.mpr ((hwf.1.isStatement depth _).append _)
  | assign a => exact List.forall_mem_singleton.mpr ((hwf.1.1.isStatement depth _).append _)
  | output values =>
      exact List.forall_mem_map.mpr fun line _ => ⟨'p', by simp [callText], by decide⟩
  | input targets =>
      exact List.forall_mem_map.mpr fun name hname =>
        ((hwf name hname).isStatement depth _).append _
  | step op target =>
      have hstart := hwf.starts_variableText.mono fun _ => not_hash_of_isWordStart
      exact List.forall_mem_singleton.mpr (((hstart.append _).append _).append _)
  | result value =>
      refine List.forall_mem_singleton.mpr ⟨'r', ?_, by decide⟩
      cases value <;> simp [resultText]
  | call function args =>
      exact List.forall_mem_singleton.mpr (((hwf.1.isStatement depth _).append _).append _)

mutual
/-- What a statement reports is what it leaves out, if the loops around it are written. -/
theorem Stmt.reported (stmt : Stmt) (hwf : stmt.WellFormed) (depth : Nat) {around : List LoopHead}
    (h : around.all (·.range?.isSome) = true) :
    Reported (stmt.toPython depth) stmt.unsupportedLoops (stmt.loopSites depth around) := by
  cases stmt with
  | function type name params body =>
      have hbody := Stmt.list_reported body hwf.2.2 (depth + 1) h
      exact hbody.block.header ⟨'d', by simp [functionHeader], by decide⟩
  | conditional condition body otherwise =>
      have hbody := Stmt.list_reported body hwf.2.1 (depth + 1) h
      have hif := hbody.block.header (l := ⟨depth, "if " ++ condition.toPython ++ ":"⟩)
        ⟨'i', by simp, by decide⟩
      exact hif.append (Else.reported otherwise hwf.2.2 depth h)
  | whileLoop condition body =>
      have hbody := Stmt.list_reported body hwf.2 (depth + 1) h
      exact hbody.block.header ⟨'w', by simp, by decide⟩
  | forLoop head body =>
      cases hrange : head.range? with
      | none =>
          have hsite : LoopSite.isLeftOut ⟨head, depth, around⟩ = true := by
            rw [LoopSite.isLeftOut, hrange, h]
            rfl
          have hinside := Stmt.list_not_isLeftOut body (depth + 1)
            ⟨head, List.mem_cons_self (l := around), hrange⟩
          simp only [Stmt.toPython, Stmt.unsupportedLoops, hrange]
          exact .leftOut hsite hinside
      | some range =>
          have hsite : LoopSite.isLeftOut ⟨head, depth, around⟩ = false := by
            rw [LoopSite.isLeftOut, hrange]
            rfl
          have haround : (head :: around).all (·.range?.isSome) = true := by
            rw [List.all_cons, hrange, h]
            rfl
          have hbody := Stmt.list_reported body hwf.2 (depth + 1) haround
          have hheader : (Line.mk depth range.header).IsStatement :=
            ⟨'f', by simp [Range.header], by decide⟩
          simp only [Stmt.toPython, Stmt.unsupportedLoops, hrange]
          exact hbody.block.loop hsite hheader
  | declare | assign | output | input | step | result | call =>
      exact .plain (Stmt.isStatement_of_isBlockless hwf rfl depth)
termination_by structural stmt

theorem Stmt.list_reported (stmts : List Stmt) (hwf : Stmt.AllWellFormed stmts) (depth : Nat)
    {around : List LoopHead} (h : around.all (·.range?.isSome) = true) :
    Reported (Stmt.listToPython depth stmts) (Stmt.listUnsupportedLoops stmts)
      (Stmt.listLoopSites depth around stmts) := by
  cases stmts with
  | nil => exact .plain (List.forall_mem_nil _)
  | cons stmt stmts =>
      exact (Stmt.reported stmt hwf.1 depth h).append (Stmt.list_reported stmts hwf.2 depth h)
termination_by structural stmts

theorem Else.reported (otherwise : Else) (hwf : otherwise.WellFormed) (depth : Nat)
    {around : List LoopHead} (h : around.all (·.range?.isSome) = true) :
    Reported (otherwise.toPython depth) otherwise.unsupportedLoops
      (otherwise.loopSites depth around) := by
  cases otherwise with
  | nothing => exact .plain (List.forall_mem_nil _)
  | block body =>
      have hbody := Stmt.list_reported body hwf (depth + 1) h
      cases body with
      | nil => exact hbody
      | cons stmt stmts => exact hbody.header ⟨'e', by simp, by decide⟩
  | elseIf condition body otherwise =>
      have hbody := Stmt.list_reported body hwf.2.1 (depth + 1) h
      have helif := hbody.block.header (l := ⟨depth, "elif " ++ condition.toPython ++ ":"⟩)
        ⟨'e', by simp, by decide⟩
      exact helif.append (Else.reported otherwise hwf.2.2 depth h)
termination_by structural otherwise
end

/-! ### The output of a program -/

namespace Program

variable {p : Program} (options : Options)

end Program

open Program (OfSource)

end CppToPython
