import CppToPython.Proofs.Concatenation
import CppToPython.Proofs.Emission.Blocks
import CppToPython.Proofs.Emission.Tidy

/-! # The tree in the indentation

Python sees blocks in the leading spaces of lines only. Reading the output that way
gives the tree of the program back, with nothing moved into a block or out of it.
-/

namespace CppToPython

open Emission

/-- A line of Python and the block after it. -/
inductive Node where
  | mk (text : String) (block : List Node)

def Node.leaf (text : String) : Node := .mk text []

/-! ### The tree of a text -/

namespace Emission

/-- A line with its spaces, read with `width` spaces for each block around it. -/
def Line.read (width : Nat) (line : List Char) : Line :=
  ⟨(line.takeWhile (· = ' ')).length / width, String.ofList (line.dropWhile (· = ' '))⟩

/-- Whether there is more than spaces on a line. -/
def hasText (line : List Char) : Bool := line.any (· ≠ ' ')

def readLines (width : Nat) (text : List Char) : List Line :=
  ((text.splitOn '\n').filter hasText).map (Line.read width)

/-- The trees of lines: the block of a line are the deeper lines that follow it. -/
def forest : List Line → List Node
  | [] => []
  | l :: rest =>
      .mk l.text (forest (rest.takeWhile (l.depth < ·.depth))) ::
        forest (rest.dropWhile (l.depth < ·.depth))
termination_by lines => lines.length
decreasing_by
  · exact Nat.lt_succ_of_le (List.takeWhile_sublist _).length_le
  · exact Nat.lt_succ_of_le (List.dropWhile_sublist _).length_le

end Emission

def forestOfText (width : Nat) (text : String) : List Node := forest (readLines width text.toList)

/-! ### The tree of a program -/

def Stmt.texts (stmt : Stmt) : List String := (stmt.toPython 0).map (·.text)

mutual
/-- A header with the trees of its body; an `if` with its `elif`s and its `else` beside
    it; and a leaf for each line of any other statement. -/
def Stmt.forest : Stmt → List Node
  | .function _ name params body => [.mk (functionHeader name params) (Stmt.blockForest body)]
  | .whileLoop condition body =>
      [.mk ("while " ++ condition.toPython ++ ":") (Stmt.blockForest body)]
  | .forLoop head body =>
      match head.range? with
      | some range => [.mk range.header (Stmt.blockForest body)]
      | none => [.leaf unsupportedLoopText]
  | .conditional condition body otherwise =>
      .mk ("if " ++ condition.toPython ++ ":") (Stmt.blockForest body) :: otherwise.forest
  | stmt => stmt.texts.map .leaf

/-- The trees of a body; an empty one is a `pass`. -/
def Stmt.blockForest : List Stmt → List Node
  | [] => [.leaf "pass"]
  | stmt :: stmts => stmt.forest ++ Stmt.listForest stmts

def Stmt.listForest : List Stmt → List Node
  | [] => []
  | stmt :: stmts => stmt.forest ++ Stmt.listForest stmts

/-- An `elif` for each `else if`, and an `else` for a last block that is not empty. -/
def Else.forest : Else → List Node
  | .nothing | .block [] => []
  | .block (stmt :: stmts) => [.mk "else:" (stmt.forest ++ Stmt.listForest stmts)]
  | .elseIf condition body otherwise =>
      .mk ("elif " ++ condition.toPython ++ ":") (Stmt.blockForest body) :: otherwise.forest
end

def Program.forest (p : Program) : List Node := Stmt.blockForest p

/-! ### Trees of lines -/

theorem dropWhile_deeper {depth : Nat} {block rest : List Line}
    (hb : ∀ l ∈ block, depth + 1 ≤ l.depth) (hr : Closes depth rest) :
    (block ++ rest).dropWhile (depth < ·.depth) = rest := by
  apply dropWhile_append_boundary
  · intro l hl
    exact decide_eq_true (hb l hl)
  · intro l hl
    simpa using hr l hl

theorem forest_header {depth : Nat} (text : String) {block rest : List Line}
    (hb : ∀ l ∈ block, depth + 1 ≤ l.depth) (hr : Closes depth rest) :
    forest (⟨depth, text⟩ :: block ++ rest) = .mk text (forest block) :: forest rest := by
  rw [List.cons_append, forest, takeWhile_deeper hb hr, dropWhile_deeper hb hr]

theorem forest_leaves {depth : Nat} (texts : List String) {rest : List Line}
    (hr : Closes depth rest) :
    forest (texts.map (Line.mk depth) ++ rest) = texts.map .leaf ++ forest rest := by
  induction texts with
  | nil => rfl
  | cons text texts ih =>
      have hclose : Closes depth (texts.map (Line.mk depth) ++ rest) := by
        refine Closes.append ?_ hr
        intro l hl
        obtain ⟨text, _, rfl⟩ := List.mem_map.mp (List.mem_of_mem_head? hl)
        rfl
      have hleaf := forest_header text (List.forall_mem_nil _) hclose
      simpa [forest, ih, Node.leaf] using hleaf

/-- A statement without a block has all its lines at its own depth. -/
theorem Stmt.toPython_eq_texts {stmt : Stmt} {depth : Nat} (hbodies : stmt.bodies depth = []) :
    stmt.toPython depth = stmt.texts.map (Line.mk depth) := by
  cases stmt with
  | function | conditional | whileLoop => cases hbodies
  | declare | assign | step | result | call => rfl
  | output | input => simp [Stmt.texts, Stmt.toPython]
  | forLoop head body =>
      cases hrange : head.range? with
      | none => simp [Stmt.texts, Stmt.toPython, hrange]
      | some range => simp [Stmt.bodies, hrange] at hbodies

theorem Stmt.forest_eq_texts {stmt : Stmt} {depth : Nat} (hbodies : stmt.bodies depth = []) :
    stmt.forest = stmt.texts.map .leaf := by
  cases stmt with
  | function | conditional | whileLoop => cases hbodies
  | declare | assign | output | input | step | result | call => rfl
  | forLoop head body =>
      cases hrange : head.range? with
      | none => simp [Stmt.forest, Stmt.texts, Stmt.toPython, hrange]
      | some range => simp [Stmt.bodies, hrange] at hbodies

theorem Stmt.forest_leaf {stmt : Stmt} {depth : Nat} (hbodies : stmt.bodies depth = [])
    {rest : List Line} (hr : Closes depth rest) :
    Emission.forest (stmt.toPython depth ++ rest) = stmt.forest ++ Emission.forest rest := by
  rw [Stmt.toPython_eq_texts hbodies, Stmt.forest_eq_texts hbodies, forest_leaves _ hr]

theorem forest_block {depth : Nat} (text : String) {body : List Stmt} {rest : List Line}
    (hr : Closes depth rest)
    (hlist : forest (Stmt.listToPython (depth + 1) body ++ []) = Stmt.listForest body ++ forest []) :
    forest (⟨depth, text⟩ :: Stmt.blockToPython (depth + 1) body ++ rest) =
      .mk text (Stmt.blockForest body) :: forest rest := by
  rw [forest_header text (le_depth_block (Stmt.list_le_depth body (depth + 1))) hr]
  cases body with
  | nil => simp [Stmt.blockToPython, Stmt.blockForest, forest, Node.leaf]
  | cons stmt stmts =>
      rw [forest, List.append_nil, List.append_nil] at hlist
      exact congrArg (Node.mk text · :: forest rest) hlist

mutual
theorem Stmt.forest_toPython (stmt : Stmt) {depth : Nat} {rest : List Line}
    (hr : Closes depth rest) :
    Emission.forest (stmt.toPython depth ++ rest) = stmt.forest ++ Emission.forest rest := by
  cases stmt with
  | declare | assign | output | input | step | result | call => exact Stmt.forest_leaf rfl hr
  | function type name params body => exact forest_block _ hr (Stmt.forest_list body (closes_nil _))
  | whileLoop condition body => exact forest_block _ hr (Stmt.forest_list body (closes_nil _))
  | conditional condition body otherwise =>
      have hclose := Closes.append (otherwise.head_depth depth) hr
      have hblock := forest_block ("if " ++ condition.toPython ++ ":") hclose
        (Stmt.forest_list body (closes_nil _))
      simpa [Stmt.toPython, Stmt.forest, Else.forest_toPython otherwise hr] using hblock
  | forLoop head body =>
      cases hrange : head.range? with
      | none => exact Stmt.forest_leaf (by simp [Stmt.bodies, hrange]) hr
      | some range =>
          simp only [Stmt.toPython, Stmt.forest, hrange]
          exact forest_block _ hr (Stmt.forest_list body (closes_nil _))
termination_by structural stmt

theorem Stmt.forest_list (stmts : List Stmt) {depth : Nat} {rest : List Line}
    (hr : Closes depth rest) :
    Emission.forest (Stmt.listToPython depth stmts ++ rest) =
      Stmt.listForest stmts ++ Emission.forest rest := by
  cases stmts with
  | nil => rfl
  | cons stmt stmts =>
      have hclose := Closes.append (Stmt.list_head_depth stmts depth) hr
      rw [Stmt.listToPython, List.append_assoc, Stmt.forest_toPython stmt hclose,
        Stmt.forest_list stmts hr, Stmt.listForest, List.append_assoc]
termination_by structural stmts

theorem Else.forest_toPython (otherwise : Else) {depth : Nat} {rest : List Line}
    (hr : Closes depth rest) :
    Emission.forest (otherwise.toPython depth ++ rest) =
      otherwise.forest ++ Emission.forest rest := by
  cases otherwise with
  | nothing => rfl
  | block body =>
      cases body with
      | nil => rfl
      | cons stmt stmts => exact forest_block _ hr (Stmt.forest_list (stmt :: stmts) (closes_nil _))
  | elseIf condition body otherwise =>
      have hclose := Closes.append (otherwise.head_depth depth) hr
      have hblock := forest_block ("elif " ++ condition.toPython ++ ":") hclose
        (Stmt.forest_list body (closes_nil _))
      simpa [Else.toPython, Else.forest, Else.forest_toPython otherwise hr] using hblock
termination_by structural otherwise
end

/-! ### Reading lines back -/

namespace Emission

def Line.indented (width : Nat) (l : Line) : List Char :=
  List.replicate (l.depth * width) ' ' ++ l.text.toList

theorem toList_render (width : Nat) (l : Line) :
    (l.render width).toList = l.indented width ++ ['\n'] := by
  simp [Line.render, Line.indented]

theorem splitOn_line (a b : List Char) :
    (a ++ '\n' :: b).splitOn '\n' = a.splitOn '\n' ++ b.splitOn '\n' :=
  List.splitOnP_append_cons a b (by simp)

end Emission

section Reading

variable (width : Nat) {l : Line}

theorem StandsAlone.splitOn_indented (h : StandsAlone l.text) :
    (l.indented width).splitOn '\n' = [l.indented width] := by
  have hline : '\n' ∉ l.indented width := by simp [Line.indented, h.tidy.inLine]
  apply List.splitOnP_eq_singleton
  intro c hc
  simp only [beq_eq_false_iff_ne]
  rintro rfl
  exact hline hc

/-- The spaces of a line are those of its depth, since its text starts with none. -/
theorem StandsAlone.span_indented (h : StandsAlone l.text) :
    (l.indented width).takeWhile (· = ' ') = List.replicate (l.depth * width) ' ' ∧
      (l.indented width).dropWhile (· = ' ') = l.text.toList := by
  obtain ⟨c, hc, hspace⟩ := h.starts
  have hspaces : ∀ d ∈ List.replicate (l.depth * width) ' ', decide (d = ' ') = true := by simp
  have htext : ∀ d ∈ l.text.toList.head?, decide (d = ' ') = false := by simpa [hc] using hspace
  exact ⟨takeWhile_append_boundary hspaces htext, dropWhile_append_boundary hspaces htext⟩

theorem StandsAlone.hasText_indented (h : StandsAlone l.text) :
    hasText (l.indented width) = true := by
  obtain ⟨c, hc, hspace⟩ := h.starts
  rw [hasText, List.any_eq_true]
  exact ⟨c, List.mem_append_right _ (List.mem_of_mem_head? hc), by simpa using hspace⟩

theorem StandsAlone.read_indented {width : Nat} (hw : 0 < width) (h : StandsAlone l.text) :
    Line.read width (l.indented width) = l := by
  obtain ⟨hspaces, htext⟩ := h.span_indented width
  rw [Line.read, hspaces, htext, List.length_replicate, Nat.mul_div_cancel _ hw,
    String.ofList_toList]

theorem StandsAlone.balanced_indented (h : StandsAlone l.text) : Balanced (l.indented width) := by
  have hspaces : Tidy (String.ofList (List.replicate (l.depth * width) ' ')) :=
    tidy_of_all (by simp [isQuiet])
  have hline := (hspaces.append h.tidy).balanced
  rwa [String.toList_append, String.toList_ofList] at hline

theorem splitOn_renderLines {lines : List Line} (h : ∀ l ∈ lines, StandsAlone l.text) :
    (renderLines width lines).toList.splitOn '\n' = lines.map (Line.indented width) ++ [[]] := by
  induction lines with
  | nil => simp [renderLines, String.join]
  | cons l lines ih =>
      have hline := (h l List.mem_cons_self).splitOn_indented width
      have hlines := ih fun m hm => h m (List.mem_cons_of_mem l hm)
      rw [renderLines] at hlines ⊢
      rw [List.map_cons, String.join_cons, String.toList_append, toList_render,
        List.append_assoc, List.singleton_append, splitOn_line, hline, hlines]
      rfl

theorem splitOn_items {items : List (List Line)} (hne : items ≠ [])
    (h : ∀ lines ∈ items, ∀ l ∈ lines, StandsAlone l.text) :
    (String.intercalate "\n" (items.map (renderLines width))).toList.splitOn '\n' =
      items.flatMap fun lines => lines.map (Line.indented width) ++ [[]] := by
  induction items with
  | nil => exact absurd rfl hne
  | cons lines items ih =>
      have hlines := splitOn_renderLines width (h lines List.mem_cons_self)
      cases items with
      | nil => simpa using hlines
      | cons next items =>
          have hitems := ih (List.cons_ne_nil next items)
            fun m hm => h m (List.mem_cons_of_mem lines hm)
          rw [List.map_cons, List.map_cons, String.intercalate_cons_cons, String.toList_append,
            String.toList_append, List.append_assoc, List.flatMap_cons, ← hitems, ← hlines]
          exact splitOn_line _ _

variable {width}

theorem map_read_filter {lines : List Line} (hw : 0 < width)
    (h : ∀ l ∈ lines, StandsAlone l.text) :
    ((lines.map (Line.indented width) ++ [[]]).filter hasText).map (Line.read width) = lines := by
  have hall : ∀ line ∈ lines.map (Line.indented width), hasText line = true := by
    intro line hline
    obtain ⟨l, hl, rfl⟩ := List.mem_map.mp hline
    exact (h l hl).hasText_indented width
  have hread : lines.map (Line.read width ∘ Line.indented width) = lines.map id :=
    List.map_congr_left fun l hl => (h l hl).read_indented hw
  rw [List.filter_append, List.filter_eq_self.mpr hall, List.map_append, List.map_map, hread]
  simp [hasText]

theorem readLines_renderLines {lines : List Line} (hw : 0 < width)
    (h : ∀ l ∈ lines, StandsAlone l.text) :
    readLines width (renderLines width lines).toList = lines := by
  rw [readLines, splitOn_renderLines width h, map_read_filter hw h]

theorem readLines_items {items : List (List Line)} (hne : items ≠ []) (hw : 0 < width)
    (h : ∀ lines ∈ items, ∀ l ∈ lines, StandsAlone l.text) :
    readLines width (String.intercalate "\n" (items.map (renderLines width))).toList =
      items.flatten := by
  rw [readLines, splitOn_items width hne h, List.filter_flatMap, List.map_flatMap,
    List.flatten_eq_flatMap]
  exact List.flatMap_congr fun lines hl => map_read_filter hw (h lines hl)

end Reading

/-! ### Whole programs -/

namespace Program

theorem items_nil (mainGuard : Bool) : items mainGuard [] = [[⟨0, "pass"⟩]] := by
  simp [items]

theorem items_of_ne_nil {p : Program} (hp : p ≠ []) (mainGuard : Bool) :
    p.items mainGuard =
      p.map (·.toPython 0) ++ if mainGuard && p.any (·.isMain) then [guardLines] else [] := by
  rw [items, if_neg]
  simp [hp]

theorem mem_items {mainGuard : Bool} {p : Program} {lines : List Line}
    (h : lines ∈ p.items mainGuard) :
    (∃ stmt ∈ p, lines = stmt.toPython 0) ∨ lines = guardLines ∨ lines = [⟨0, "pass"⟩] := by
  cases p with
  | nil =>
      rw [items_nil] at h
      exact .inr (.inr (List.mem_singleton.mp h))
  | cons stmt stmts =>
      rw [items_of_ne_nil (List.cons_ne_nil stmt stmts)] at h
      rcases List.mem_append.mp h with h | h
      · obtain ⟨s, hs, rfl⟩ := List.mem_map.mp h
        exact .inl ⟨s, hs, rfl⟩
      · split at h
        · exact .inr (.inl (List.mem_singleton.mp h))
        · cases h

theorem items_nonempty (mainGuard : Bool) (p : Program) : p.items mainGuard ≠ [] := by
  cases p with
  | nil => simp [items_nil]
  | cons stmt stmts => simp [items_of_ne_nil]

theorem guardLines_standAlone : ∀ l ∈ guardLines, StandsAlone l.text := by
  have hheader : StandsAlone "if __name__ == \"__main__\":" :=
    ⟨⟨by decide, fun _ => rfl⟩, 'i', by decide, by decide⟩
  have hcall : StandsAlone (callText "main" []) := standsAlone_callText isName_main nofun
  intro l hl
  rcases List.mem_cons.mp hl with rfl | hl
  · exact hheader
  · rw [List.mem_singleton.mp hl]
    exact hcall

theorem items_allStandAlone {p : Program} (hwf : Stmt.AllWellFormed p) (mainGuard : Bool) :
    ∀ lines ∈ p.items mainGuard, ∀ l ∈ lines, StandsAlone l.text := by
  intro lines hlines
  rcases mem_items hlines with ⟨stmt, hstmt, rfl⟩ | rfl | rfl
  · exact stmt.standsAlone (Stmt.allWellFormed_iff.mp hwf stmt hstmt) 0
  · exact guardLines_standAlone
  · simpa using standsAlone_pass

theorem forest_blockToPython (p : Program) (depth : Nat) :
    Emission.forest (Stmt.blockToPython depth p) = p.forest := by
  cases p with
  | nil => simp [Stmt.blockToPython, Emission.forest, Program.forest, Stmt.blockForest, Node.leaf]
  | cons stmt stmts =>
      have hlist := Stmt.forest_list (stmt :: stmts) (closes_nil depth)
      rw [List.append_nil, Emission.forest, List.append_nil] at hlist
      exact hlist

theorem flatten_items_false (p : Program) : (p.items false).flatten = Stmt.blockToPython 0 p := by
  cases p with
  | nil => simp [items, Stmt.blockToPython]
  | cons stmt stmts => simp [flatten_items, Stmt.blockToPython, Stmt.listToPython]

/-- The output, read by its indentation, is the tree of the program. -/
theorem forestOfText_toPython {options : Options} (hguard : options.mainGuard = false)
    (hw : 0 < options.indentWidth) {p : Program} (hwf : Stmt.AllWellFormed p) :
    forestOfText options.indentWidth (p.toPython options) = p.forest := by
  rw [forestOfText, toPython, hguard, readLines_items (p.items_nonempty false) hw
    (items_allStandAlone hwf false), flatten_items_false, forest_blockToPython]

end Program

open Program (OfSource)

/-- The indentation of the output is the tree of the program, and no line gets in the way of
    that: all are indented by whole steps and hold no line feed and no open parenthesis. -/
theorem translate_forest {options : Options} {source output : String}
    (hguard : options.mainGuard = false) (hw : 0 < options.indentWidth)
    (h : (translate options source).result = .ok output) :
    ∃ p, OfSource source p ∧ forestOfText options.indentWidth output = p.forest ∧
      (∀ line ∈ output.toList.splitOn '\n',
        options.indentWidth ∣ (line.takeWhile (· = ' ')).length ∧ Balanced line) ∧
      ∀ l ∈ (p.items false).flatten, '\n' ∉ l.text.toList := by
  obtain ⟨p, hp, rfl⟩ := translate_eq_ok.mp h
  have hwf := wellFormed_of_ofSource hp
  have halone := Program.items_allStandAlone hwf false
  refine ⟨p, hp, Program.forestOfText_toPython hguard hw hwf, ?_, ?_⟩
  · intro line hline
    rw [Program.toPython, hguard, splitOn_items _ (p.items_nonempty false) halone] at hline
    obtain ⟨lines, hlines, hline⟩ := List.mem_flatMap.mp hline
    rcases List.mem_append.mp hline with hline | hline
    · obtain ⟨l, hl, rfl⟩ := List.mem_map.mp hline
      have hl := halone lines hlines l hl
      refine ⟨?_, hl.balanced_indented _⟩
      rw [(hl.span_indented _).1, List.length_replicate]
      exact Nat.dvd_mul_left _ _
    · rw [List.mem_singleton.mp hline]
      exact ⟨Nat.dvd_zero _, rfl⟩
  · intro l hl
    obtain ⟨lines, hlines, hl⟩ := List.mem_flatten.mp hl
    exact (halone lines hlines l hl).tidy.inLine

theorem translate_forest_branches :
    ∃ p, OfSource "x = f(\"(\"); if (a) { cin; y = 1; } else if (b) { } else { y++; }" p ∧
      forestOfText 2 "x = f(\"(\")\n\nif a:\n  y = 1\nelif b:\n  pass\nelse:\n  y += 1\n" =
        p.forest ∧
      (∀ line ∈ "x = f(\"(\")\n\nif a:\n  y = 1\nelif b:\n  pass\nelse:\n  y += 1\n".toList.splitOn
          '\n', 2 ∣ (line.takeWhile (· = ' ')).length ∧ Balanced line) ∧
      ∀ l ∈ (p.items false).flatten, '\n' ∉ l.text.toList :=
  have hresult : (translate ⟨2, false⟩
      "x = f(\"(\"); if (a) { cin; y = 1; } else if (b) { } else { y++; }").result =
        .ok "x = f(\"(\")\n\nif a:\n  y = 1\nelif b:\n  pass\nelse:\n  y += 1\n" := by
    decide +kernel
  translate_forest rfl (by decide) hresult

end CppToPython
