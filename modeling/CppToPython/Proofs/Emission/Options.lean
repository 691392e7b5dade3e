import CppToPython.Proofs.Emission.Forest

/-! # What the options change

The guard stands after everything else, and the width is only used for the spaces that a line
starts with. So the outputs of one program for two widths are the same line by line, these spaces
apart.
-/

namespace CppToPython

open Emission

/-! ### The guard -/

def Program.DefinesMain (p : Program) : Prop :=
  ∃ type params body, Stmt.function type "main" params body ∈ p

theorem Program.any_isMain {p : Program} : p.any (·.isMain) = true ↔ p.DefinesMain := by
  rw [List.any_eq_true]
  constructor
  · rintro ⟨stmt, hstmt, hmain⟩
    cases stmt with
    | function type name params body =>
        obtain rfl : name = "main" := of_decide_eq_true hmain
        exact ⟨type, params, body, hstmt⟩
    | declare | assign | output | input | step | conditional | forLoop | whileLoop | result | call =>
        cases hmain
  · rintro ⟨type, params, body, hstmt⟩
    exact ⟨_, hstmt, rfl⟩

def guardText (width : Nat) : String :=
  "if __name__ == \"__main__\":" ++ "\n" ++ String.ofList (List.replicate width ' ') ++ "main()" ++
    "\n"

theorem renderLines_pair (width : Nat) (header body : String) :
    renderLines width [⟨0, header⟩, ⟨1, body⟩] =
      header ++ "\n" ++ String.ofList (List.replicate width ' ') ++ body ++ "\n" := by
  simp [renderLines, Line.render, String.append_assoc]

theorem renderLines_guardLines (width : Nat) :
    renderLines width Program.guardLines = guardText width :=
  renderLines_pair width _ _

namespace Program

variable {p : Program} (width : Nat)

theorem toPython_guarded (h : p.DefinesMain) :
    p.toPython ⟨width, true⟩ = p.toPython ⟨width, false⟩ ++ "\n" ++ guardText width := by
  have hne : p ≠ [] := by
    rintro rfl
    obtain ⟨_, _, _, hmem⟩ := h
    cases hmem
  have hitems : p.items true = p.items false ++ [guardLines] := by
    simp [items_of_ne_nil hne, any_isMain.mpr h]
  rw [toPython, hitems, List.map_append, String.intercalate_append_of_ne_nil]
  · rw [List.map_singleton, String.intercalate_singleton, renderLines_guardLines]
    rfl
  · simp [items_nonempty]
  · simp

theorem toPython_unguarded (h : ¬ p.DefinesMain) :
    p.toPython ⟨width, true⟩ = p.toPython ⟨width, false⟩ := by
  have hmain : p.any (·.isMain) = false := by rwa [← Bool.not_eq_true, any_isMain]
  have hitems : p.items true = p.items false := by simp [items, hmain]
  rw [toPython, toPython, hitems]

end Program

/-! ### The end of the output -/

section Ends

variable (width : Nat)

theorem ends_lineFeed (front : String) : Ends (· = '\n') (front ++ "\n") := by
  have hend : Ends (· = '\n') "\n" := ⟨'\n', by decide, rfl⟩
  exact hend.append front

theorem ends_renderLines {lines : List Line} (h : lines ≠ []) :
    Ends (· = '\n') (renderLines width lines) := by
  induction lines with
  | nil => exact absurd rfl h
  | cons l lines ih =>
      rw [renderLines, List.map_cons, String.join_cons]
      by_cases hnil : lines = []
      · rw [hnil, List.map_nil, String.join_nil, String.append_empty]
        exact ends_lineFeed _
      · exact (ih hnil).append _

theorem ends_items {lines : List Line} {items : List (List Line)} (h : lines ≠ [] ∨ items ≠ []) :
    Ends (· = '\n') (String.intercalate "\n" ((lines :: items).map (renderLines width))) := by
  induction items generalizing lines with
  | nil => simpa using ends_renderLines width (h.resolve_right fun hne => hne rfl)
  | cons next items ih =>
      rw [List.map_cons, List.map_cons, String.intercalate_cons_cons]
      by_cases hrest : next ≠ [] ∨ items ≠ []
      · exact (ih hrest).append _
      · obtain ⟨rfl, rfl⟩ : next = [] ∧ items = [] := by simpa using hrest
        have hnothing : renderLines width [] = "" := String.join_nil
        rw [List.map_nil, String.intercalate_singleton, hnothing, String.append_empty]
        exact ends_lineFeed _

end Ends

theorem Program.ends_toPython {p : Program} (width : Nat) (h : p.DefinesMain) :
    Ends (· = '\n') (p.toPython ⟨width, false⟩) := by
  obtain ⟨type, params, body, hmem⟩ := h
  cases p with
  | nil => cases hmem
  | cons stmt stmts =>
      rw [toPython, items_eq_map (List.cons_ne_nil stmt stmts)]
      apply ends_items
      cases stmts with
      | nil =>
          rw [← List.mem_singleton.mp hmem]
          exact .inl (List.cons_ne_nil _ _)
      | cons next stmts => exact .inr (List.cons_ne_nil _ _)

/-! ### The width -/

/-- Two lines that have the same text at the same depth, written with two widths. -/
def SameLine (width₁ width₂ : Nat) (line₁ line₂ : List Char) : Prop :=
  ∃ depth text, line₁ = List.replicate (depth * width₁) ' ' ++ text ∧
    line₂ = List.replicate (depth * width₂) ' ' ++ text ∧ text.head? ≠ some ' '

theorem StandsAlone.sameLine {l : Line} (h : StandsAlone l.text) (width₁ width₂ : Nat) :
    SameLine width₁ width₂ (l.indented width₁) (l.indented width₂) := by
  obtain ⟨c, hc, hspace⟩ := h.starts
  refine ⟨l.depth, l.text.toList, rfl, rfl, ?_⟩
  rw [hc]
  simpa using hspace

theorem sameLine_blank (width₁ width₂ : Nat) :
    SameLine width₁ width₂ (Line.indented width₁ ⟨0, ""⟩) (Line.indented width₂ ⟨0, ""⟩) :=
  ⟨0, [], by simp [Line.indented], by simp [Line.indented], by simp⟩

theorem Program.sameLines {p : Program} (hwf : Stmt.AllWellFormed p) (mainGuard : Bool)
    (width₁ width₂ : Nat) :
    List.Forall₂ (SameLine width₁ width₂)
      ((p.toPython ⟨width₁, mainGuard⟩).toList.splitOn '\n')
      ((p.toPython ⟨width₂, mainGuard⟩).toList.splitOn '\n') := by
  have halone := items_allStandAlone hwf mainGuard
  have hne := items_nonempty mainGuard p
  have hlines (width : Nat) : (p.toPython ⟨width, mainGuard⟩).toList.splitOn '\n' =
      ((p.items mainGuard).flatMap (· ++ [⟨0, ""⟩])).map (Line.indented width) := by
    rw [toPython, splitOn_items width hne halone]
    simp [List.map_flatMap, Line.indented]
  rw [hlines width₁, hlines width₂, List.forall₂_map_left_iff, List.forall₂_map_right_iff,
    List.forall₂_same]
  intro l hl
  obtain ⟨lines, hmem, hl⟩ := List.mem_flatMap.mp hl
  rcases List.mem_append.mp hl with hl | hl
  · exact (halone lines hmem l hl).sameLine width₁ width₂
  · rw [List.mem_singleton.mp hl]
    exact sameLine_blank width₁ width₂

open Program (OfSource)

/-- The options change what they are for and nothing else. The guard adds an empty line and its own
    two lines, if there is a `main` to call. And whatever two widths are, the outputs have the same
    lines at the same depths. -/
theorem options_change_only_layout {source : String} {p : Program} (h : OfSource source p) :
    (∀ width,
      (p.DefinesMain → Ends (· = '\n') (p.toPython ⟨width, false⟩) ∧
        p.toPython ⟨width, true⟩ = p.toPython ⟨width, false⟩ ++ "\n" ++ guardText width) ∧
      (¬ p.DefinesMain → p.toPython ⟨width, true⟩ = p.toPython ⟨width, false⟩)) ∧
    ∀ mainGuard width₁ width₂,
      List.Forall₂ (SameLine width₁ width₂)
        ((p.toPython ⟨width₁, mainGuard⟩).toList.splitOn '\n')
        ((p.toPython ⟨width₂, mainGuard⟩).toList.splitOn '\n') := by
  constructor
  · intro width
    constructor
    · intro hmain
      exact ⟨p.ends_toPython width hmain, p.toPython_guarded width hmain⟩
    · exact p.toPython_unguarded width
  · exact p.sameLines (wellFormed_of_ofSource h)

/-- A guard after an item of which nothing is written, and lines at two depths. -/
theorem options_change_only_layout_main :
    ∃ p, OfSource "int main() { while (x) { y = 1; } } cin;" p ∧ p.DefinesMain ∧
      p.toPython ⟨2, true⟩ = "def main():\n  while x:\n    y = 1\n\n" ++ "\n" ++ guardText 2 ∧
      List.Forall₂ (SameLine 0 3) ((p.toPython ⟨0, true⟩).toList.splitOn '\n')
        ((p.toPython ⟨3, true⟩).toList.splitOn '\n') := by
  have hplain : (translate ⟨2, false⟩ "int main() { while (x) { y = 1; } } cin;").result =
      .ok "def main():\n  while x:\n    y = 1\n\n" := by decide +kernel
  have hguarded : (translate ⟨2, true⟩ "int main() { while (x) { y = 1; } } cin;").result ≠
      .ok "def main():\n  while x:\n    y = 1\n\n" := by decide +kernel
  obtain ⟨p, hp, houtput⟩ := translate_eq_ok.mp hplain
  obtain ⟨hguard, hwidth⟩ := options_change_only_layout hp
  have hmain : p.DefinesMain := by
    by_contra hnone
    apply hguarded
    rw [translate_eq_ok]
    exact ⟨p, hp, by rw [(hguard 2).2 hnone, houtput]⟩
  refine ⟨p, hp, hmain, ?_, hwidth true 0 3⟩
  rw [((hguard 2).1 hmain).2, houtput]

end CppToPython
