import CppToPython.Proofs.Emission.Options
import Mathlib.Data.List.Chain
import Mathlib.Data.List.Pairwise

/-! # Empty lines between items

The lines of a module are the lines of its items with an empty line after each but the last. If
every item has a line, the empty lines tell the items apart, and nothing else is empty. An input
statement without variables is an item without lines.
-/

namespace CppToPython

open Emission

/-! ### Blocks with a separator between them -/

section Blocks

variable {α : Type} {a : α} {blocks : List (List α)}

theorem flatMap_append_eq_intercalate (hne : blocks ≠ []) :
    (blocks.flatMap (· ++ [a])) = [a].intercalate blocks ++ [a] := by
  induction blocks with
  | nil => exact absurd rfl hne
  | cons block blocks ih =>
      cases blocks with
      | nil => simp
      | cons next blocks =>
          rw [List.flatMap_cons, ih (List.cons_ne_nil next blocks), List.intercalate_cons_cons]
          simp

variable {P : α → Bool} (ha : P a = false)
  (hblocks : ∀ block ∈ blocks, block ≠ [] ∧ ∀ b ∈ block, P b = true)

include hblocks

theorem exists_head_intercalate (hne : blocks ≠ []) :
    ∃ b ∈ ([a].intercalate blocks).head?, P b = true := by
  obtain ⟨block, more, rfl⟩ := List.exists_cons_of_ne_nil hne
  obtain ⟨hfilled, htext⟩ := hblocks block List.mem_cons_self
  obtain ⟨b, rest, rfl⟩ := List.exists_cons_of_ne_nil hfilled
  refine ⟨b, ?_, htext b List.mem_cons_self⟩
  cases more with
  | nil => simp
  | cons next more => simp

include ha in
theorem countP_intercalate : ([a].intercalate blocks).countP (!P ·) = blocks.length - 1 := by
  induction blocks with
  | nil => rfl
  | cons block blocks ih =>
      have hblock : block.countP (!P ·) = 0 := by
        rw [List.countP_eq_zero]
        intro b hb
        simp [(hblocks block List.mem_cons_self).2 b hb]
      have hrest := ih fun other hother => hblocks other (List.mem_cons_of_mem block hother)
      cases blocks with
      | nil => simpa using hblock
      | cons next blocks =>
          rw [List.intercalate_cons_cons, List.countP_append, List.countP_append, hblock, hrest]
          simp only [List.countP_singleton, ha, Bool.not_false, if_true, List.length_cons]
          omega

/-- A separator has blocks on both sides, so no two stand together. -/
theorem isChain_intercalate :
    ([a].intercalate blocks).IsChain fun b c => P b = true ∨ P c = true := by
  induction blocks with
  | nil => exact .nil
  | cons block blocks ih =>
      obtain ⟨hfilled, htext⟩ := hblocks block List.mem_cons_self
      have hmore : ∀ other ∈ blocks, other ≠ [] ∧ ∀ b ∈ other, P b = true :=
        fun other hother => hblocks other (List.mem_cons_of_mem block hother)
      have hblock : block.IsChain fun b c => P b = true ∨ P c = true :=
        (List.pairwise_of_forall_mem_list fun b hb _ _ => .inl (htext b hb)).isChain
      cases blocks with
      | nil => simpa using hblock
      | cons next blocks =>
          obtain ⟨first, hfirst, htrue⟩ :=
            exists_head_intercalate (a := a) hmore (List.cons_ne_nil next blocks)
          rw [List.intercalate_cons_cons, List.append_assoc, List.singleton_append,
            List.isChain_append, List.isChain_cons]
          refine ⟨hblock, ⟨?_, ih hmore⟩, ?_⟩
          · intro b hb
            rw [Option.mem_unique hb hfirst]
            exact .inr htrue
          · intro b hb _ _
            exact .inl (htext b (List.mem_of_mem_getLast? hb))

end Blocks

/-! ### Separated items -/

namespace Emission

/-- The lines of a text that ends with the end of a line. -/
def writtenLines (text : String) : List (List Char) := (text.toList.splitOn '\n').dropLast

/-- Blank lines stand between the items of a text, and nowhere else. -/
structure SeparatesItems (text : String) (items : List (List (List Char))) : Prop where
  nonempty : text ≠ ""
  ends : Ends (· = '\n') text
  first : ∃ line ∈ (writtenLines text).head?, hasText line = true
  blanks : (writtenLines text).countP (!hasText ·) = items.length - 1
  apart : (writtenLines text).IsChain fun a b => hasText a = true ∨ hasText b = true
  between : writtenLines text = [[]].intercalate items
  filled : ∀ item ∈ items, item ≠ [] ∧ ∀ line ∈ item, hasText line = true

end Emission

namespace Program

/-- The items of a program as lines of its module. -/
def writtenItems (options : Options) (p : Program) : List (List (List Char)) :=
  (p.items options.mainGuard).map (·.map (Line.indented options.indentWidth))

variable (options : Options) {p : Program}

theorem length_writtenItems :
    (p.writtenItems options).length =
      max 1 (p.length + if options.mainGuard && p.any (·.isMain) then 1 else 0) := by
  rw [writtenItems, List.length_map]
  cases p with
  | nil => simp [items_nil]
  | cons stmt stmts =>
      rw [items_of_ne_nil (List.cons_ne_nil stmt stmts)]
      split <;> simp

theorem writtenItems_ne_nil : p.writtenItems options ≠ [] := by
  simp [writtenItems, items_nonempty]

/-- Only an input statement without variables is an item without lines. -/
theorem items_ne_empty (hwf : Stmt.AllWellFormed p) (hinput : .input [] ∉ p) :
    ∀ lines ∈ p.items options.mainGuard, lines ≠ [] := by
  intro lines hlines
  rcases mem_items hlines with ⟨stmt, hstmt, rfl⟩ | rfl | rfl
  · obtain ⟨l, hl⟩ := Stmt.exists_line (Stmt.allWellFormed_iff.mp hwf stmt hstmt)
      (ne_of_mem_of_not_mem hstmt hinput) 0
    exact List.ne_nil_of_mem hl
  · exact List.cons_ne_nil _ _
  · exact List.cons_ne_nil _ _

theorem filled_writtenItems (hwf : Stmt.AllWellFormed p) (hinput : .input [] ∉ p) :
    ∀ item ∈ p.writtenItems options, item ≠ [] ∧ ∀ line ∈ item, hasText line = true := by
  intro item hitem
  obtain ⟨lines, hlines, rfl⟩ := List.mem_map.mp hitem
  constructor
  · simpa using items_ne_empty options hwf hinput lines hlines
  · intro line hline
    obtain ⟨l, hl, rfl⟩ := List.mem_map.mp hline
    exact (items_allStandAlone hwf _ lines hlines l hl).hasText_indented _

theorem writtenLines_toPython (hwf : Stmt.AllWellFormed p) :
    writtenLines (p.toPython options) = [[]].intercalate (p.writtenItems options) := by
  have hsplit := splitOn_items options.indentWidth (items_nonempty options.mainGuard p)
    (items_allStandAlone hwf options.mainGuard)
  have hblocks : ((p.writtenItems options).flatMap (· ++ [[]])) = _ :=
    flatMap_append_eq_intercalate (writtenItems_ne_nil options)
  rw [writtenItems, List.flatMap_map] at hblocks
  rw [writtenLines, toPython, hsplit, hblocks, List.dropLast_concat, writtenItems]

theorem ends_toPython_of_items (hwf : Stmt.AllWellFormed p) (hinput : .input [] ∉ p) :
    Ends (· = '\n') (p.toPython options) := by
  obtain ⟨lines, more, hitems⟩ := List.exists_cons_of_ne_nil (items_nonempty options.mainGuard p)
  have hlines := items_ne_empty options hwf hinput lines (by rw [hitems]; exact List.mem_cons_self)
  rw [toPython, hitems]
  exact ends_items options.indentWidth (.inl hlines)

theorem separatesItems (hwf : Stmt.AllWellFormed p) (hinput : .input [] ∉ p) :
    SeparatesItems (p.toPython options) (p.writtenItems options) := by
  have hfilled := filled_writtenItems options hwf hinput
  have hlines := writtenLines_toPython options hwf
  have hends := ends_toPython_of_items options hwf hinput
  refine ⟨?_, hends, ?_, ?_, ?_, hlines, hfilled⟩
  · intro hempty
    obtain ⟨c, hc, _⟩ := hends
    simp [hempty] at hc
  · rw [hlines]
    exact exists_head_intercalate hfilled (writtenItems_ne_nil options)
  · rw [hlines]
    exact countP_intercalate rfl hfilled
  · rw [hlines]
    exact isChain_intercalate hfilled

theorem not_separatesItems (hinput : .input [] ∈ p) :
    ¬ SeparatesItems (p.toPython options) (p.writtenItems options) := by
  have hmem : [] ∈ p.writtenItems options := by
    have hitem : (Stmt.input []).toPython 0 ∈ p.items options.mainGuard := by
      rw [items_of_ne_nil (List.ne_nil_of_mem hinput)]
      exact List.mem_append_left _ (List.mem_map.mpr ⟨_, hinput, rfl⟩)
    exact List.mem_map.mpr ⟨_, hitem, rfl⟩
  intro h
  exact (h.filled [] hmem).1 rfl

end Program

open Program (OfSource)

/-- A module is never empty and has blank lines between its items only, one item for each
    statement and one for the guard, just when no statement is an input without variables. -/
theorem translate_separates_items_iff {options : Options} {source output : String}
    (h : (translate options source).result = .ok output) :
    ∃ p, OfSource source p ∧
      (p.writtenItems options).length =
        max 1 (p.length + if options.mainGuard && p.any (·.isMain) then 1 else 0) ∧
      (SeparatesItems output (p.writtenItems options) ↔ .input [] ∉ p) := by
  obtain ⟨p, hp, rfl⟩ := translate_eq_ok.mp h
  refine ⟨p, hp, p.length_writtenItems options, ?_⟩
  constructor
  · intro hseparates hinput
    exact Program.not_separatesItems options hinput hseparates
  · exact Program.separatesItems options (wellFormed_of_ofSource hp)

def Stmt.isBareInput : Stmt → Bool
  | .input [] => true
  | _ => false

/-- Inside of a function, such an input does no harm. -/
theorem translate_separates_items_iff_nested :
    ∃ p, OfSource "int main() { cin; } x = 1;" p ∧ (p.writtenItems ⟨4, true⟩).length = 3 ∧
      SeparatesItems "def main():\n\nx = 1\n\nif __name__ == \"__main__\":\n    main()\n"
        (p.writtenItems ⟨4, true⟩) := by
  have hsource : Program.passes
      (fun p => p.length == 2 && p.any (·.isMain) && p.all (!·.isBareInput))
      "int main() { cin; } x = 1;" = true := by decide +kernel
  have hresult : (translate ⟨4, true⟩ "int main() { cin; } x = 1;").result =
      .ok "def main():\n\nx = 1\n\nif __name__ == \"__main__\":\n    main()\n" := by decide +kernel
  obtain ⟨p, hp, htest⟩ := Program.ofSource_of_passes hsource
  simp only [Bool.and_eq_true, beq_iff_eq] at htest
  obtain ⟨⟨hlength, hmain⟩, hall⟩ := htest
  have hinput : .input [] ∉ p := by
    intro hmem
    simpa [Stmt.isBareInput] using List.all_eq_true.mp hall _ hmem
  obtain ⟨q, hq, hitems, hseparates⟩ := translate_separates_items_iff hresult
  cases hp.unique hq
  refine ⟨p, hp, ?_, hseparates.mpr hinput⟩
  rw [hitems, hlength, hmain]
  decide

/-- An input without variables on its own leaves nothing to write. -/
theorem translate_bare_input :
    (translate {} "cin;").result = .ok "" ∧
      ∀ items, ¬ SeparatesItems "" items :=
  ⟨by decide +kernel, fun _ h => h.nonempty rfl⟩

end CppToPython
