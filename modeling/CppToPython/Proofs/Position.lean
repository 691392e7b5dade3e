import CppToPython.Position
import CppToPython.Text.Lines

/-! # Counting positions

Stepping through a text character by character ends at a position that only
depends on two counts: the line feeds in the text and the characters after the
last of them. The line of a character is one of the lines of the text, whether
or not the text ends in a line end.
-/

namespace CppToPython.Position

/-- The position right after a text: one more than its line feeds, and one more
    than the characters since the last of them. -/
def after (text : List Char) : Position :=
  ⟨1 + text.count '\n', 1 + (text.reverse.takeWhile (· != '\n')).length⟩

theorem after_concat (text : List Char) (c : Char) :
    after (text ++ [c]) = (after text).next c := by
  by_cases hc : c = '\n'
  · subst hc
    have hline : (text ++ ['\n']).count '\n' = text.count '\n' + 1 := by simp
    have hcolumn : ((text ++ ['\n']).reverse.takeWhile (· != '\n')).length = 0 := by simp
    rw [after, hline, hcolumn, next, if_pos rfl]
    rfl
  · have hline : (text ++ [c]).count '\n' = text.count '\n' := by simp [hc]
    have hcolumn : ((text ++ [c]).reverse.takeWhile (· != '\n')).length =
        (text.reverse.takeWhile (· != '\n')).length + 1 := by simp [hc]
    rw [after, hline, hcolumn, next, if_neg hc]
    rfl

theorem advance_after (text more : List Char) :
    (after text).advance more = after (text ++ more) := by
  induction more generalizing text with
  | nil => simp
  | cons c more ih =>
      rw [advance_cons, ← after_concat, ih, List.append_assoc, List.singleton_append]

theorem advance_start (text : List Char) : start.advance text = after text :=
  advance_after [] text

/-- Text in one line has no say in where the next line starts. -/
theorem next_advance_inLine (p : Position) {text : List Char} (h : '\n' ∉ text) :
    (p.advance text).next '\n' = ⟨p.line + 1, 1⟩ := by
  induction text generalizing p with
  | nil => rfl
  | cons c text ih =>
      rw [List.mem_cons, not_or] at h
      have hnext : p.next c = ⟨p.line, p.column + 1⟩ := if_neg (Ne.symm h.1)
      rw [advance_cons, hnext, ih _ h.2]

/-! ### Reading order -/

/-- One position stands before another in a text. -/
instance : LT Position where
  lt p q := p.line < q.line ∨ p.line = q.line ∧ p.column < q.column

theorem lt_iff {p q : Position} :
    p < q ↔ p.line < q.line ∨ p.line = q.line ∧ p.column < q.column := Iff.rfl

theorem lt_trans {p q r : Position} (hp : p < q) (hq : q < r) : p < r := by
  rw [lt_iff] at *
  omega

theorem lt_next (p : Position) (c : Char) : p < p.next c := by
  rw [lt_iff, next]
  split
  · left
    exact Nat.lt_succ_self p.line
  · right
    exact ⟨rfl, Nat.lt_succ_self p.column⟩

theorem lt_advance (p : Position) {text : List Char} (h : text ≠ []) : p < p.advance text := by
  induction text generalizing p with
  | nil => exact absurd rfl h
  | cons c text ih =>
      rw [advance_cons]
      cases text with
      | nil => exact p.lt_next c
      | cons d text => exact lt_trans (p.lt_next c) (ih (p.next c) (List.cons_ne_nil d text))

/-! ### Moving a text down -/

def down (lines : Nat) (p : Position) : Position := ⟨p.line + lines, p.column⟩

theorem next_down (lines : Nat) (p : Position) (c : Char) :
    (p.down lines).next c = (p.next c).down lines := by
  simp only [next, down]
  split
  · rw [Nat.add_right_comm]
  · rfl

theorem advance_down (lines : Nat) (p : Position) (text : List Char) :
    (p.down lines).advance text = (p.advance text).down lines := by
  induction text generalizing p with
  | nil => rfl
  | cons c text ih => rw [advance_cons, advance_cons, next_down, ih]

theorem advance_start_line (text : List Char) :
    start.advance (text ++ ['\n']) = start.down (text.count '\n' + 1) := by
  rw [advance_append, advance_start, advance_cons, advance_nil, next, if_pos rfl]
  rfl

/-! ### A part of a text -/

/-- The position in a whole text of what stands at `p` in the part from `base` on. Only the first
    line of the part starts somewhere else than at its first column. -/
def within (base p : Position) : Position :=
  ⟨base.line + (p.line - 1), if p.line = 1 then base.column + (p.column - 1) else p.column⟩

theorem next_within (base : Position) {p : Position} (hline : 1 ≤ p.line) (hcolumn : 1 ≤ p.column)
    (c : Char) : (base.within p).next c = base.within (p.next c) := by
  by_cases hc : c = '\n'
  · simp only [next, if_pos hc, within, mk.injEq]
    constructor
    · omega
    · rw [if_neg (by omega)]
  · simp only [next, if_neg hc, within, mk.injEq, true_and]
    split
    · omega
    · rfl

theorem advance_within (base : Position) {p : Position} (hline : 1 ≤ p.line)
    (hcolumn : 1 ≤ p.column) (text : List Char) :
    (base.within p).advance text = base.within (p.advance text) := by
  induction text generalizing p with
  | nil => rfl
  | cons c text ih =>
      have hnext : 1 ≤ (p.next c).line ∧ 1 ≤ (p.next c).column := by
        simp only [next]
        split <;> simp only <;> omega
      rw [advance_cons, advance_cons, next_within base hline hcolumn, ih hnext.1 hnext.2]

theorem within_start (base : Position) : base.within start = base := rfl

theorem advance_eq_within (base : Position) (text : List Char) :
    base.advance text = base.within (after text) := by
  rw [← advance_start, ← advance_within base (Nat.le_refl 1) (Nat.le_refl 1), within_start]

/-- A position in the text after `before` is one in the whole text. -/
theorem within_after (before text : List Char) :
    (after before).within (after text) = after (before ++ text) := by
  rw [← advance_eq_within, advance_after]

end CppToPython.Position

/-! ### The lines of a text -/

namespace CppToPython.Text

theorem length_lines_cons (c : Char) (rest : List Char) :
    (lines (c :: rest)).length =
      if c = '\n' then (lines rest).length + 1 else max 1 (lines rest).length := by
  by_cases hc : c = '\n'
  · subst hc
    rfl
  rw [if_neg hc]
  by_cases hreturn : c = '\r' ∧ ∃ more, rest = '\n' :: more
  · obtain ⟨rfl, more, rfl⟩ := hreturn
    show (lines more).length + 1 = max 1 ((lines more).length + 1)
    omega
  · rw [lines]
    · cases lines rest with
      | nil => rfl
      | cons line others =>
          simp only [List.length_cons]
          omega
    · exact hc
    · exact fun more hr hrest => hreturn ⟨hr, more, hrest⟩

theorem length_lines_le (text : List Char) : (lines text).length ≤ text.length := by
  induction text with
  | nil => exact Nat.le_refl 0
  | cons c text ih =>
      rw [length_lines_cons, List.length_cons]
      split <;> omega

/-- A character that ends no line is in one of the lines. -/
theorem count_lt_length_lines (before : List Char) {c : Char} (hc : c ≠ '\n') (rest : List Char) :
    before.count '\n' < (lines (before ++ c :: rest)).length := by
  induction before with
  | nil =>
      rw [List.nil_append, length_lines_cons, if_neg hc, List.count_nil]
      omega
  | cons d before ih =>
      rw [List.cons_append, length_lines_cons, List.count_cons]
      by_cases hd : d = '\n'
      · simp [hd, ih]
      · simp only [if_neg hd, beq_iff_eq]
        omega

end CppToPython.Text
