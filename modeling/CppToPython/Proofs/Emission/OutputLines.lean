import CppToPython.Proofs.Emission.Blocks

/-! # The lines of an output statement

An output statement is written as one `print` for each line it puts out. The values are cut at
each `endl`, and since `print` ends its line by itself, an `endl` at the end leaves nothing more
to print. So the lines with an `endl` after each of them are the values again, up to an `endl`
that is added at the end if there is none.
-/

namespace CppToPython

open Emission

namespace Expr

/-- The value that ends a line of output. -/
def lineEnd : Expr := .name "endl"

theorem endsLine_iff {e : Expr} : e.endsLine = true ↔ e = lineEnd := by
  unfold endsLine lineEnd
  split
  · simp
  · rename_i hne
    simpa using hne

theorem ne_lineEnd_iff {e : Expr} : e.endsLine = false ↔ e ≠ lineEnd := by
  rw [← Bool.not_eq_true, endsLine_iff]

@[simp]
theorem endsLine_lineEnd : lineEnd.endsLine = true := rfl

end Expr

/-- Lines are values cut at each `stop`. No line holds one, and put together with a `stop` after
    each line they are the values; there is one `stop` more if the values do not end with one. -/
structure CutAt (stop : Expr) (values : List Expr) (lines : List (List Expr)) : Prop where
  not_mem : ∀ line ∈ lines, stop ∉ line
  joined : values.getLast? = some stop → lines.flatMap (· ++ [stop]) = values
  joined_more : values.getLast? ≠ some stop → lines.flatMap (· ++ [stop]) = values ++ [stop]

namespace CutAt

variable {stop value next : Expr} {values line : List Expr} {lines : List (List Expr)}

theorem nil : CutAt stop [] [[]] := ⟨by simp, by simp, by simp⟩

theorem last : CutAt stop [stop] [[]] := ⟨by simp, by simp, by simp⟩

theorem single (hvalue : value ≠ stop) : CutAt stop [value] [[value]] :=
  ⟨by simpa using hvalue.symm, by simp [hvalue], by simp⟩

/-- A `stop` in front of more values is a line of its own. -/
theorem stop_cons (h : CutAt stop (next :: values) lines) :
    CutAt stop (stop :: next :: values) ([] :: lines) where
  not_mem := by simpa using h.not_mem
  joined hlast := by
    rw [List.getLast?_cons_cons] at hlast
    rw [List.flatMap_cons, h.joined hlast, List.nil_append, List.singleton_append]
  joined_more hlast := by
    rw [List.getLast?_cons_cons] at hlast
    rw [List.flatMap_cons, h.joined_more hlast, List.nil_append, List.singleton_append]
    rfl

/-- Any other value in front of more values joins their first line. -/
theorem cons (hvalue : value ≠ stop) (h : CutAt stop (next :: values) (line :: lines)) :
    CutAt stop (value :: next :: values) ((value :: line) :: lines) where
  not_mem := by
    intro other hother
    rcases List.mem_cons.mp hother with rfl | hother
    · simpa [hvalue.symm] using h.not_mem line List.mem_cons_self
    · exact h.not_mem other (List.mem_cons_of_mem line hother)
  joined hlast := by
    rw [List.getLast?_cons_cons] at hlast
    have hjoined := h.joined hlast
    rw [List.flatMap_cons] at hjoined
    rw [List.flatMap_cons, List.cons_append, List.cons_append, hjoined]
  joined_more hlast := by
    rw [List.getLast?_cons_cons] at hlast
    have hjoined := h.joined_more hlast
    rw [List.flatMap_cons] at hjoined
    rw [List.flatMap_cons, List.cons_append, List.cons_append, hjoined]
    rfl

end CutAt

theorem Emission.cutAt_printedLines (values : List Expr) :
    CutAt .lineEnd values (printedLines values) := by
  fun_induction printedLines values with
  | case1 => exact .nil
  | case2 value hvalue =>
      rw [Expr.endsLine_iff.mp hvalue]
      exact .last
  | case3 value hvalue => exact .single (by simpa [Expr.endsLine_iff] using hvalue)
  | case4 value next values lines hvalue ih =>
      rw [Expr.endsLine_iff.mp hvalue]
      exact ih.stop_cons
  | case5 value next values lines hvalue hlines ih =>
      exact absurd hlines (printedLines_ne_nil _)
  | case6 value next values lines hvalue line more hlines ih =>
      exact .cons (by simpa [Expr.endsLine_iff] using hvalue) (hlines ▸ ih)

/-! ### What a cut keeps -/

section Joined

variable {line : List Expr} {lines : List (List Expr)}

theorem not_endsLine_of_not_mem (h : .lineEnd ∉ line) : ∀ value ∈ line, value.endsLine = false :=
  fun _ hvalue => Expr.ne_lineEnd_iff.mpr fun same => h (same ▸ hvalue)

theorem filter_joined (h : ∀ line ∈ lines, .lineEnd ∉ line) :
    (lines.flatMap (· ++ [Expr.lineEnd])).filter (!·.endsLine) = lines.flatten := by
  induction lines with
  | nil => rfl
  | cons line lines ih =>
      have hline : line.filter (!·.endsLine) = line :=
        List.filter_eq_self.mpr fun value hvalue => by
          rw [not_endsLine_of_not_mem (h line List.mem_cons_self) value hvalue, Bool.not_false]
      rw [List.flatMap_cons, List.filter_append, List.filter_append, hline,
        ih fun other hother => h other (List.mem_cons_of_mem line hother)]
      simp

theorem countP_joined (h : ∀ line ∈ lines, .lineEnd ∉ line) :
    (lines.flatMap (· ++ [Expr.lineEnd])).countP (·.endsLine) = lines.length := by
  induction lines with
  | nil => rfl
  | cons line lines ih =>
      have hline : line.countP (·.endsLine) = 0 :=
        List.countP_eq_zero.mpr fun value hvalue => by
          simp [not_endsLine_of_not_mem (h line List.mem_cons_self) value hvalue]
      rw [List.flatMap_cons, List.countP_append, List.countP_append, hline,
        ih fun other hother => h other (List.mem_cons_of_mem line hother)]
      simp [Nat.add_comm]

end Joined

theorem Expr.getLast?_endsLine_iff {values : List Expr} :
    values.getLast?.any (·.endsLine) = true ↔ values.getLast? = some .lineEnd := by
  cases values.getLast? with
  | none => simp
  | some value => simp [endsLine_iff]

namespace CutAt

variable {values : List Expr} {lines : List (List Expr)}

/-- The lines hold all values but the ends of lines, in the same order. -/
theorem flatten_eq (h : CutAt .lineEnd values lines) :
    lines.flatten = values.filter (!·.endsLine) := by
  rw [← filter_joined h.not_mem]
  by_cases hlast : values.getLast? = some .lineEnd
  · rw [h.joined hlast]
  · rw [h.joined_more hlast]
    simp

/-- Each end of a line among the values is the end of one line, and one more line ends after the
    last value if it is something else. -/
theorem length_eq (h : CutAt .lineEnd values lines) :
    lines.length =
      values.countP (·.endsLine) + if values.getLast?.any (·.endsLine) then 0 else 1 := by
  rw [← countP_joined h.not_mem]
  by_cases hlast : values.getLast? = some .lineEnd
  · rw [h.joined hlast, if_pos (Expr.getLast?_endsLine_iff.mpr hlast), Nat.add_zero]
  · rw [h.joined_more hlast, if_neg fun hends => hlast (Expr.getLast?_endsLine_iff.mp hends)]
    simp

end CutAt

theorem Expr.listToPython_eq_map (es : List Expr) : Expr.listToPython es = es.map Expr.toPython := by
  induction es with
  | nil => rfl
  | cons e es ih => rw [Expr.listToPython, ih, List.map_cons]

theorem printText_eq (line : List Expr) :
    callText "print" (Expr.listToPython line) =
      "print(" ++ String.intercalate ", " (line.map Expr.toPython) ++ ")" := by
  rw [callText, Expr.listToPython_eq_map]
  rfl

/-- An output statement is one `print` for each line of its values. The lines are the values cut at
    each `endl`, so that the other values keep their order, and there are as many of them as lines
    that the values end. -/
theorem output_cut_at_line_ends (depth : Nat) (values : List Expr) :
    (Stmt.output values).toPython depth =
        (printedLines values).map
          (fun line =>
            ⟨depth, "print(" ++ String.intercalate ", " (line.map Expr.toPython) ++ ")"⟩) ∧
      CutAt .lineEnd values (printedLines values) ∧
      (printedLines values).flatten = values.filter (!·.endsLine) ∧
      ((Stmt.output values).toPython depth).length =
        values.countP (·.endsLine) + if values.getLast?.any (·.endsLine) then 0 else 1 := by
  have hcut := cutAt_printedLines values
  refine ⟨?_, hcut, hcut.flatten_eq, ?_⟩
  · simp only [Stmt.toPython, printText_eq]
  · rw [Stmt.toPython, List.length_map]
    exact hcut.length_eq

end CppToPython
