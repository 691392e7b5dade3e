import CppToPython.Unicode.WhiteSpace

/-! # White space at the end of a text -/

namespace CppToPython.Text

open Unicode (isWhiteSpace)

def trimEnd (text : List Char) : List Char :=
  (text.reverse.dropWhile isWhiteSpace).reverse

def endPadding (text : List Char) : List Char :=
  (text.reverse.takeWhile isWhiteSpace).reverse

theorem trimEnd_append_endPadding (text : List Char) :
    trimEnd text ++ endPadding text = text := by
  rw [trimEnd, endPadding, ← List.reverse_append, List.takeWhile_append_dropWhile,
    List.reverse_reverse]

theorem isWhiteSpace_of_mem_endPadding {text : List Char} {c : Char} (h : c ∈ endPadding text) :
    isWhiteSpace c = true := by
  rw [endPadding, List.mem_reverse] at h
  exact List.all_eq_true.mp List.all_takeWhile c h

/-- A text that starts with something else keeps its first character. -/
theorem trimEnd_cons {c : Char} (hc : isWhiteSpace c = false) (text : List Char) :
    trimEnd (c :: text) = c :: trimEnd text := by
  have h : ∀ l : List Char,
      (l ++ [c]).dropWhile isWhiteSpace = l.dropWhile isWhiteSpace ++ [c] := by
    intro l
    induction l with
    | nil => simp [hc]
    | cons d l ih =>
        simp only [List.cons_append, List.dropWhile_cons]
        split
        · exact ih
        · rfl
  simp only [trimEnd, List.reverse_cons, h, List.reverse_append, List.reverse_nil,
    List.nil_append, List.singleton_append]

end CppToPython.Text
