import CppToPython.Proofs.Concatenation
import CppToPython.Proofs.Token.Faults
import CppToPython.Proofs.Viewer.Runs

/-! # The line with the error

An error is always reported at a character of the source, so its line is one of the lines that the
viewer has to show. The first drawing brings it into view, whatever keys came before: the line is
aimed at the middle of the page, and keeping the last page full does not scroll past it.
-/

namespace CppToPython

/-! ### Errors are in the source -/

/-- A character of a text, other than a line feed, stands at the position. -/
def Position.IsIn (p : Position) (text : List Char) : Prop :=
  ∃ before c rest, text = before ++ c :: rest ∧ c ≠ '\n' ∧ p = .after before

theorem Position.IsIn.line_le {p : Position} {text : List Char} (h : p.IsIn text) :
    1 ≤ p.line ∧ p.line ≤ (Text.lines text).length := by
  obtain ⟨before, c, rest, rfl, hc, rfl⟩ := h
  have hcount := Text.count_lt_length_lines before hc rest
  have hline : (Position.after before).line = 1 + before.count '\n' := rfl
  omega

theorem Token.isIn_of_scan {source : String} {tokens : List Token}
    (h : scan source = .ok tokens) : ∀ t ∈ tokens, t.position.IsIn source.toList := by
  intro t ht
  have hvalid := Cursor.valid_of_scanFrom h t ht
  rw [scan_eq_scanFrom_after] at h
  obtain ⟨gap, text, hsource, _, hlayout⟩ := Cursor.layout_of_scanFrom h
  obtain ⟨more, rest, rfl, hne, hposition⟩ := hlayout.exists_place t ht
  have hline := hvalid.inLine
  cases htext : t.text.toList with
  | nil => exact absurd (String.toList_inj.mp htext) hne
  | cons c tail =>
      rw [htext, List.mem_cons, not_or] at hline
      refine ⟨gap ++ more, c, tail ++ rest, ?_, Ne.symm hline.1, hposition⟩
      rw [hsource, htext]
      simp

theorem Program.exists_token_of_parse_error {tokens : List Token} {e : ParseError}
    (h : (parse tokens).1 = .error e) : ∃ t ∈ tokens, e.position = t.position := by
  have hne := ne_nil_of_parse_error h
  obtain ⟨expected, rest, hrun, rfl⟩ := parse_eq_error.mp h
  rw [ParseError.ofRest]
  cases rest with
  | nil =>
      refine ⟨tokens.getLast hne, List.getLast_mem hne, ?_⟩
      rw [List.getLast?_eq_some_getLast hne]
      rfl
  | cons t rest => exact ⟨t, (Rule.suffix_of_run_eq_error hrun).mem List.mem_cons_self, rfl⟩

theorem isIn_of_translate_error {options : Options} {source : String} {e : TranslateError}
    (h : (translate options source).result = .error e) : e.position.IsIn source.toList := by
  rcases translate_eq_error.mp h with ⟨fault, hscan, rfl⟩ | ⟨tokens, fault, hscan, hparse, rfl⟩
  · rw [Token.scan_eq_scanFrom_after] at hscan
    obtain ⟨used, rest, hsource, hposition, _, hfault⟩ := Cursor.fault_of_scanFrom hscan
    exact ⟨used, _, rest, hsource, hfault.ne_lineFeed, hposition⟩
  · obtain ⟨t, ht, hposition⟩ := Program.exists_token_of_parse_error hparse
    have hin := Token.isIn_of_scan hscan t ht
    rwa [← hposition] at hin

namespace Viewer

/-! ### The first drawing -/

theorem run_press_errorCentered (v : Viewer) (keys : List Key) :
    (v.run (keys.map .press)).errorCentered = v.errorCentered := by
  induction keys generalizing v with
  | nil => rfl
  | cons key keys ih => exact (ih (v.press key)).trans (keyMove_press key v).errorCentered_eq

/-- The lines that the source pane shows have the line with the given number among them, and it
    stands out. -/
def MarksLine (v : Viewer) (line : Nat) : Prop :=
  v.sourceScroll < line ∧ line ≤ v.sourceScroll + v.pageHeight ∧
    ∃ text, (Text.linesOf v.document.source)[line - 1]? = some text ∧
      v.sourceLines[line - 1 - v.sourceScroll]? = some (numberedLine line true (highlightCpp text))

section

variable {v : Viewer} {line : Nat} (hline : v.document.errorLine? = some line)
  (hfirst : v.errorCentered = false) (hpos : 1 ≤ line)
  (hle : line ≤ Text.lineCount v.document.source) (height : Nat)

include hline hfirst hpos hle

/-- The middle of the page is in view, and so is every line of a last page that is full. -/
theorem fitTo_shows_error :
    (v.fitTo height).sourceScroll < line ∧ line ≤ (v.fitTo height).sourceScroll + pageOf height := by
  have hpage : 1 ≤ pageOf height := Nat.le_max_left _ _
  have haim : v.aimedScroll (pageOf height) = line - 1 - pageOf height / 2 := by
    simp [aimedScroll, hline, hfirst]
  rw [fitTo_sourceScroll, haim, lastScroll]
  omega

theorem fitTo_marks_error : (v.fitTo height).MarksLine line := by
  obtain ⟨hlt, hend⟩ := fitTo_shows_error hline hfirst hpos hle height
  have hlength : (Text.linesOf v.document.source).length = Text.lineCount v.document.source :=
    List.length_map _
  have hplace : (v.fitTo height).sourceScroll + (line - 1 - (v.fitTo height).sourceScroll) =
      line - 1 := by omega
  have htext : line - 1 < (Text.linesOf v.document.source).length := by omega
  rw [MarksLine, fitTo_document, fitTo_pageHeight]
  refine ⟨hlt, hend, _, List.getElem?_eq_getElem htext, ?_⟩
  rw [sourceLines, getElem?_codeLines _ _ _ (by rw [fitTo_pageHeight]; omega), fitTo_document,
    hplace, hline, Nat.sub_add_cancel hpos, beq_self_eq_true, List.getElem?_map,
    List.getElem?_eq_getElem htext]
  rfl

end

/-- The line with an error is a line of the source, and the first drawing shows it and makes it
    stand out, whatever keys came before and however large the screen is. -/
theorem error_line_in_view {options : Options} {source : String} {e : TranslateError}
    (h : (translate options source).result = .error e) :
    1 ≤ e.position.line ∧ e.position.line ≤ Text.lineCount source ∧
      ∀ (keys : List Key) (width height : Nat),
        ((({ document := .ofSource options source } : Viewer).run (keys.map .press)).draw
          width height).1.MarksLine e.position.line := by
  obtain ⟨hpos, hle⟩ := (isIn_of_translate_error h).line_le
  refine ⟨hpos, hle, fun keys width height => ?_⟩
  generalize hv : ({ document := .ofSource options source } : Viewer).run (keys.map .press) = v
  have hdocument : v.document = .ofSource options source := by
    rw [← hv]
    exact run_document _ _
  have hfirst : v.errorCentered = false := by
    rw [← hv]
    exact run_press_errorCentered _ keys
  have hline : v.document.errorLine? = some e.position.line := by
    rw [hdocument, Document.errorLine?, Document.error?, Document.ofSource, h]
    rfl
  have hsource : v.document.source = source := by
    rw [hdocument]
    rfl
  rw [draw_fst]
  exact fitTo_marks_error hline hfirst hpos (hsource ▸ hle) (clip width height).2

/-- The source ends in the middle of a call, so the error is at the last token and not at the end. -/
theorem error_line_in_view_unfinished :
    (translate {} "int x;\r\nf(\n\n").result = .error (.parse ⟨.expression, none, ⟨2, 2⟩⟩) ∧
      1 ≤ 2 ∧ 2 ≤ Text.lineCount "int x;\r\nf(\n\n" ∧
        ∀ (keys : List Key) (width height : Nat),
          ((({ document := .ofSource {} "int x;\r\nf(\n\n" } : Viewer).run
            (keys.map .press)).draw width height).1.MarksLine 2 := by
  have h : (translate {} "int x;\r\nf(\n\n").result =
      .error (.parse ⟨.expression, none, ⟨2, 2⟩⟩) := by decide +kernel
  exact ⟨h, error_line_in_view h⟩

end Viewer

end CppToPython
