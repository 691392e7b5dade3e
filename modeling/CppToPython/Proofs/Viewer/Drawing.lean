import CppToPython.Proofs.Viewer.Highlighting
import CppToPython.Viewer.Draw

/-! # What drawing leaves

Drawing fits the scroll positions to the height of the screen, so that the last page of each pane
stays full, and brings the line with an error into view the first time. A second drawing of the
same size finds nothing to do.
-/

namespace CppToPython.Viewer

/-! ### The state after drawing -/

/-- Where the source would be shown from if it never ended. -/
def aimedScroll (v : Viewer) (page : Nat) : Nat :=
  match v.document.errorLine? with
  | none => v.sourceScroll
  | some line => if v.errorCentered then v.sourceScroll else line - 1 - page / 2

/-- Drawing changes four parts of the state and no other. -/
theorem fitTo_eq (height : Nat) (v : Viewer) :
    v.fitTo height =
      { v with
        pageHeight := pageOf height
        sourceScroll := min (v.aimedScroll (pageOf height))
          (lastScroll (Text.lineCount v.document.source) (pageOf height))
        outputScroll := v.document.output?.elim 0 fun output =>
          min v.outputScroll (lastScroll (Text.lineCount output) (pageOf height))
        errorCentered := v.errorCentered || v.document.errorLine?.isSome } := by
  simp only [fitTo, centerError, aimedScroll]
  cases houtput : v.document.output? <;> cases hline : v.document.errorLine? <;>
    cases hcentered : v.errorCentered <;> simp [clampScrolls, houtput]

section

variable (height : Nat) (v : Viewer)

@[simp]
theorem fitTo_document : (v.fitTo height).document = v.document := by rw [fitTo_eq]

@[simp]
theorem fitTo_focus : (v.fitTo height).focus = v.focus := by rw [fitTo_eq]

@[simp]
theorem fitTo_shouldQuit : (v.fitTo height).shouldQuit = v.shouldQuit := by rw [fitTo_eq]

@[simp]
theorem fitTo_pageHeight : (v.fitTo height).pageHeight = pageOf height := by rw [fitTo_eq]

theorem fitTo_sourceScroll :
    (v.fitTo height).sourceScroll = min (v.aimedScroll (pageOf height))
      (lastScroll (Text.lineCount v.document.source) (pageOf height)) := by
  rw [fitTo_eq]

theorem fitTo_outputScroll_some {output : String} (h : v.document.output? = some output) :
    (v.fitTo height).outputScroll =
      min v.outputScroll (lastScroll (Text.lineCount output) (pageOf height)) := by
  rw [fitTo_eq, h, Option.elim_some]

theorem fitTo_outputScroll_none (h : v.document.output? = none) :
    (v.fitTo height).outputScroll = 0 := by
  rw [fitTo_eq, h, Option.elim_none]

theorem fitTo_aimedScroll (page : Nat) :
    (v.fitTo height).aimedScroll page = (v.fitTo height).sourceScroll := by
  rw [aimedScroll, fitTo_document]
  cases hline : v.document.errorLine? with
  | none => rfl
  | some line => simp [fitTo_eq, hline]

theorem fitTo_errorCentered :
    (v.fitTo height).errorCentered = (v.errorCentered || v.document.errorLine?.isSome) := by
  rw [fitTo_eq]

theorem fitTo_fitTo : (v.fitTo height).fitTo height = v.fitTo height := by
  have hsource : min (v.fitTo height).sourceScroll
      (lastScroll (Text.lineCount v.document.source) (pageOf height)) =
        (v.fitTo height).sourceScroll := by
    rw [fitTo_sourceScroll]
    omega
  have houtput : (v.document.output?.elim 0 fun output => min (v.fitTo height).outputScroll
      (lastScroll (Text.lineCount output) (pageOf height))) = (v.fitTo height).outputScroll := by
    cases ho : v.document.output? with
    | none => rw [Option.elim_none, fitTo_outputScroll_none height v ho]
    | some output =>
        rw [Option.elim_some, fitTo_outputScroll_some height v ho]
        omega
  have hcentered : ((v.fitTo height).errorCentered || v.document.errorLine?.isSome) =
      (v.fitTo height).errorCentered := by
    rw [fitTo_errorCentered, Bool.or_assoc, Bool.or_self]
  have hpage := fitTo_pageHeight height v
  rw [fitTo_eq height (v.fitTo height), fitTo_aimedScroll, fitTo_document, hsource, houtput,
    hcentered, ← hpage, ← fitTo_document height v]

end

/-! ### The lines of a pane -/

/-- A line of a text as a pane shows it: its number, right-aligned in four columns, and the text of
    the line in spans. They are the highlighted ones, unless the line is marked and stands out. -/
structure ShowsLine (highlight : String → List Span) (marked : Option Nat) (n : Nat) (line : String)
    (number : Span) (spans : List Span) : Prop where
  number_text : number.text =
    String.ofList (List.replicate (4 - (toString n).length) ' ') ++ toString n ++ " "
  text_eq : String.join (spans.map (·.text)) = line
  highlighted : marked ≠ some n → spans = highlight line
  stands_out : marked = some n →
    number.style = .boldColored Theme.error ∧ ∀ span ∈ spans, span.style = markedStyle

/-- The lines shown are `count` lines of a text, the first of them after `scroll` others. -/
def Shows (shown : List (List Span)) (highlight : String → List Span) (marked : Option Nat)
    (text : String) (scroll count : Nat) : Prop :=
  shown.length = count ∧ ∀ i < count, ∃ line number spans,
    (Text.linesOf text)[scroll + i]? = some line ∧ shown[i]? = some (number :: spans) ∧
      ShowsLine highlight marked (scroll + i + 1) line number spans

theorem lineNumber_eq (n : Nat) :
    lineNumber n =
      String.ofList (List.replicate (4 - (toString n).length) ' ') ++ toString n ++ " " := by
  rw [lineNumber, List.leftpad, String.length_toList, String.ofList_append, String.ofList_toList]

theorem join_marked (spans : List Span) :
    String.join ((spans.map ({ · with style := markedStyle })).map (·.text)) =
      String.join (spans.map (·.text)) := by
  rw [List.map_map]
  rfl

theorem exists_numberedLine {highlight : String → List Span} {line : String}
    (hcovers : Covers line (highlight line)) (marked : Option Nat) (n : Nat) :
    ∃ number spans, numberedLine n (marked == some n) (highlight line) = number :: spans ∧
      ShowsLine highlight marked n line number spans := by
  by_cases hmarked : marked = some n
  · rw [numberedLine, if_pos (beq_iff_eq.mpr hmarked)]
    refine ⟨_, _, rfl, lineNumber_eq n, ?_, fun h => absurd hmarked h, fun _ => ⟨rfl, ?_⟩⟩
    · rw [join_marked]
      exact hcovers.join_eq
    · intro span hspan
      obtain ⟨_, _, rfl⟩ := List.mem_map.mp hspan
      rfl
  · rw [numberedLine, if_neg (by simpa using hmarked)]
    exact ⟨_, _, rfl, lineNumber_eq n, hcovers.join_eq, fun _ => rfl, fun h => absurd h hmarked⟩

theorem getElem?_codeLines (lines : List (List Span)) (marked : Option Nat) (scroll : Nat)
    {page i : Nat} (hi : i < page) :
    (codeLines lines marked scroll page)[i]? =
      lines[scroll + i]?.map (numberedLine (scroll + i + 1) (marked == some (scroll + i + 1))) := by
  simp [codeLines, hi]

/-- A page is full unless the text is shorter. -/
theorem shows_codeLines {highlight : String → List Span}
    (hcovers : ∀ line, Covers line (highlight line)) (marked : Option Nat) {text : String}
    {scroll page : Nat} (h : scroll ≤ lastScroll (Text.lineCount text) page) :
    Shows (codeLines ((Text.linesOf text).map highlight) marked scroll page) highlight marked text
      scroll (min page (Text.lineCount text)) := by
  have hlength : (Text.linesOf text).length = Text.lineCount text := List.length_map _
  rw [lastScroll] at h
  constructor
  · rw [codeLines, List.length_mapIdx, List.length_take, List.length_drop, List.length_map, hlength]
    omega
  · intro i hi
    have hline : scroll + i < (Text.linesOf text).length := by omega
    obtain ⟨number, spans, hshown, hshows⟩ :=
      exists_numberedLine (hcovers (Text.linesOf text)[scroll + i]) marked (scroll + i + 1)
    refine ⟨_, number, spans, List.getElem?_eq_getElem hline, ?_, hshows⟩
    rw [getElem?_codeLines _ _ _ (by omega), List.getElem?_map, List.getElem?_eq_getElem hline,
      Option.map_some, Option.map_some, hshown]

section

variable (height : Nat) (v : Viewer)

theorem shows_source :
    Shows (v.fitTo height).sourceLines highlightCpp v.document.errorLine? v.document.source
      (v.fitTo height).sourceScroll (min (pageOf height) (Text.lineCount v.document.source)) := by
  rw [sourceLines, fitTo_document, fitTo_pageHeight]
  apply shows_codeLines (covers_highlight _ _)
  rw [fitTo_sourceScroll]
  exact Nat.min_le_right _ _

theorem shows_output {output : String} (h : v.document.output? = some output) :
    Shows (v.fitTo height).outputLines highlightPython none output
      (v.fitTo height).outputScroll (min (pageOf height) (Text.lineCount output)) := by
  simp only [outputLines, fitTo_document, h, fitTo_pageHeight]
  apply shows_codeLines (covers_highlight _ _)
  rw [fitTo_outputScroll_some height v h]
  exact Nat.min_le_right _ _

end

/-! ### The rows of the screen -/

/-- Inside its border a box has one row for each line, and empty rows after the last. -/
theorem getElem?_box (width : Nat) {height : Nat} (title : String) (style : Style)
    (lines : List (List Span)) {i : Nat} (hi : i < height) :
    (box width (height + 2) title style lines)[i + 1]? =
      some (boxLine width style (lines[i]?.getD [])) := by
  have hshown : ((lines ++ List.replicate height []).take height)[i]? =
      some (lines[i]?.getD []) := by
    rw [List.getElem?_take_of_lt hi]
    by_cases hline : i < lines.length
    · rw [List.getElem?_append_left hline, List.getElem?_eq_getElem hline, Option.getD_some]
    · rw [List.getElem?_append_right (by omega), List.getElem?_replicate_of_lt (by omega),
        List.getElem?_eq_none (by omega), Option.getD_none]
  have hrow := congrArg (Option.map (boxLine width style)) hshown
  rw [← List.getElem?_map, Option.map_some] at hrow
  rw [box, List.cons_append, List.getElem?_cons_succ,
    List.getElem?_append_left (List.getElem?_eq_some_iff.mp hrow).1, hrow]

/-- Below the top border, the rows of the screen are the lines of the two panes side by side. -/
theorem getElem?_screen {width height : Nat} (hwidth : 0 < width) (v : Viewer) {i : Nat}
    (hi : i < height - 3) :
    (v.screen width height)[i + 1]? =
      some (boxLine ((width + 1) / 2) (borderStyle (v.focus = .source))
          (v.sourceLines[i]?.getD []) ++
        boxLine (width - (width + 1) / 2) (borderStyle (v.focus = .output))
          (v.outputLines[i]?.getD [])) := by
  obtain ⟨rows, rfl⟩ : ∃ rows, height = rows + 3 := ⟨height - 3, by omega⟩
  have hsource := getElem?_box ((width + 1) / 2) " C++ Source "
    (borderStyle (v.focus = .source)) v.sourceLines hi
  have houtput := getElem?_box (width - (width + 1) / 2) " Python Output "
    (borderStyle (v.focus = .output)) v.outputLines hi
  have hrow := List.getElem?_zipWith_eq_some.mpr
    ⟨_, _, hsource, houtput, (rfl : (fun a b : Row => a ++ b) _ _ = _)⟩
  have hempty : ¬ (width = 0 ∨ rows + 3 = 0) := by omega
  rw [screen, if_neg hempty]
  exact (List.getElem?_append_left (List.getElem?_eq_some_iff.mp hrow).1).trans hrow

end CppToPython.Viewer
