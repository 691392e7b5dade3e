import CppToPython.Proofs.Position
import CppToPython.Proofs.Viewer.Drawing

/-! # Runs of the viewer

A run is any sequence of keys and drawings, at any sizes. What holds of the state all along comes
from what one key and one drawing can do: a key moves one thing, and a drawing fits both scroll
positions to the page.
-/

namespace CppToPython.Viewer

/-! ### One key -/

/-- What one key can make of a viewer. -/
inductive KeyMove (v : Viewer) : Viewer → Prop where
  | focus (pane : Pane) : KeyMove v { v with focus := pane }
  | quit : KeyMove v { v with shouldQuit := true }
  | scrollSource (scroll : Nat) : v.focus = .source → KeyMove v { v with sourceScroll := scroll }
  | scrollOutput (scroll : Nat) : v.focus = .output → KeyMove v { v with outputScroll := scroll }

theorem keyMove_self (v : Viewer) : KeyMove v v := .focus v.focus

theorem keyMove_scroll (f : Nat → Nat) (v : Viewer) : KeyMove v (v.scroll f) := by
  unfold scroll
  split
  · exact .scrollSource _ ‹_›
  · exact .scrollOutput _ ‹_›

theorem keyMove_press (key : Key) (v : Viewer) : KeyMove v (v.press key) := by
  cases key with
  | tab | backTab => exact .focus v.focus.other
  | escape => exact .quit
  | char c =>
      rw [press]
      split
      · exact .quit
      · exact keyMove_self v
  | up | pageUp =>
      rw [press, scrollUp]
      exact keyMove_scroll _ v
  | down | pageDown =>
      rw [press, scrollDown]
      exact keyMove_scroll _ v
  | home | endKey =>
      rw [press]
      exact keyMove_scroll _ v
  | other => exact keyMove_self v

namespace KeyMove

variable {v w : Viewer} (h : KeyMove v w)

include h

theorem document_eq : w.document = v.document := by cases h <;> rfl

theorem pageHeight_eq : w.pageHeight = v.pageHeight := by cases h <;> rfl

theorem errorCentered_eq : w.errorCentered = v.errorCentered := by cases h <;> rfl

theorem shouldQuit (hq : v.shouldQuit = true) : w.shouldQuit = true := by
  cases h with
  | quit => rfl
  | focus | scrollSource | scrollOutput => exact hq

end KeyMove

/-! ### Runs -/

/-- One thing that happens to a viewer. -/
inductive Step where
  | press (key : Key)
  | draw (width height : Nat)

def step (v : Viewer) : Step → Viewer
  | .press key => v.press key
  | .draw width height => (v.draw width height).1

def run (v : Viewer) (steps : List Step) : Viewer := steps.foldl step v

theorem draw_fst (width height : Nat) (v : Viewer) :
    (v.draw width height).1 = v.fitTo (clip width height).2 := rfl

/-- What one step keeps, a run keeps. -/
theorem run_keeps {P : Viewer → Prop} (hpress : ∀ v key, P v → P (v.press key))
    (hdraw : ∀ v height, P v → P (v.fitTo height)) {v : Viewer} (h : P v) (steps : List Step) :
    P (v.run steps) := by
  induction steps generalizing v with
  | nil => exact h
  | cons s steps ih =>
      apply ih
      cases s with
      | press key => exact hpress v key h
      | draw width height => exact hdraw v _ h

theorem run_document (v : Viewer) (steps : List Step) : (v.run steps).document = v.document :=
  run_keeps (P := fun w => w.document = v.document)
    (fun w key h => (keyMove_press key w).document_eq.trans h)
    (fun w height h => (fitTo_document height w).trans h) rfl steps

theorem run_pageHeight_pos {v : Viewer} (h : 1 ≤ v.pageHeight) (steps : List Step) :
    1 ≤ (v.run steps).pageHeight := by
  refine run_keeps (P := fun w => 1 ≤ w.pageHeight) ?_ ?_ h steps
  · intro w key h
    rwa [(keyMove_press key w).pageHeight_eq]
  · intro w height _
    rw [fitTo_pageHeight]
    exact Nat.le_max_left _ _

theorem run_shouldQuit {v : Viewer} (h : v.shouldQuit = true) (steps : List Step) :
    (v.run steps).shouldQuit = true :=
  run_keeps (P := fun w => w.shouldQuit = true) (fun w key => (keyMove_press key w).shouldQuit)
    (fun w height h => (fitTo_shouldQuit height w).trans h) h steps

/-! ### The range of scroll positions -/

def scrollOf (v : Viewer) : Pane → Nat
  | .source => v.sourceScroll
  | .output => v.outputScroll

theorem scrollOf_scroll (f : Nat → Nat) (v : Viewer) (pane : Pane) :
    (v.scroll f).scrollOf pane = if pane = v.focus then f (v.scrollOf pane) else v.scrollOf pane := by
  unfold scroll
  cases hf : v.focus <;> cases pane <;> rfl

/-- Scroll positions are 64-bit numbers, and so is every one that drawing can choose. -/
structure InRange (v : Viewer) : Prop where
  lines : Text.lineCount v.document.source ≤ maxScroll
  scrolls : ∀ pane, v.scrollOf pane ≤ maxScroll

theorem InRange.scroll {f : Nat → Nat} (hf : ∀ s ≤ maxScroll, f s ≤ maxScroll) {v : Viewer}
    (h : v.InRange) : (v.scroll f).InRange where
  lines := by
    rw [(keyMove_scroll f v).document_eq]
    exact h.lines
  scrolls pane := by
    rw [scrollOf_scroll]
    split
    · exact hf _ (h.scrolls pane)
    · exact h.scrolls pane

theorem InRange.scrollUp (n : Nat) {v : Viewer} (h : v.InRange) : (v.scrollUp n).InRange :=
  h.scroll fun s hs => Nat.le_trans (Nat.sub_le s n) hs

theorem InRange.scrollDown (n : Nat) {v : Viewer} (h : v.InRange) : (v.scrollDown n).InRange :=
  h.scroll fun s _ => Nat.min_le_right (s + n) maxScroll

theorem InRange.press (key : Key) {v : Viewer} (h : v.InRange) : (v.press key).InRange := by
  cases key with
  | tab | backTab | escape => exact ⟨h.lines, h.scrolls⟩
  | char c =>
      rw [Viewer.press]
      split
      · exact ⟨h.lines, h.scrolls⟩
      · exact h
  | other => exact h
  | up | pageUp => exact h.scrollUp _
  | down | pageDown => exact h.scrollDown _
  | home => exact h.scroll fun _ _ => Nat.zero_le _
  | endKey => exact h.scroll fun _ _ => Nat.le_refl _

theorem InRange.fitTo (height : Nat) {v : Viewer} (h : v.InRange) : (v.fitTo height).InRange where
  lines := by
    rw [fitTo_document]
    exact h.lines
  scrolls pane := by
    cases pane with
    | source =>
        have hlines := h.lines
        rw [scrollOf, fitTo_sourceScroll, lastScroll]
        omega
    | output =>
        have hscroll : v.outputScroll ≤ maxScroll := h.scrolls .output
        cases ho : v.document.output? with
        | none =>
            rw [scrollOf, fitTo_outputScroll_none height v ho]
            exact Nat.zero_le _
        | some output =>
            rw [scrollOf, fitTo_outputScroll_some height v ho]
            omega

theorem inRange_run {document : Document} (h : document.source.length < UInt64.size)
    (steps : List Step) : (({ document } : Viewer).run steps).InRange := by
  refine run_keeps (fun w key hw => hw.press key) (fun w height hw => hw.fitTo height) ?_ steps
  refine ⟨?_, fun pane => ?_⟩
  · have hlines := Text.length_lines_le document.source.toList
    rw [String.length_toList] at hlines
    exact Nat.le_trans hlines (Nat.le_pred_of_lt h)
  · cases pane <;> exact Nat.zero_le _

/-- No scroll position leaves the range of 64-bit numbers, and no key takes one from an end of the
    range to the other. -/
structure NoWrap (v : Viewer) : Prop where
  source_lt : v.sourceScroll < UInt64.size
  output_lt : v.outputScroll < UInt64.size
  le_down : ∀ key ∈ [Key.down, .pageDown], v.scrollOf v.focus ≤ (v.press key).scrollOf v.focus
  up_le : ∀ key ∈ [Key.up, .pageUp], (v.press key).scrollOf v.focus ≤ v.scrollOf v.focus

theorem InRange.noWrap {v : Viewer} (h : v.InRange) : v.NoWrap where
  source_lt := Nat.lt_of_le_pred (by decide) (h.scrolls .source)
  output_lt := Nat.lt_of_le_pred (by decide) (h.scrolls .output)
  le_down key hkey := by
    have hscroll := h.scrolls v.focus
    have hdown (n : Nat) : v.scrollOf v.focus ≤ (v.scrollDown n).scrollOf v.focus := by
      rw [Viewer.scrollDown, scrollOf_scroll, if_pos rfl]
      omega
    simp only [List.mem_cons, List.not_mem_nil, or_false] at hkey
    rcases hkey with rfl | rfl
    · exact hdown 1
    · exact hdown v.pageHeight
  up_le key hkey := by
    have hup (n : Nat) : (v.scrollUp n).scrollOf v.focus ≤ v.scrollOf v.focus := by
      rw [Viewer.scrollUp, scrollOf_scroll, if_pos rfl]
      exact Nat.sub_le _ n
    simp only [List.mem_cons, List.not_mem_nil, or_false] at hkey
    rcases hkey with rfl | rfl
    · exact hup 1
    · exact hup v.pageHeight

/-! ### Drawing in a run -/

/-- What drawing on a terminal of some size makes of a viewer, and what it shows. The screen is as
    large as the terminal, up to the number of cells that a screen can have. -/
structure Drawn (width height : Nat) (v w : Viewer) (screen : Screen) : Prop where
  page : w.pageHeight = max 1 ((clip width height).2 - 3)
  source_scroll : w.sourceScroll ≤ Text.lineCount v.document.source - w.pageHeight
  output_scroll : ∀ output, v.document.output? = some output →
    w.outputScroll ≤ Text.lineCount output - w.pageHeight
  no_output : v.document.output? = none → w.outputScroll = 0
  source_lines : Shows w.sourceLines highlightCpp v.document.errorLine? v.document.source
    w.sourceScroll (min w.pageHeight (Text.lineCount v.document.source))
  output_lines : ∀ output, v.document.output? = some output →
    Shows w.outputLines highlightPython none output w.outputScroll
      (min w.pageHeight (Text.lineCount output))
  rows : 0 < (clip width height).1 → ∀ i < (clip width height).2 - 3, screen[i + 1]? =
    some (boxLine (((clip width height).1 + 1) / 2) (borderStyle (w.focus = .source))
        (w.sourceLines[i]?.getD []) ++
      boxLine ((clip width height).1 - ((clip width height).1 + 1) / 2)
        (borderStyle (w.focus = .output)) (w.outputLines[i]?.getD []))
  document_eq : w.document = v.document
  focus_eq : w.focus = v.focus
  shouldQuit_eq : w.shouldQuit = v.shouldQuit
  again : (w.draw width height).1 = w

theorem pageOf_eq (height : Nat) : pageOf height = max 1 (height - 3) := by
  rw [pageOf, paneHeight, Nat.sub_sub]

theorem drawn (width height : Nat) (v : Viewer) :
    Drawn width height v (v.draw width height).1 (v.draw width height).2 where
  page := by rw [draw_fst, fitTo_pageHeight, pageOf_eq]
  source_scroll := by
    rw [draw_fst, fitTo_sourceScroll, fitTo_pageHeight]
    exact Nat.min_le_right _ _
  output_scroll output ho := by
    rw [draw_fst, fitTo_outputScroll_some _ v ho, fitTo_pageHeight]
    exact Nat.min_le_right _ _
  no_output := fitTo_outputScroll_none _ v
  source_lines := by
    rw [draw_fst, fitTo_pageHeight]
    exact shows_source _ v
  output_lines output ho := by
    rw [draw_fst, fitTo_pageHeight]
    exact shows_output _ v ho
  rows hwidth _ hi := getElem?_screen hwidth (v.fitTo (clip width height).2) hi
  document_eq := fitTo_document _ v
  focus_eq := fitTo_focus _ v
  shouldQuit_eq := fitTo_shouldQuit _ v
  again := fitTo_fitTo _ v

theorem clip_of_le {width height : Nat} (h : width * height ≤ maxCells) :
    clip width height = (width, height) := if_pos h

/-- At any point of any run from a fresh viewer: pages are never empty, scroll positions do not
    wrap around (no text in memory has 2 ^ 64 characters), a key moves one thing, a drawing fits
    both panes and changes nothing the second time, and a viewer that is to be left stays so. -/
theorem run_invariants (document : Document) (steps : List Step) :
    let v := ({ document } : Viewer).run steps
    v.document = document ∧ 1 ≤ v.pageHeight ∧
      (document.source.length < UInt64.size → v.NoWrap) ∧
      (∀ key, v.KeyMove (v.press key)) ∧
      (∀ width height, Drawn width height v (v.draw width height).1 (v.draw width height).2 ∧
        (width * height ≤ maxCells → clip width height = (width, height))) ∧
      (v.shouldQuit = true → ∀ more, (v.run more).shouldQuit = true) := by
  intro v
  refine ⟨run_document _ steps, run_pageHeight_pos (Nat.le_refl 1) steps, ?_, ?_, ?_, ?_⟩
  · intro hsize
    exact (inRange_run hsize steps).noWrap
  · intro key
    exact keyMove_press key v
  · intro width height
    exact ⟨drawn width height v, clip_of_le⟩
  · intro hquit more
    exact run_shouldQuit hquit more

/-- A short source with an error, looked at far beyond its end before and after it is drawn. -/
def overscrolled : Viewer :=
  ({ document := ⟨"a\n@", .error (.lex ⟨'@', ⟨2, 1⟩⟩)⟩ } : Viewer).run
    [.press .endKey, .press .pageDown, .draw 80 4, .press .endKey, .press .escape]

theorem run_invariants_overscrolled :
    overscrolled.sourceScroll = maxScroll ∧ overscrolled.NoWrap ∧
      overscrolled.shouldQuit = true ∧
      (overscrolled.run [.press .tab, .draw 0 0]).shouldQuit = true := by
  obtain ⟨_, _, hwrap, _, _, hquit⟩ := run_invariants _
    [.press .endKey, .press .pageDown, .draw 80 4, .press .endKey, .press .escape]
  exact ⟨rfl, hwrap (by decide), rfl, hquit rfl _⟩

end CppToPython.Viewer
