import CppToPython.Viewer.Language
import CppToPython.Viewer.Screen
import CppToPython.Viewer.State

/-! # Drawing the viewer

The source pane takes the left half of the screen, rounded up, the output pane
the rest, and the status bar the bottom row.
-/

namespace CppToPython.Viewer

/-! ### Code panes -/

/-- The number in front of a line, right-aligned in four columns. -/
def lineNumber (n : Nat) : String :=
  String.ofList (List.leftpad 4 ' ' (toString n).toList) ++ " "

def markedStyle : Style := { foreground := .white, background := Theme.error, bold := true }

/-- A line of code with its number. The line with an error stands out as a whole. -/
def numberedLine (n : Nat) (marked : Bool) (spans : List Span) : List Span :=
  if marked then
    ⟨lineNumber n, .boldColored Theme.error⟩ :: spans.map ({ · with style := markedStyle })
  else ⟨lineNumber n, .colored Theme.comment⟩ :: spans

/-- The lines of code that are shown: `page` of them after the first `scroll`. -/
def codeLines (lines : List (List Span)) (marked : Option Nat) (scroll page : Nat) :
    List (List Span) :=
  ((lines.drop scroll).take page).mapIdx fun i spans =>
    let n := scroll + i + 1
    numberedLine n (marked == some n) spans

def borderStyle (focused : Bool) : Style :=
  if focused then .boldColored Theme.focusedBorder else .colored Theme.border

def sourceLines (v : Viewer) : List (List Span) :=
  codeLines ((Text.linesOf v.document.source).map highlightCpp) v.document.errorLine?
    v.sourceScroll v.pageHeight

def outputLines (v : Viewer) : List (List Span) :=
  match v.document.output? with
  | some output =>
      codeLines ((Text.linesOf output).map highlightPython) none v.outputScroll v.pageHeight
  | none => [[⟨" No output: translation failed", .colored Theme.comment⟩]]

/-! ### The status bar -/

def barStyle : Style := { background := Theme.bar }

/-- The left part of the status bar: how the document fared. -/
def statusSpans (d : Document) : List Span :=
  let (badge, badgeColor, messageColor) :=
    match d.result with
    | .ok _ => (" OK ", Theme.success, Theme.text)
    | .error _ => (" ERROR ", Theme.error, Theme.error)
  [⟨badge, { foreground := .black, background := badgeColor, bold := true }⟩,
   ⟨" " ++ d.status ++ " ", { foreground := messageColor, background := Theme.bar }⟩]

/-- The keys that the status bar names, and what they do. -/
def keyHelp : List (String × String) :=
  [("Tab", "pane"), ("↑/↓", "scroll"), ("PgUp/PgDn", "page"), ("q", "quit")]

def keySpans (key description : String) : List Span :=
  [⟨" " ++ key ++ " ", { foreground := .black, background := Theme.comment }⟩,
   ⟨" " ++ description ++ " ", { foreground := Theme.text, background := Theme.bar }⟩]

def helpSpans : List Span :=
  let bar : Span := ⟨"│", { foreground := Theme.comment, background := Theme.bar }⟩
  List.intercalate [bar] (keyHelp.map fun (key, description) => keySpans key description)

/-- The status bar. Its left part takes 55 hundredths of the width, rounded. -/
def statusBar (width : Nat) (d : Document) : Row :=
  let left := (width * 55 + 50) / 100
  let empty : Cell := ⟨" ", barStyle⟩
  alignLeft left empty (statusSpans d) ++ alignRight (width - left) empty helpSpans

/-! ### The screen -/

/-- The screen of a viewer that fits its height. -/
def screen (width height : Nat) (v : Viewer) : Screen :=
  let left := (width + 1) / 2
  let rows := paneHeight height
  let source := box left rows " C++ Source " (borderStyle (v.focus = .source)) v.sourceLines
  let output :=
    box (width - left) rows " Python Output " (borderStyle (v.focus = .output)) v.outputLines
  if width = 0 ∨ height = 0 then []
  else List.zipWith (· ++ ·) source output ++ [statusBar width v.document]

/-- The most cells that a screen can have. -/
def maxCells : Nat := 65535

/-- The size of the screen on a terminal of some width and height. If that would be
    too many cells, both sides shrink and keep their ratio. -/
def clip (width height : Nat) : Nat × Nat :=
  if width * height ≤ maxCells then (width, height)
  else
    let ratio := width.toFloat / height.toFloat
    let rows := (maxCells.toFloat / ratio).sqrt
    ((rows * ratio).toUInt16.toNat, rows.toUInt16.toNat)

/-- Draws the viewer on a terminal: its state afterwards, and the screen. -/
def draw (width height : Nat) (v : Viewer) : Viewer × Screen :=
  let (width, height) := clip width height
  let v := v.fitTo height
  (v, v.screen width height)

end CppToPython.Viewer
