import CppToPython.Translate

/-! # The state of the viewer

The viewer shows a source text beside its translated text, or beside the error
there is instead. Keys move its state; so does drawing, which fits the scroll
positions to the height of the screen.
-/

namespace CppToPython.Viewer

/-! ### What is shown -/

/-- A source text, and what became of it. -/
structure Document where
  source : String
  result : Except TranslateError String

namespace Document

def ofSource (options : Options) (source : String) : Document :=
  ⟨source, (translate options source).result⟩

def output? (d : Document) : Option String := d.result.toOption

def error? (d : Document) : Option TranslateError :=
  match d.result with
  | .ok _ => none
  | .error e => some e

def errorLine? (d : Document) : Option Nat := d.error?.map (·.position.line)

def status (d : Document) : String :=
  match d.result with
  | .ok output =>
      let lines := Text.lineCount d.source
      let outputLines := Text.lineCount output
      s!"Translated {lines} lines of C++ into {outputLines} lines of Python"
  | .error e => e.message

end Document

/-! ### Where it is shown from -/

inductive Pane where
  | source | output
  deriving Repr, DecidableEq

def Pane.other : Pane → Pane
  | source => output
  | output => source

/-- The largest scroll position. Scrolling stops there. -/
def maxScroll : Nat := UInt64.size - 1

end Viewer

/-- The viewer: a document and how it is looked at. -/
structure Viewer where
  document : Viewer.Document
  /-- The pane that keys scroll. -/
  focus : Viewer.Pane := .source
  /-- The number of source lines above the first one shown. -/
  sourceScroll : Nat := 0
  /-- The number of output lines above the first one shown. -/
  outputScroll : Nat := 0
  /-- The number of lines a pane showed when it was last drawn. -/
  pageHeight : Nat := 1
  /-- Whether the line with the error has been brought into view. -/
  errorCentered : Bool := false
  shouldQuit : Bool := false

namespace Viewer

/-! ### Keys -/

inductive Key where
  | tab | backTab | up | down | pageUp | pageDown | home | endKey | escape
  | char (c : Char)
  /-- Any other key. -/
  | other
  deriving Repr, DecidableEq

/-- The key of a name. Any single character is a key too. -/
def Key.ofName? : String → Option Key
  | "Tab" => some .tab
  | "BackTab" => some .backTab
  | "Up" => some .up
  | "Down" => some .down
  | "PageUp" => some .pageUp
  | "PageDown" => some .pageDown
  | "Home" => some .home
  | "End" => some .endKey
  | "Esc" => some .escape
  | "Enter" | "Left" | "Right" => some .other
  | name =>
      match name.toList with
      | [c] => some (.char c)
      | _ => none

/-- Changes the scroll position of the pane with the focus. -/
def scroll (f : Nat → Nat) (v : Viewer) : Viewer :=
  match v.focus with
  | .source => { v with sourceScroll := f v.sourceScroll }
  | .output => { v with outputScroll := f v.outputScroll }

/-- Scrolls down by `n` lines, at most to `maxScroll`. -/
def scrollDown (n : Nat) (v : Viewer) : Viewer :=
  v.scroll fun s => min (s + n) maxScroll

/-- Scrolls up by `n` lines, at most to the first one. -/
def scrollUp (n : Nat) (v : Viewer) : Viewer :=
  v.scroll fun s => s - n

def press (key : Key) (v : Viewer) : Viewer :=
  match key with
  | .escape => { v with shouldQuit := true }
  | .char c => if c = 'q' ∨ c = 'Q' then { v with shouldQuit := true } else v
  | .tab | .backTab => { v with focus := v.focus.other }
  | .up => v.scrollUp 1
  | .down => v.scrollDown 1
  | .pageUp => v.scrollUp v.pageHeight
  | .pageDown => v.scrollDown v.pageHeight
  | .home => v.scroll fun _ => 0
  | .endKey => v.scroll fun _ => maxScroll
  | .other => v

/-! ### Drawing -/

/-- The height of the panes on a screen: all but the status bar. -/
def paneHeight (height : Nat) : Nat := height - 1

/-- The number of lines a pane shows on a screen: all but its border, and never none. -/
def pageOf (height : Nat) : Nat := max 1 (paneHeight height - 2)

/-- The largest scroll position at which `lines` lines still fill a page. -/
def lastScroll (lines page : Nat) : Nat := lines - page

/-- Brings the line with the error to the middle of the page, once. -/
def centerError (v : Viewer) : Viewer :=
  match v.document.errorLine? with
  | none => v
  | some line =>
      if v.errorCentered then v
      else { v with sourceScroll := line - 1 - v.pageHeight / 2, errorCentered := true }

/-- Keeps both panes from being scrolled beyond the last page. -/
def clampScrolls (v : Viewer) : Viewer :=
  { v with
    sourceScroll := min v.sourceScroll (lastScroll (Text.lineCount v.document.source) v.pageHeight)
    outputScroll :=
      match v.document.output? with
      | some output => min v.outputScroll (lastScroll (Text.lineCount output) v.pageHeight)
      | none => 0 }

/-- The viewer as it is drawn on a screen of the given height. -/
def fitTo (height : Nat) (v : Viewer) : Viewer :=
  clampScrolls (centerError { v with pageHeight := pageOf height })

end Viewer

end CppToPython
