import CppToPython.Text.Clusters
import CppToPython.Text.Columns
import CppToPython.Viewer.Style

/-! # Rows of cells

A screen is a list of rows, a row a list of cells. Text is laid out cell by
cell: a cluster of characters shares a cell, a wide one is followed by empty
cells, and what takes no column is not drawn.
-/

namespace CppToPython.Viewer

structure Cell where
  symbol : String
  style : Style
  deriving Repr, DecidableEq

namespace Cell

def blank : Cell := ⟨" ", {}⟩

end Cell

abbrev Row := List Cell

/-- The rows of the screen from top to bottom. -/
abbrev Screen := List Row

/-- The cells of a cluster on some columns of a background. The cell right after
    its own belongs to it, and the rest of its columns show the background. -/
def clusterCells (background : Cell) (cluster : List Char) (style : Style) (columns : Nat) : Row :=
  let follower := if 2 ≤ columns then [Cell.blank] else []
  ⟨String.ofList cluster, style⟩ :: follower ++ List.replicate (columns - 2) background

/-- Lays out clusters on what is left of `width` cells. One that is wider than all
    of them is left out; the first other one that does not fit ends the row. -/
def place (width : Nat) (background : Cell) (room : Nat) : List (List Char × Style) → Row
  | [] => []
  | (cluster, style) :: rest =>
      let columns := Text.columnsOf cluster
      if columns = 0 ∨ width < columns then place width background room rest
      else if columns ≤ room then
        clusterCells background cluster style columns
          ++ place width background (room - columns) rest
      else []

def Span.clusters (s : Span) : List (List Char × Style) :=
  (Text.clusters s.text.toList).map (·, s.style)

/-- Lays out spans on at most `width` cells. -/
def placeSpans (width : Nat) (background : Cell) (spans : List Span) : Row :=
  place width background width (spans.flatMap Span.clusters)

def fill (width : Nat) (cell : Cell) (row : Row) : Row :=
  row ++ List.replicate (width - row.length) cell

/-- Lays out spans on exactly `width` cells, from the left. -/
def alignLeft (width : Nat) (cell : Cell) (spans : List Span) : Row :=
  fill width cell (placeSpans width cell spans)

/-- Lays out spans on exactly `width` cells, to the right. -/
def alignRight (width : Nat) (cell : Cell) (spans : List Span) : Row :=
  let row := placeSpans width cell spans
  List.replicate (width - row.length) cell ++ row

/-! ### Boxes -/

/-- A row between two border cells. Where there is room for one of them only, it
    is the left one. -/
def between (width : Nat) (left right : Cell) (inner : Row) : Row :=
  match width with
  | 0 => []
  | 1 => [left]
  | _ => left :: inner ++ [right]

def topBorder (width : Nat) (title : String) (style : Style) : Row :=
  between width ⟨"┌", style⟩ ⟨"┐", style⟩
    (alignLeft (width - 2) ⟨"─", style⟩ [⟨title, style⟩])

def bottomBorder (width : Nat) (style : Style) : Row :=
  between width ⟨"└", style⟩ ⟨"┘", style⟩ (List.replicate (width - 2) ⟨"─", style⟩)

def boxLine (width : Nat) (style : Style) (spans : List Span) : Row :=
  between width ⟨"│", style⟩ ⟨"│", style⟩ (alignLeft (width - 2) .blank spans)

/-- A box with a title around lines of text. A box of one row is its top border. -/
def box (width height : Nat) (title : String) (style : Style) (lines : List (List Span)) : Screen :=
  match height with
  | 0 => []
  | 1 => [topBorder width title style]
  | height + 2 =>
      let shown := (lines ++ List.replicate height []).take height
      topBorder width title style :: shown.map (boxLine width style) ++ [bottomBorder width style]

end CppToPython.Viewer
