/-! # Colours and styles -/

namespace CppToPython.Viewer

inductive Color where
  /-- Whatever the terminal uses on its own. -/
  | reset
  | black
  | white
  | rgb (red green blue : Nat)
  deriving Repr, DecidableEq

/-- How a piece of text is drawn. -/
structure Style where
  foreground : Color := .reset
  background : Color := .reset
  bold : Bool := false
  deriving Repr, DecidableEq

structure Span where
  text : String
  style : Style
  deriving Repr, DecidableEq

/-! ### The theme -/

namespace Theme

def text : Color := .rgb 205 214 244
def bracket : Color := .rgb 137 180 250
def builtin : Color := .rgb 250 179 135
def comment : Color := .rgb 108 112 134
def success : Color := .rgb 166 227 161
def error : Color := .rgb 243 139 168
def keyword : Color := .rgb 137 180 250
def string : Color := .rgb 166 227 161
def number : Color := .rgb 250 179 135
def focusedBorder : Color := .rgb 249 226 175
def border : Color := .rgb 108 112 134
def bar : Color := .rgb 50 50 70
def function : Color := .rgb 249 226 175
def typeName : Color := .rgb 148 226 213
def directive : Color := .rgb 245 194 231

end Theme

def Style.colored (color : Color) : Style := { foreground := color }

def Style.boldColored (color : Color) : Style := { foreground := color, bold := true }

end CppToPython.Viewer
