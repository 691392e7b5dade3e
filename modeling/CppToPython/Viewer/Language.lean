import CppToPython.Viewer.Highlight

/-! # The two languages of the viewer -/

namespace CppToPython.Viewer

namespace Language

/-- The style of a word with no meaning of its own in the language. -/
def plainWord (isCall : Bool) : Style :=
  .colored (if isCall then Theme.function else Theme.text)

def cpp : Language where
  comment := ['/', '/']
  hasDirectives := true
  wordStyle
    | "int", _ | "float", _ | "double", _ | "char", _ | "void", _ => .colored Theme.typeName
    | "if", _ | "else", _ | "for", _ | "while", _ | "return", _ | "using", _ | "namespace", _ =>
        .boldColored Theme.keyword
    | "cout", _ | "cin", _ | "endl", _ | "std", _ => .colored Theme.builtin
    | "true", _ | "false", _ => .colored Theme.number
    | _, isCall => plainWord isCall

def python : Language where
  comment := ['#']
  hasDirectives := false
  wordStyle
    | "def", _ | "if", _ | "elif", _ | "else", _ | "while", _ | "for", _ | "in", _ | "return", _
    | "pass", _ => .boldColored Theme.keyword
    | "print", _ | "input", _ | "range", _ | "int", _ => .colored Theme.builtin
    | "True", _ | "False", _ | "None", _ => .colored Theme.number
    | "__name__", _ => .colored Theme.typeName
    | _, isCall => plainWord isCall

end Language

def highlightCpp (line : String) : List Span :=
  highlight .unicode .cpp line

def highlightPython (line : String) : List Span :=
  highlight .unicode .python line

end CppToPython.Viewer
