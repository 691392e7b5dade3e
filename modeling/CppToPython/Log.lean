import CppToPython.Text.Plain

/-! # Log records

What a run reports while it works, as values. A record has a level, the part of
the program it comes from, and a message.
-/

namespace CppToPython

/-- How important a record is. -/
inductive Level where
  | warn | info | debug
  deriving Repr, DecidableEq

namespace Level

def name : Level → String
  | warn => "WARN"
  | info => "INFO"
  | debug => "DEBUG"

/-- A number that grows as importance falls. -/
def rank : Level → Nat
  | warn => 0
  | info => 1
  | debug => 2

end Level

/-- Something that a run reports. -/
inductive Event where
  /-- The source file that is read. -/
  | translating (path : String)
  /-- The number of tokens, and the line on which the source ends. -/
  | tokenized (tokens lines : Nat)
  /-- The number of top-level statements. -/
  | parsed (statements : Nat)
  /-- The variable, if any, of a loop that has no equivalent. -/
  | unsupportedLoop (counter : Option String)
  /-- The number of lines of output. -/
  | generated (lines : Nat)
  /-- The output file that is left as it was. -/
  | notWritten (path : String)
  deriving Repr, DecidableEq

namespace Event

def level : Event → Level
  | unsupportedLoop _ => .warn
  | translating _ => .info
  | tokenized _ _ | parsed _ | generated _ | notWritten _ => .debug

/-- The part of the program that reports. -/
def origin : Event → String
  | translating _ | notWritten _ => "cpp2py"
  | tokenized _ _ => "cpp2py::parser::lexer"
  | parsed _ => "cpp2py::parser::parse"
  | unsupportedLoop _ | generated _ => "cpp2py::codegen::generator"

def counterText : Option String → String
  | some name => "Some(\"" ++ name ++ "\")"
  | none => "None"

def message : Event → String
  | translating path => "Translating " ++ path
  | tokenized tokens lines => s!"tokenized {tokens} tokens over {lines} line(s)"
  | parsed statements => s!"parsed {statements} top-level statement(s)"
  | unsupportedLoop counter =>
      "for-loop over " ++ counterText counter
        ++ " has no range() equivalent; emitting placeholder"
  | generated lines => s!"generated {lines} line(s) of output"
  | notWritten path => path ++ " not written"

/-- A message with its lines after the first one indented. -/
def indented (message : String) : String :=
  String.ofList (message.toList.flatMap fun c => if c = '\n' then "\n    ".toList else [c])

/-- A record as text, which ends its line. Levels are padded to the same width. A
    message can hold the name of a file, so commands to the terminal are left
    out. -/
def text (e : Event) : String :=
  let level := String.ofList (List.rightpad 5 ' ' e.level.name.toList)
  Text.plain ("[" ++ level ++ " " ++ e.origin ++ "] " ++ indented e.message ++ "\n")

end Event

end CppToPython
