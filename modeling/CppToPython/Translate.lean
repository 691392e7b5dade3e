import CppToPython.Grammar.Program
import CppToPython.Log
import CppToPython.Emission.Program
import CppToPython.Text.Lines
import CppToPython.Token.Scan

/-! # Translating a source text

The whole way from the text of a C++ program to the text of a Python module,
together with what is reported on the way.
-/

namespace CppToPython

/-- Why a source text could not be translated. -/
inductive TranslateError where
  /-- It has no tokens. -/
  | lex (error : LexError)
  /-- Its tokens are no program. -/
  | parse (error : ParseError)
  deriving Repr, DecidableEq

namespace TranslateError

def message : TranslateError → String
  | lex error => error.message
  | parse error => error.message

def position : TranslateError → Position
  | lex error => error.position
  | parse error => error.position

end TranslateError

/-- A result, and what was reported until it was there. -/
structure Report where
  events : List Event
  result : Except TranslateError String

/-- The module of a program, with what is reported while it is written. -/
def Program.translate (options : Options) (p : Program) : Report :=
  let text := p.toPython options
  { events := p.unsupportedLoops.map .unsupportedLoop ++ [.generated (Text.lineCount text)]
    result := .ok text }

def translateTokens (options : Options) (tokens : List Token) : Report :=
  match (Program.parse tokens).1 with
  | .error e => ⟨[], .error (.parse e)⟩
  | .ok program =>
      let done := program.translate options
      ⟨.parsed program.length :: done.events, done.result⟩

/-- A source text, translated. -/
def translate (options : Options) (source : String) : Report :=
  let (scanned, stop) := (Cursor.ofString source).scan
  match scanned with
  | .error e => ⟨[], .error (.lex e)⟩
  | .ok tokens =>
      let done := translateTokens options tokens
      ⟨.tokenized tokens.length stop.position.line :: done.events, done.result⟩

end CppToPython
