import CppToPython.Command.FileSystem
import CppToPython.Command.Settings
import CppToPython.Viewer.State

/-! # A run of the command

A run reads the source, translates it and writes the output. Nothing is written
unless all of it succeeds. `run` works with any file system.
-/

namespace CppToPython.Command

/-- What a run leaves besides files. -/
structure Outcome where
  /-- The exit code: zero after a success, two when the arguments were no use. -/
  code : Nat
  stdout : String := ""
  stderr : String := ""
  /-- What is to be shown in the viewer. -/
  view : Option Viewer.Document := none

def versionText : String := "cpp2py 0.1.0\n"

def usageText : String :=
  "Translate a small C++ subset into Python\n\n"
    ++ "Usage: cpp2py [OPTIONS] <INPUT> <OUTPUT>\n\n"
    ++ "Options:\n"
    ++ "      --indent <INDENT>  Spaces per indentation level in the output [default: 4]\n"
    ++ "      --main-guard       Call main() when the module is run\n"
    ++ "      --view             Show source and output side by side\n"
    ++ "  -v, --verbose...       More log output (-v info, -vv debug)\n"
    ++ "  -h, --help             Print help\n"
    ++ "  -V, --version          Print version\n"

/-- What is said about arguments that give nothing to run. -/
def Stop.message : Stop → String
  | help => ""
  | version => ""
  | missingPath => "the following required arguments were not provided"
  | unknown => "unexpected argument found"
  | noValue => "a value is required but none was supplied"
  | badValue => "invalid value for '--indent <INDENT>'"
  | unexpectedValue => "unexpected value for an option that takes none"
  | repeated => "an option cannot be used multiple times"

def Stop.outcome : Stop → Outcome
  | help => { code := 0, stdout := usageText }
  | version => { code := 0, stdout := versionText }
  | stop => { code := 2, stderr := "error: " ++ stop.message ++ "\n\n" ++ usageText }

/-- The outcome of a run that failed, with the records of it. -/
def failure (log message : String) : Outcome :=
  { code := 1, stderr := log ++ message ++ "\n" }

/-- The records that are important enough, one after the other. -/
def logText (level : Level) (events : List Event) : String :=
  String.join ((events.filter (·.level.rank ≤ level.rank)).map Event.text)

def successText (output : String) : String :=
  "Transpilation completed successfully!\nGenerated file: " ++ output ++ "\n"

variable {m : Type → Type} [Monad m]

def readText (files : FileSystem m) (path : String) : m (Except FileError String) := do
  match ← files.read path with
  | .error e => return .error e
  | .ok bytes =>
      match String.fromUTF8? bytes with
      | some text => return .ok text
      | none => return .error .notText

/-- Translates `source` and writes the output. -/
def writeOutput (files : FileSystem m) (s : Settings) (source : String) : m Outcome := do
  let report := translate s.options source
  let log := logText s.level (.translating s.input :: report.events)
  let view := if s.view then some ⟨source, report.result⟩ else none
  match report.result with
  | .error e =>
      return { failure (log ++ logText s.level [.notWritten s.output]) e.message with view }
  | .ok text =>
      match ← files.write s.output text.toUTF8 with
      | .error e => return failure log ("Error: " ++ e.message)
      | .ok () => return { code := 0, stdout := successText s.output, stderr := log, view }

/-- Runs the command with arguments that `parse` makes sense of. -/
def runWith (parse : List String → Except Stop Arguments) (files : FileSystem m)
    (args : List String) : m Outcome := do
  match parse args with
  | .error stop => return stop.outcome
  | .ok arguments =>
      match arguments.settings (← files.contains arguments.input) with
      | .error e => return failure "" ("Error: " ++ e.message)
      | .ok settings =>
          match ← readText files settings.input with
          | .error e => return failure "" ("Error: " ++ e.message)
          | .ok source => writeOutput files settings source

def run (files : FileSystem m) (args : List String) : m Outcome :=
  runWith Arguments.parse files args

end CppToPython.Command
