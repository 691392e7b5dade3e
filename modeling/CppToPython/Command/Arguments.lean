/-! # Arguments of the command

The command takes the path of the source and the path of the output, and options
that may stand before, between and after them. `--` ends the options.

A path or the value of an option is not looked at until the argument after it
has been understood or the arguments end. It is `pending` until then, so a later
argument that cannot be understood at all is reported first.
-/

namespace CppToPython.Command

/-- Why arguments give nothing to run. -/
inductive Stop where
  /-- The usage was asked for. -/
  | help
  /-- The version was asked for. -/
  | version
  /-- A path is missing. -/
  | missingPath
  /-- An option is not known, or there are too many paths. -/
  | unknown
  /-- An option has no value, or a path is empty. -/
  | noValue
  /-- An option has a value that does not fit. -/
  | badValue
  /-- An option has a value but takes none. -/
  | unexpectedValue
  /-- An option was given twice. -/
  | repeated
  deriving Repr, DecidableEq

/-- What the arguments say. -/
structure Arguments where
  input : String
  output : String
  indent : Nat
  mainGuard : Bool
  view : Bool
  verbose : Nat
  deriving Repr, DecidableEq

/-! ### One argument -/

/-- The options that are on or off, or are counted. -/
inductive Flag where
  | mainGuard | view | verbose | help | version
  deriving Repr, DecidableEq

inductive OptionName where
  | flag (flag : Flag)
  | indent
  deriving Repr, DecidableEq

/-- The option of a name, as it is written after `--`. -/
def OptionName.ofLong? : String → Option OptionName
  | "main-guard" => some (.flag .mainGuard)
  | "view" => some (.flag .view)
  | "verbose" => some (.flag .verbose)
  | "help" => some (.flag .help)
  | "version" => some (.flag .version)
  | "indent" => some .indent
  | _ => none

/-- The option of a letter, as it is written after `-`. -/
def Flag.ofShort? : Char → Option Flag
  | 'v' => some .verbose
  | 'h' => some .help
  | 'V' => some .version
  | _ => none

/-- An argument by its form. -/
inductive Argument where
  /-- The argument `--`. -/
  | endOfOptions
  /-- An option by its name, `--name` or `--name=value`. -/
  | long (name : String) (value : Option String)
  /-- A dash and letters. -/
  | short (letters : List Char)
  /-- Anything else, a lone dash among it. -/
  | plain (text : String)
  deriving Repr, DecidableEq

/-- Splits the text after `--` at its first equals sign. -/
def Argument.ofLong (text : List Char) : Argument :=
  let name := String.ofList (text.takeWhile (· != '='))
  match text.dropWhile (· != '=') with
  | [] => .long name none
  | _ :: value => .long name (some (String.ofList value))

def Argument.ofString (s : String) : Argument :=
  match s.toList with
  | ['-', '-'] => .endOfOptions
  | '-' :: '-' :: text => .ofLong text
  | '-' :: c :: letters => .short (c :: letters)
  | _ => .plain s

/-- The largest number an option takes. -/
def maxNumber : Nat := UInt64.size - 1

/-- Reads decimal digits, after a plus sign if there is one. -/
def readNumber? (s : String) : Option Nat :=
  let digits := match s.toList with
    | '+' :: digits => digits
    | digits => digits
  if digits ≠ [] ∧ digits.all Char.isDigit then
    let n := digits.foldl (fun n d => 10 * n + (d.toNat - '0'.toNat)) 0
    if n ≤ maxNumber then some n else none
  else none

/-! ### All arguments -/

/-- A value that has been given but not yet looked at. -/
inductive Pending where
  | nothing
  | path (text : String)
  /-- The indent option, with its value if that has come. -/
  | indent (value : Option String)
  deriving Repr, DecidableEq

/-- What the arguments read so far say. -/
structure Collected where
  /-- The paths that have been looked at. -/
  paths : List String := []
  /-- The number of paths given. -/
  pathCount : Nat := 0
  indent : Option Nat := none
  mainGuard : Bool := false
  view : Bool := false
  verbose : Nat := 0
  pending : Pending := .nothing
  /-- Whether options have ended. -/
  onlyPaths : Bool := false
  deriving Repr, DecidableEq

namespace Collected

def setIndent (value : String) (c : Collected) : Except Stop Collected :=
  if c.indent.isSome then .error .repeated
  else
    match readNumber? value with
    | some n => .ok { c with indent := some n }
    | none => .error .badValue

/-- Looks at the value that is pending. -/
def settle (c : Collected) : Except Stop Collected :=
  match c.pending with
  | .nothing => .ok c
  | .path text =>
      if text = "" then .error .noValue
      else .ok { c with paths := c.paths ++ [text], pending := .nothing }
  | .indent none => .error .noValue
  | .indent (some value) => { c with pending := .nothing }.setIndent value

def setFlag (c : Collected) : Flag → Except Stop Collected
  | .help => .error .help
  | .version => .error .version
  | .verbose => .ok { c with verbose := min (c.verbose + 1) 255 }
  | .mainGuard => if c.mainGuard then .error .repeated else .ok { c with mainGuard := true }
  | .view => if c.view then .error .repeated else .ok { c with view := true }

/-- Takes flags by their letters, one after the other. -/
def takeShort (c : Collected) : List Char → Except Stop Collected
  | [] => .ok c
  | letter :: letters =>
      match Flag.ofShort? letter with
      | none => .error .unknown
      | some flag => do takeShort (← (← c.settle).setFlag flag) letters

def takeLong (c : Collected) (name : String) (value : Option String) : Except Stop Collected :=
  match OptionName.ofLong? name, value with
  | none, _ => .error .unknown
  | some (.flag _), some _ => .error .unexpectedValue
  | some (.flag flag), none => do (← c.settle).setFlag flag
  | some .indent, some value => do (← c.settle).setIndent value
  | some .indent, none => do return { ← c.settle with pending := .indent none }

def takePath (c : Collected) (text : String) : Except Stop Collected :=
  if c.pathCount ≥ 2 then .error .unknown
  else do return { ← c.settle with pathCount := c.pathCount + 1, pending := .path text }

/-- Takes an argument that is no option: the value of an option that waits for one,
    or a path. -/
def takePlain (c : Collected) (text : String) : Except Stop Collected :=
  match c.pending with
  | .indent none => .ok { c with pending := .indent (some text) }
  | _ => c.takePath text

def take (c : Collected) (arg : String) : Except Stop Collected :=
  if c.onlyPaths then c.takePath arg
  else
    match Argument.ofString arg with
    | .endOfOptions => .ok { c with onlyPaths := true }
    | .long name value => c.takeLong name value
    | .short letters => c.takeShort letters
    | .plain text => c.takePlain text

/-- What all arguments say. Both paths have to be there. -/
def finish (c : Collected) : Except Stop Arguments := do
  let c ← c.settle
  match c.paths with
  | [input, output] =>
      return { input, output, indent := c.indent.getD 4, mainGuard := c.mainGuard,
               view := c.view, verbose := c.verbose }
  | _ => throw .missingPath

end Collected

def Arguments.parse (args : List String) : Except Stop Arguments := do
  (← args.foldlM Collected.take {}).finish

end CppToPython.Command
