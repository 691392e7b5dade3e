import CppToPython.Command.Arguments
import CppToPython.Log
import CppToPython.Emission.Program

/-! # Settings of a run

Arguments that make sense together, in the form a run needs them.
-/

namespace CppToPython.Command

/-- Why arguments make no sense. -/
inductive SettingsError where
  | missingInput (path : String)
  | zeroIndent
  deriving Repr, DecidableEq

def SettingsError.message : SettingsError → String
  | missingInput path => "File '" ++ path ++ "' not found"
  | zeroIndent => "Indent width must be at least 1"

structure Settings where
  input : String
  output : String
  options : Options
  view : Bool
  level : Level
  deriving Repr, DecidableEq

/-- The least important records that are shown. -/
def Arguments.level (a : Arguments) : Level :=
  match a.verbose with
  | 0 => .warn
  | 1 => .info
  | _ => .debug

/-- The settings that arguments give, once it is known whether there is such an
    input. -/
def Arguments.settings (a : Arguments) (inputExists : Bool) : Except SettingsError Settings :=
  if !inputExists then .error (.missingInput a.input)
  else if a.indent = 0 then .error .zeroIndent
  else
    .ok { input := a.input, output := a.output, view := a.view, level := a.level
          options := { indentWidth := a.indent, mainGuard := a.mainGuard } }

end CppToPython.Command
