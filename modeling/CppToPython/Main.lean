import CppToPython.Command.Run
import CppToPython.Viewer.Draw

/-! # The command

The outer layer: it connects `Command.run` to the files and streams of the
system, and draws the viewer line by line.
-/

namespace CppToPython.Command

def FileError.ofSystem : IO.Error → FileError
  | .noFileOrDirectory .. => .notFound
  | .permissionDenied .. => .permissionDenied
  | .inappropriateType _ code _ => if code = 20 then .notDirectory else .isDirectory
  | e => .other (toString e)

/-- Turns a failure of the system into a value. -/
def attempt {α : Type} (action : IO α) : IO (Except FileError α) := do
  try return .ok (← action) catch e => return .error (.ofSystem e)

def systemFiles : FileSystem IO where
  contains path := do
    let directory ← IO.currentDir
    (directory / path).pathExists
  read path := attempt (IO.FS.readBinFile path)
  write path content := attempt (IO.FS.writeBinFile path content)

/-- The size of the screen the viewer is drawn on. -/
def screenSize : Nat × Nat := (80, 24)

/-- Draws the viewer and answers one key a line, until it is left. -/
partial def showViewer (v : Viewer) : IO Unit := do
  let (v, screen) := v.draw screenSize.1 screenSize.2
  for row in screen do
    IO.println (String.join (row.map (·.symbol)))
  if v.shouldQuit then return
  let line ← (← IO.getStdin).getLine
  if line.isEmpty then return
  match Viewer.Key.ofName? (line.dropEndWhile (· == '\n')).toString with
  | some key => showViewer (v.press key)
  | none => showViewer v

/-- Runs the command and shows what it leaves. -/
def runAndShow (args : List String) : IO UInt32 := do
  let outcome ← run systemFiles args
  IO.print outcome.stdout
  if let some document := outcome.view then showViewer { document }
  IO.eprint outcome.stderr
  return outcome.code.toUInt32

end CppToPython.Command

def main (args : List String) : IO UInt32 :=
  CppToPython.Command.runAndShow args
