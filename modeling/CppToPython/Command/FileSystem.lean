/-! # Files as a run sees them -/

namespace CppToPython.Command

/-- Why a file could not be read or written. -/
inductive FileError where
  | notFound
  | notDirectory
  | isDirectory
  | nameTooLong
  | permissionDenied
  /-- The file holds no text. -/
  | notText
  /-- Any other failure. -/
  | other (description : String)
  deriving Repr, DecidableEq

namespace FileError

/-- The number of the failure, its kind and its description. -/
def details : FileError → Option Nat × String × String
  | notFound => (some 2, "NotFound", "No such file or directory")
  | permissionDenied => (some 13, "PermissionDenied", "Permission denied")
  | notDirectory => (some 20, "NotADirectory", "Not a directory")
  | isDirectory => (some 21, "IsADirectory", "Is a directory")
  | nameTooLong => (some 36, "InvalidFilename", "File name too long")
  | notText => (none, "InvalidData", "stream did not contain valid UTF-8")
  | other description => (none, "Other", description)

def message (e : FileError) : String :=
  let (code, kind, description) := e.details
  let source := match code with
    | some n => s!"Os \x7b code: {n}, "
    | none => "Error \x7b "
  source ++ "kind: " ++ kind ++ ", message: \"" ++ description ++ "\" \x7d"

end FileError

/-- The operations on files that a run needs. -/
structure FileSystem (m : Type → Type) where
  /-- Whether there is a file or directory at a path. -/
  contains : String → m Bool
  /-- The bytes of the file at a path. -/
  read : String → m (Except FileError ByteArray)
  /-- Makes bytes the whole content of the file at a path. -/
  write : String → ByteArray → m (Except FileError Unit)

end CppToPython.Command
