import CppToPython.Command.FileSystem

/-! # File trees

A file system as a value: a finite map from places to files and directories. The
working directory is there, and so are the directories around it. A path is
walked name by name; every name but the last has to be that of a directory.
-/

namespace CppToPython.Command

/-- Where a place is counted from. -/
inductive Origin where
  /-- The directory a number of levels above the working directory. -/
  | above (levels : Nat)
  /-- The directory that contains all others. -/
  | root
  deriving Repr, DecidableEq

/-- A place in a file tree: the names that lead to it. -/
structure Place where
  origin : Origin
  names : List String
  deriving Repr, DecidableEq

namespace Place

def here : Place := ⟨.above 0, []⟩

/-- The directory around a place. The root is in itself. -/
def parent (p : Place) : Place :=
  match p.names, p.origin with
  | [], .above levels => ⟨.above (levels + 1), []⟩
  | [], .root => p
  | _ :: _, _ => { p with names := p.names.dropLast }

def child (p : Place) (name : String) : Place :=
  { p with names := p.names ++ [name] }

end Place

/-- What is at a place. -/
inductive Entry where
  | file (content : ByteArray)
  | directory

/-- The parts of a path between slashes. -/
def pathParts : List Char → List (List Char)
  | [] => [[]]
  | c :: text =>
      match pathParts text with
      | [] => [[c]]
      | name :: names => if c = '/' then [] :: name :: names else (c :: name) :: names

/-- A file tree. Later entries for a place hide earlier ones. -/
structure FileTree where
  entries : List (Place × Entry)

namespace FileTree

/-- A tree with nothing but directories around an empty working directory. -/
def empty : FileTree := ⟨[]⟩

def systemDirectories : List String :=
  ["bin", "dev", "etc", "home", "lib", "mnt", "opt", "proc", "root", "run", "sbin", "srv", "sys",
   "tmp", "usr", "var"]

/-- The tree of a system around an empty working directory. An empty file stands
    for the device that swallows what is written to it. -/
def standard : FileTree :=
  let root (names : List String) : Place := ⟨.root, names⟩
  ⟨(root ["dev", "null"], .file .empty)
    :: systemDirectories.map fun name => (root [name], .directory)⟩

def get? (t : FileTree) (p : Place) : Option Entry :=
  if p.names = [] then some .directory else t.entries.lookup p

def insert (t : FileTree) (p : Place) (e : Entry) : FileTree :=
  ⟨(p, e) :: t.entries⟩

/-- The longest name, in bytes. -/
def maxNameLength : Nat := 255

/-- The longest path, in bytes. -/
def maxPathLength : Nat := 4095

def enter (t : FileTree) (p : Place) : Except FileError Unit :=
  match t.get? p with
  | none => .error .notFound
  | some (.file _) => .error .notDirectory
  | some .directory => .ok ()

/-- The place that a name leads to. -/
def step (t : FileTree) (p : Place) (name : String) : Except FileError Place := do
  t.enter p
  if name.utf8ByteSize > maxNameLength then throw .nameTooLong
  else if name = "" ∨ name = "." then return p
  else if name = ".." then return p.parent
  else return p.child name

/-- Whether a path says that it leads to a directory. -/
def endsInSlash (path : String) : Bool :=
  path.toList.getLast? == some '/'

def start (path : String) : Place :=
  if path.toList.head? = some '/' then ⟨.root, []⟩ else .here

/-- The names in a path. Slashes side by side count as one. -/
def names (path : String) : List String :=
  ((pathParts path.toList).filter (· ≠ [])).map String.ofList

/-- The place that names lead to from where a path starts. -/
def walk (t : FileTree) (path : String) (names : List String) : Except FileError Place :=
  if path.utf8ByteSize > maxPathLength then .error .nameTooLong
  else names.foldlM t.step (start path)

/-- The place that a path leads to. There need not be anything, but what is on the
    way has to be directories. -/
def resolve (t : FileTree) (path : String) : Except FileError Place :=
  t.walk path (names path)

def entry (t : FileTree) (path : String) : Except FileError Entry := do
  match t.get? (← t.resolve path) with
  | none => throw .notFound
  | some (.file content) =>
      if endsInSlash path then throw .notDirectory else return .file content
  | some .directory => return .directory

def contains (t : FileTree) (path : String) : Bool :=
  (t.entry path).isOk

def read (t : FileTree) (path : String) : Except FileError ByteArray := do
  match ← t.entry path with
  | .file content => return content
  | .directory => throw .isDirectory

/-- The tree with new content for the file at a path. A path that ends in a slash
    cannot be that of a file, whatever its last name is. -/
def write (t : FileTree) (path : String) (content : ByteArray) : Except FileError FileTree := do
  if endsInSlash path then
    t.enter (← t.walk path (names path).dropLast)
    throw .isDirectory
  let place ← t.resolve path
  match t.get? place with
  | some .directory => throw .isDirectory
  | _ => return t.insert place (.file content)

/-- The tree with a directory at a path. What is already there stays. -/
def makeDirectory (t : FileTree) (path : String) : Except FileError FileTree := do
  let place ← t.resolve path
  match t.get? place with
  | some _ => return t
  | none => return t.insert place .directory

/-- A file tree as a file system. A write that fails changes nothing. -/
def system : FileSystem (StateM FileTree) where
  contains path := do return (← get).contains path
  read path := do return (← get).read path
  write path content := do
    match (← get).write path content with
    | .ok t =>
        set t
        return .ok ()
    | .error e => return .error e

end FileTree

end CppToPython.Command
