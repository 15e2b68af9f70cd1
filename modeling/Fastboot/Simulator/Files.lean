import Fastboot.Table

/-!
# Files

What the simulator needs of its surroundings: to read a file, to write one, and to read the standard
input. `Files m` holds these as actions of a monad `m`, so that the same program runs on real files and
on a `Folder`, which is a value: one directory, with files by name and nothing else in it.

A path is taken apart into a `Route`, and followed step by step from the folder or from the root
(`Folder.walk`): the first step that cannot be taken decides the error. Beyond the folder there are
directories, but no files.
-/

namespace Fastboot.Simulator

/-- Why a file could not be read or written. -/
inductive FileError where
  | notFound
  | notADirectory
  | isDirectory
  | nameTooLong
  /-- The name holds a zero byte. -/
  | zeroInName
  | other (text : String)
  deriving DecidableEq, Repr

def FileError.message : FileError → String
  | notFound => "No such file or directory (os error 2)"
  | notADirectory => "Not a directory (os error 20)"
  | isDirectory => "Is a directory (os error 21)"
  | nameTooLong => "File name too long (os error 36)"
  | zeroInName => "file name contained an unexpected NUL byte"
  | other text => text

/-- Access to files in a monad. -/
structure Files (m : Type → Type) where
  read : String → m (Except FileError ByteArray)
  write : String → ByteArray → m (Except FileError Unit)
  /-- All of the standard input. -/
  input : m ByteArray

/-! ### Paths -/

/-- A path, taken apart. -/
structure Route where
  /-- Whether it starts at the root and not in the folder. -/
  absolute : Bool
  /-- What stands between its slashes. -/
  steps : List String
  /-- Whether it ends with a slash, so that it has to lead to a directory. -/
  onward : Bool
  deriving DecidableEq, Repr

/-- A path has fewer bytes than this. -/
def pathLimit : Nat := 4096

/-- A name has this many bytes at most. -/
def nameLimit : Nat := 255

def Route.ofText (path : String) : Except FileError Route :=
  if path.toList.contains '\x00' then .error .zeroInName
  else if pathLimit ≤ path.utf8ByteSize then .error .nameTooLong
  else if path = "" then .error .notFound
  else
    .ok
      { absolute := path.toList.head? = some '/'
        steps := ((path.toList.splitOn '/').map String.ofList).filter (· != "")
        onward := path.toList.getLast? = some '/' }

/-! ### Folders -/

/-- The files of one directory, by name. -/
abbrev Folder := Table String ByteArray

/-- Where a path can lead. -/
inductive Place where
  | folder
  /-- A directory outside the folder, with no file in it. -/
  | outside
  /-- A file of the folder. -/
  | file (name : String)
  deriving DecidableEq, Repr

namespace Folder

/-- Where a path starts. -/
def start (route : Route) : Place :=
  if route.absolute then .outside else .folder

/-- The place one step on. There is nothing behind a file, whatever the step. -/
def step (f : Folder) (place : Place) (name : String) : Except FileError Place :=
  match place with
  | .file _ => .error .notADirectory
  | .folder | .outside =>
    if name = "." then .ok place
    else if name = ".." then .ok .outside
    else if nameLimit < name.utf8ByteSize then .error .nameTooLong
    else if place = .folder ∧ (f.get? name).isSome then .ok (.file name)
    else .error .notFound

/-- The place at the end of some steps, the first of which that cannot be taken is the error. -/
def walk (f : Folder) (place : Place) (steps : List String) : Except FileError Place :=
  steps.foldlM f.step place

def read (f : Folder) (path : String) : Except FileError ByteArray := do
  let route ← Route.ofText path
  match ← f.walk (start route) route.steps with
  | .folder | .outside => .error .isDirectory
  | .file name =>
    if route.onward then .error .notADirectory
    else
      match f.get? name with
      | some bytes => .ok bytes
      | none => .error .notFound

/-- Write a file, in place of the one of its name. The last step of the path is not taken: the file
need not be there. -/
def write (f : Folder) (path : String) (bytes : ByteArray) : Except FileError Folder := do
  let route ← Route.ofText path
  match route.steps.getLast? with
  | none => .error .isDirectory
  | some name =>
    match ← f.walk (start route) route.steps.dropLast with
    | .file _ => .error .notADirectory
    | place =>
      if name = "." ∨ name = ".." ∨ route.onward then .error .isDirectory
      else if nameLimit < name.utf8ByteSize then .error .nameTooLong
      else if place = .folder then .ok (f.insert name bytes)
      else .error .notFound

/-- Access to a folder, with a given standard input. -/
def files (input : ByteArray) : Files (StateM Folder) where
  read path := do return (← get).read path
  write path bytes := do
    match (← get).write path bytes with
    | .ok f =>
      set f
      return .ok ()
    | .error e => return .error e
  input := pure input

end Folder

end Fastboot.Simulator
