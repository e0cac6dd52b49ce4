/-
A tree of files. A place is a directory level known by how far it lies above the working directory,
or the root, and the names below it. Paths are followed name by name, so that `..` leaves the
directory that was really reached, and a name below a file or below nothing is an error.
-/
import ApiScaffold.Path

namespace ApiScaffold

/-- Why a file could not be read or written. -/
inductive FileError where
  | notFound
  | alreadyExists
  | notADirectory
  | isADirectory
  | nameTooLong
  | nulInName
  | notText
  deriving DecidableEq, Repr, Inhabited

namespace FileError

def message : FileError → String
  | .notFound => "No such file or directory (os error 2)"
  | .alreadyExists => "File exists (os error 17)"
  | .notADirectory => "Not a directory (os error 20)"
  | .isADirectory => "Is a directory (os error 21)"
  | .nameTooLong => "File name too long (os error 36)"
  | .nulInName => "file name contained an unexpected NUL byte"
  | .notText => "stream did not contain valid UTF-8"

end FileError

/-- Where the names of a place begin. -/
inductive Base where
  | root
  /-- So many levels above the working directory. -/
  | above (levels : Nat)
  deriving DecidableEq, Repr, Inhabited

structure Place where
  base : Base
  names : List String
  deriving DecidableEq, Repr, Inhabited

namespace Place

def workingDirectory : Place := ⟨.above 0, []⟩

def root : Place := ⟨.root, []⟩

def child (p : Place) (name : String) : Place := { p with names := p.names ++ [name] }

/-- The directory that holds a place. -/
def parent (p : Place) : Place :=
  if p.names.isEmpty then
    match p.base with
    | .root => p
    | .above n => ⟨.above (n + 1), []⟩
  else { p with names := p.names.dropLast }

/-- Whether a place is another or lies below it. -/
def isWithin (p dir : Place) : Bool := p.base == dir.base && dir.names.isPrefixOf p.names

end Place

inductive FileEntry where
  | file (content : ByteArray)
  | directory

/-- Contents are compared byte by byte. -/
instance : DecidableEq FileEntry
  | .file b, .file c => decidable_of_iff (b.data = c.data) (by rw [FileEntry.file.injEq, ByteArray.ext_iff])
  | .directory, .directory => isTrue rfl
  | .file _, .directory => isFalse nofun
  | .directory, .file _ => isFalse nofun

/-- The files and directories that exist; a place is known once. -/
structure FileTree where
  entries : List (Place × FileEntry)
  deriving DecidableEq

namespace FileTree

def empty : FileTree := ⟨[]⟩

instance : Inhabited FileTree := ⟨empty⟩

/-- What stands at a place. Where names begin there is always a directory. -/
def get? (t : FileTree) (p : Place) : Option FileEntry :=
  if p.names.isEmpty then some .directory else t.entries.lookup p

def put (t : FileTree) (p : Place) (e : FileEntry) : FileTree :=
  ⟨(p, e) :: t.entries.filter fun x => x.1 != p⟩

/-- Takes a place away with all below it. -/
def erase (t : FileTree) (p : Place) : FileTree := ⟨t.entries.filter fun x => !x.1.isWithin p⟩

/-! ## Following paths -/

/-- The longest name and the longest path, in bytes. -/
def maxName : Nat := 255

def maxPath : Nat := 4095

/-- The directory that a name leads to. -/
def enter (t : FileTree) (dir : Place) (name : String) : Except FileError Place :=
  if name == ".." then .ok dir.parent
  else if name.utf8ByteSize > maxName then .error .nameTooLong
  else match t.get? (dir.child name) with
    | some .directory => .ok (dir.child name)
    | some (.file _) => .error .notADirectory
    | none => .error .notFound

/-- What a path leads to. -/
inductive Target where
  | directory (p : Place)
  /-- A name in a directory, which need not exist; with `slash` it was written as a directory. -/
  | entry (p : Place) (slash : Bool)

/-- Follows a path up to its last name. -/
def follow (t : FileTree) (path : Path) : Except FileError Target := do
  if path.text.toList.any (·.toNat == 0) then throw .nulInName
  if path.text.isEmpty then throw .notFound
  if path.text.utf8ByteSize > maxPath then throw .nameTooLong
  let start := if path.isAbsolute then Place.root else Place.workingDirectory
  let names := path.segments.filter fun s => s != "" && s != "."
  let ends := path.segments.getLast?
  match names.getLast? with
  | none => return .directory start
  | some last =>
    if last == ".." || ends == some "." then return .directory (← names.foldlM t.enter start)
    else
      let dir ← names.dropLast.foldlM t.enter start
      if last.utf8ByteSize > maxName then throw .nameTooLong
      return .entry (dir.child last) (ends == some "")

/-- What stands at the end of a path. -/
def lookup (t : FileTree) (path : Path) : Except FileError FileEntry := do
  match ← t.follow path with
  | .directory _ => return .directory
  | .entry p slash =>
    match t.get? p with
    | none => throw .notFound
    | some .directory => return .directory
    | some (.file content) => if slash then throw .notADirectory else return .file content

def pathExists (t : FileTree) (path : Path) : Bool :=
  match t.lookup path with
  | .ok _ => true
  | .error _ => false

def isDirectory (t : FileTree) (path : Path) : Bool :=
  match t.lookup path with
  | .ok .directory => true
  | _ => false

/-! ## Reading and writing -/

def read (t : FileTree) (path : Path) : Except FileError ByteArray := do
  match ← t.lookup path with
  | .directory => throw .isADirectory
  | .file content => return content

/-- Reads a file that must hold text. -/
def readText (t : FileTree) (path : Path) : Except FileError String := do
  match String.fromUTF8? (← t.read path) with
  | some text => return text
  | none => throw .notText

/-- Writes a file in a directory that exists. -/
def write (t : FileTree) (path : Path) (content : ByteArray) : Except FileError FileTree := do
  match ← t.follow path with
  | .directory _ => throw .isADirectory
  | .entry p slash =>
    match t.get? p with
    | some .directory => throw .isADirectory
    | some (.file _) => if slash then throw .notADirectory else return t.put p (.file content)
    | none => if slash then throw .isADirectory else return t.put p (.file content)

/-- Creates a directory in one that exists. -/
def createDirectory (t : FileTree) (path : Path) : Except FileError FileTree := do
  match ← t.follow path with
  | .directory _ => throw .alreadyExists
  | .entry p _ =>
    if (t.get? p).isSome then throw .alreadyExists
    return t.put p .directory

/-- Creates a directory, which is no failure if it exists. -/
def ensureDirectory (t : FileTree) (path : Path) : Except FileError FileTree :=
  match t.createDirectory path with
  | .ok t => .ok t
  | .error e => if t.isDirectory path then .ok t else .error e

/-- Creates a directory with those around it; `levels` is the number of directories that may have to
be created. Those created before a failure stay. -/
def createDirectoriesWithin (t : FileTree) : Nat → Path → FileTree × Except FileError Unit
  | 0, _ => (t, .error .notFound)
  | levels + 1, path =>
    if path.text.isEmpty then (t, .ok ())
    else match t.ensureDirectory path with
      | .ok t => (t, .ok ())
      | .error .notFound =>
        match path.parent? with
        | none => (t, .error .notFound)
        | some parent =>
          match t.createDirectoriesWithin levels parent with
          | (t, .error e) => (t, .error e)
          | (t, .ok ()) =>
            match t.ensureDirectory path with
            | .ok t => (t, .ok ())
            | .error e => (t, .error e)
      | .error e => (t, .error e)

/-- Creates a directory with those around it, where they are missing. -/
def createDirectories (t : FileTree) (path : Path) : FileTree × Except FileError Unit :=
  t.createDirectoriesWithin (path.segments.length + 1) path

/-- A failure with the path at fault. -/
structure Failure where
  path : Path
  cause : FileError
  deriving DecidableEq, Repr, Inhabited

/-- Writes a file after creating the directories around it. -/
def writeDeep (t : FileTree) (path : Path) (content : ByteArray) : FileTree × Except Failure Unit :=
  let (t, made) := match path.parent? with
    | some parent =>
      let (t, made) := t.createDirectories parent
      (t, made.mapError (Failure.mk parent))
    | none => (t, .ok ())
  match made with
  | .error f => (t, .error f)
  | .ok () =>
    match t.write path content with
    | .ok t => (t, .ok ())
    | .error e => (t, .error ⟨path, e⟩)

/-- The files below the working directory with the paths that lead to them. -/
def files (t : FileTree) : List (Path × ByteArray) :=
  t.entries.filterMap fun (p, e) =>
    match e with
    | .file content => if p.base == .above 0 then some (⟨"/".intercalate p.names⟩, content) else none
    | .directory => none

end FileTree

end ApiScaffold
