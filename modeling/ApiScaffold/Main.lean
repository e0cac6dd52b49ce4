/-
The program. The files that a command line can touch are read from the disk first, the command is
carried out on them in memory, and then the files that changed are written. A file on the disk that was
not read is never replaced.
-/
import ApiScaffold.CommandLine.Reply

namespace ApiScaffold.Program

open CommandLine

/-- What is printed for a command line that is not well formed. -/
def usage : String :=
  "usage: apigen [-c FILE] (generate | validate | inspect | init) [options]\n"

/-- The path of a place on the disk. -/
def diskPath (p : Place) : String :=
  match p.base with
  | .root => "/" ++ "/".intercalate p.names
  | .above n => "/".intercalate ("." :: List.replicate n ".." ++ p.names)

/-- Reads what stands at a place on the disk, and at most `depth` levels below it. -/
def readPlace (t : FileTree) (p : Place) : Nat → IO FileTree
  | 0 => return t
  | depth + 1 => do
    let path := (← IO.currentDir) / diskPath p
    if ← path.isDir then
      let mut tree := if p.names.isEmpty then t else t.put p .directory
      for entry in ← path.readDir do
        tree ← readPlace tree (p.child entry.fileName) depth
      return tree
    else if ← path.pathExists then
      return t.put p (.file (← IO.FS.readBinFile path))
    else return t

/-- Reads what stands at the end of a path, with the directories that lead there. -/
def readPath (t : FileTree) (path : Path) (depth : Nat) : IO FileTree := do
  let start := if path.isAbsolute then Place.root else Place.workingDirectory
  let names := path.segments.filter fun s => s != "" && s != "."
  let mut tree := t
  let mut place := start
  for name in names do
    place := if name == ".." then place.parent else place.child name
    tree ← readPlace tree place 1
  readPlace tree place depth

/-- Enough levels for any directory. -/
def maxDepth : Nat := 256

/-- The files that a command can read or write, its settings file apart. -/
def touched (t : FileTree) (i : Invocation) : List Path :=
  let config := ((Config.load? t i.config).toOption.bind id).getD .standard
  match i.command with
  | .version => []
  | .init _ => []
  | .validate input => [input.getD config.spec]
  | .inspect input _ => [input.getD config.spec]
  | .generate overrides _ =>
    let c := config.merge overrides
    [c.spec, c.output, c.ledgerPath] ++ c.templates.toList

def readAll (i : Invocation) : IO FileTree := do
  let mut t ← readPath .empty i.config 1
  for path in touched t i do
    t ← readPath t path maxDepth
  return t

/-- Writes the files of a tree that differ from what was read. -/
def writeChanges (old new : FileTree) : IO Unit := do
  for (p, entry) in new.entries.reverse do
    let path := (← IO.currentDir) / diskPath p
    match entry with
    | .directory => IO.FS.createDirAll path
    | .file content =>
      match old.get? p with
      | some (.file before) => if before.data != content.data then IO.FS.writeBinFile path content
      | _ =>
        if ← path.pathExists then throw (IO.userError s!"{diskPath p} exists but was not looked at")
        IO.FS.writeBinFile path content

def run (args : List String) : IO UInt32 := do
  match Invocation.ofArguments? args with
  | none =>
    (← IO.getStderr).putStr usage
    return 2
  | some i =>
    let t ← readAll i
    let r := CommandLine.run t i
    writeChanges t r.tree
    (← IO.getStdout).putStr r.output
    (← IO.getStderr).putStr r.messages
    return if r.ok then 0 else 1

end ApiScaffold.Program

def main (args : List String) : IO UInt32 := ApiScaffold.Program.run args
