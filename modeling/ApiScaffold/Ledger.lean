/-
The checksum ledger: for every output path the digest of what was last written there, kept in a JSON
file. A file that is missing, unreadable or malformed counts as an empty ledger.
-/
import ApiScaffold.Digest
import ApiScaffold.FileTree
import ApiScaffold.Json.Reader
import ApiScaffold.Json.Writer
import ApiScaffold.SortedMap

namespace ApiScaffold

structure Ledger where
  path : Path
  entries : SortedMap String

namespace Ledger

/-- The name of a ledger file in an output directory. -/
def defaultName : String := ".apigen-checksums.json"

/-- The entries that a text holds: an object whose members are all strings. -/
def entriesOfText? (text : String) : Option (SortedMap String) := do
  match ← Json.readAsWritten text with
  | .obj ms => return SortedMap.ofList (← ms.mapM fun (k, v) => return (k, ← v.str?))
  | _ => none

def load (t : FileTree) (path : Path) : Ledger :=
  match t.readText path with
  | .ok text => ⟨path, (entriesOfText? text).getD .empty⟩
  | .error _ => ⟨path, .empty⟩

def get? (l : Ledger) (key : String) : Option String := l.entries.get? key

def insert (l : Ledger) (key digest : String) : Ledger := { l with entries := l.entries.insert key digest }

/-- Keeps the entries whose keys pass the test. -/
def retain (l : Ledger) (keep : String → Bool) : Ledger :=
  { l with entries := l.entries.filter fun key _ => keep key }

def size (l : Ledger) : Nat := l.entries.size

/-- The text of the ledger file. -/
def toText (l : Ledger) : String :=
  (Json.obj (l.entries.entries.map fun (k, v) => (k, .str v))).pretty ++ "\n"

/-- Writes the ledger file. -/
def save (l : Ledger) (t : FileTree) : FileTree × Except FileTree.Failure Unit :=
  t.writeDeep l.path l.toText.toUTF8

end Ledger

end ApiScaffold
