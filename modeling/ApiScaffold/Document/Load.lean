/-
Reading documents from texts and files. A file whose name ends in `.json` holds JSON, any other YAML.
-/
import ApiScaffold.Document
import ApiScaffold.FileTree
import ApiScaffold.Json.Reader
import ApiScaffold.Yaml.Value

namespace ApiScaffold

/-- How a document is written. -/
inductive DocumentForm where
  | json
  | yaml
  deriving DecidableEq, Repr, Inhabited

def DocumentForm.name : DocumentForm → String
  | .json => "JSON"
  | .yaml => "YAML"

/-- Why a document could not be read. -/
inductive LoadError where
  | unreadable (path : Path) (cause : FileError)
  | malformed (form : DocumentForm)
  | invalid (e : DocumentError)
  deriving DecidableEq, Repr, Inhabited

def LoadError.message : LoadError → String
  | .unreadable path cause => s!"failed to read {path.text}: {cause.message}"
  | .malformed form => s!"failed to parse {form.name}"
  | .invalid e => e.message

namespace Document

/-- The document in a text. -/
def read (form : DocumentForm) (text : String) : Except LoadError Document :=
  let root := match form with
    | .json => Json.read text
    | .yaml => Yaml.readJson text
  match root with
  | some root => (ofJson root).mapError .invalid
  | none => .error (.malformed form)

/-- The form of the documents in files with a name. -/
def formOf (path : Path) : DocumentForm := if path.extension? == some "json" then .json else .yaml

/-- The document in a file. -/
def load (t : FileTree) (path : Path) : Except LoadError Document :=
  match t.readText path with
  | .error cause => .error (.unreadable path cause)
  | .ok text => read (formOf path) text

end Document

end ApiScaffold
