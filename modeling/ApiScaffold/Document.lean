/-
Documents: a JSON value with the few facts that the generator relies on checked, and the parts of it
that are read directly.
-/
import ApiScaffold.Json.Basic
import ApiScaffold.Text.Split

namespace ApiScaffold

/-- What makes a value no document. -/
inductive DocumentError where
  | unsupportedVersion (version : String)
  | missingField (field : String)
  | notAMapping (field : String)
  deriving DecidableEq, Repr, Inhabited

namespace DocumentError

def message : DocumentError → String
  | .unsupportedVersion version => s!"unsupported OpenAPI version: {version}"
  | .missingField field => s!"missing required field: {field}"
  | .notAMapping field => s!"expected `{field}` to be a mapping"

end DocumentError

structure Document where
  root : Json

namespace Document

/-- A member of a member. -/
def at? (j : Json) (key inner : String) : Option Json := (j.get? key).bind (·.get? inner)

/-- Checks that `paths` is there and that it, the components and their schemas are mappings. -/
def checkParts (root : Json) : Except DocumentError Unit := do
  match root.get? "paths" with
  | some (.obj _) => .ok ()
  | some _ => .error (.notAMapping "paths")
  | none => .error (.missingField "paths")
  match root.get? "components" with
  | none => .ok ()
  | some (.obj ms) =>
    match Members.get? ms "schemas" with
    | none => .ok ()
    | some (.obj _) => .ok ()
    | some _ => .error (.notAMapping "components.schemas")
  | some _ => .error (.notAMapping "components")

/-- The document of a value: an object of version 3 with its parts in place. -/
def ofJson (root : Json) : Except DocumentError Document := do
  if !root.isObj then .error (.notAMapping "<root>")
  match root.getStr? "openapi" with
  | none => .error (.missingField "openapi")
  | some version =>
    if !Text.startsWith "3." version then .error (.unsupportedVersion version)
  checkParts root
  return ⟨root⟩

/-- The declared version of the description format. -/
def openapi (d : Document) : String := (d.root.getStr? "openapi").getD ""

/-- A text of the `info` part. -/
def info? (d : Document) (key : String) : Option String := (at? d.root "info" key).bind Json.str?

def title (d : Document) : String := (d.info? "title").getD ""

def version (d : Document) : String := (d.info? "version").getD ""

def description? (d : Document) : Option String := d.info? "description"

/-- The path items in declared order. -/
def paths (d : Document) : Members := (d.root.getObj? "paths").getD []

/-- The component schemas in declared order, if the document has any. -/
def schemas? (d : Document) : Option Members := (at? d.root "components" "schemas").bind Json.obj?

/-- The address of the first server, `/` without one. -/
def basePath (d : Document) : String :=
  (((d.root.getArr? "servers").bind List.head?).bind (Json.getStr? "url")).getD "/"

end Document

end ApiScaffold
