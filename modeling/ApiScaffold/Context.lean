/-
What templates see in one round of a run: the API, the options, and the schema and tag that the round
is about.
-/
import ApiScaffold.Api.View
import ApiScaffold.Template.Render

namespace ApiScaffold

structure Context where
  api : Api
  /-- The options of the settings. -/
  options : Members
  currentSchema : Option String
  currentTag : Option String

namespace Context

/-- The context before any round. -/
def start (api : Api) (options : Members) : Context := ⟨api, options, none, none⟩

/-- The schema that the round is about. -/
def schema? (c : Context) : Option Schema := c.currentSchema.bind c.api.schemas.get?

/-- The operations of the tag that the round is about. -/
def operations? (c : Context) : Option (List Operation) := c.currentTag.bind c.api.paths.get?

/-- All names that the operations of the tag depend on. -/
def tagDependencies (c : Context) : NameSet :=
  .ofList ((c.operations?.getD []).flatMap (·.dependencies.names))

def tags (c : Context) : List String := c.api.paths.keys

def schemaNames (c : Context) : List String := c.api.schemas.keys

open View in
/-- The names that templates can use, with their values. -/
def frame (c : Context) : Template.Frame :=
  [("schemas", Api.schemasJson c.api.schemas), ("paths", Api.pathsJson c.api.paths),
    ("base_path", text c.api.basePath), ("info", c.api.infoJson), ("cfg", .obj c.options),
    ("current_schema", optText c.currentSchema), ("current_tag", optText c.currentTag),
    ("schema", Json.ofOption Schema.toJson c.schema?),
    ("operations", Json.ofOption (fun ops => .arr (ops.map Operation.toJson)) c.operations?),
    ("tag_dependencies", texts c.tagDependencies.names)].map fun (name, v) => (name, .ofJson v)

end Context

end ApiScaffold
