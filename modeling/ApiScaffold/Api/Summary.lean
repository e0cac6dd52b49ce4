/-
A short overview of an API: its schemas with their kind, and the operations of each tag.
-/
import ApiScaffold.Api.View

namespace ApiScaffold.Api

open View

/-- What a schema is: another name for one, a value without members, or an object. -/
def schemaKind (s : Schema) : String :=
  if s.isAlias then "alias"
  else if s.properties.isEmpty && s.additionalProperties.isNone then "primitive"
  else "object"

def schemaSummary (s : Schema) : Json :=
  .obj [("name", text s.name), ("kind", text (schemaKind s)),
    ("properties", texts (s.properties.map (·.name))), ("dependencies", texts s.dependencies.names)]

def operationSummary (op : Operation) : Json :=
  .obj [("name", text op.functionName), ("method", text op.method.key), ("url", text op.url),
    ("deprecated", .bool op.deprecated)]

/-- The overview as data, keys in the order in which they are shown. -/
def summary (api : Api) : Json :=
  .obj [("info", .obj [("title", text api.title), ("version", text api.version)]),
    ("base_path", text api.basePath),
    ("schemas", .arr (api.schemas.values.map schemaSummary)),
    ("tags", .obj (api.paths.entries.map fun (tag, ops) => (tag, .arr (ops.map operationSummary))))]

end ApiScaffold.Api
