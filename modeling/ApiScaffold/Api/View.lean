/-
An API as plain data: what templates see of schemas and operations, field by field. An absent value
is shown as `null`.
-/
import ApiScaffold.Api

namespace ApiScaffold

namespace View

def text (s : String) : Json := .str s
def optText (s : Option String) : Json := Json.ofOption .str s
def optJson (j : Option Json) : Json := j.getD .null
def texts (xs : List String) : Json := .arr (xs.map .str)

end View

open View

namespace Property

def toJson (p : Property) : Json :=
  .obj [("name", text p.name), ("type", text p.type), ("is_required", .bool p.required),
    ("enum_values", Json.ofOption .arr p.enumValues), ("description", optText p.description)]

end Property

namespace Schema

def toJson (s : Schema) : Json :=
  .obj ([("name", text s.name), ("type", optText s.type), ("format", optText s.format),
    ("ref_name", optText s.refName), ("properties", .arr (s.properties.map Property.toJson)),
    ("dependencies", texts s.dependencies.names), ("has_enums", .bool s.hasEnums),
    ("additional_properties", optText s.additionalProperties)] ++ s.keywords)

end Schema

namespace Parameter

def toJson (p : Parameter) : Json :=
  .obj [("name", text p.name), ("location", text p.location.key), ("required", .bool p.required),
    ("type", optText p.type), ("deprecated", .bool p.deprecated),
    ("description", optText p.description), ("style", optText p.style), ("explode", .bool p.explode),
    ("allow_empty_value", .bool p.allowEmptyValue), ("allow_reserved", .bool p.allowReserved),
    ("example", optJson p.example?), ("extensions", .obj p.extensions)]

end Parameter

namespace Content

def toJson (c : Content) : Json :=
  .obj [("format", text c.format), ("type", optText c.type), ("example", optJson c.example?),
    ("examples", optJson c.examples), ("encoding", optJson c.encoding),
    ("extensions", .obj c.extensions)]

end Content

namespace RequestBody

def toJson (b : RequestBody) : Json :=
  .obj [("required", .bool b.required), ("description", optText b.description),
    ("formats", texts (Operation.formats b.contents)),
    ("contents", .arr (b.contents.map Content.toJson)), ("extensions", .obj b.extensions)]

end RequestBody

namespace Response

def toJson (r : Response) : Json :=
  .obj [("code", text r.code), ("description", optText r.description),
    ("formats", texts (Operation.formats r.contents)),
    ("contents", .arr (r.contents.map Content.toJson)), ("headers", optJson r.headers),
    ("extensions", .obj r.extensions)]

end Response

namespace Operation

def toJson (op : Operation) : Json :=
  .obj [("url", text op.url), ("tag", text op.tag), ("method", text op.method.key),
    ("function_name", text op.functionName), ("summary", optText op.summary),
    ("description", optText op.description), ("parameters", .arr (op.parameters.map Parameter.toJson)),
    ("parameters_locations", texts (op.parameterLocations.map (·.key))),
    ("request_body", Json.ofOption RequestBody.toJson op.requestBody),
    ("responses", .arr (op.responses.map Response.toJson)),
    ("response_formats", texts op.responseFormats.names),
    ("dependencies", texts op.dependencies.names), ("deprecated", .bool op.deprecated),
    ("servers", optJson op.servers), ("external_docs", optJson op.externalDocs),
    ("callbacks", optJson op.callbacks), ("security", optJson op.security),
    ("extensions", .obj op.extensions)]

end Operation

namespace Api

def infoJson (api : Api) : Json :=
  .obj [("title", text api.title), ("version", text api.version),
    ("description", optText api.description)]

def schemasJson (schemas : SortedMap Schema) : Json :=
  .obj (schemas.entries.map fun (name, s) => (name, s.toJson))

def pathsJson (paths : SortedMap (List Operation)) : Json :=
  .obj (paths.entries.map fun (tag, ops) => (tag, .arr (ops.map Operation.toJson)))

def toJson (api : Api) : Json :=
  .obj [("info", api.infoJson), ("base_path", text api.basePath), ("schemas", schemasJson api.schemas),
    ("paths", pathsJson api.paths)]

end Api

end ApiScaffold
