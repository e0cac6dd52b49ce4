/-
Operations: one method of one path, with the defaults of its path merged in.
-/
import ApiScaffold.HttpMethod
import ApiScaffold.Json.Basic
import ApiScaffold.SortedMap

namespace ApiScaffold

/-- Where a parameter is carried, in alphabetical order. -/
inductive ParameterLocation where
  | cookie
  | header
  | path
  | query
  deriving DecidableEq, Repr, Inhabited

namespace ParameterLocation

def all : List ParameterLocation := [.cookie, .header, .path, .query]

def key : ParameterLocation → String
  | .cookie => "cookie"
  | .header => "header"
  | .path => "path"
  | .query => "query"

def rank : ParameterLocation → Nat
  | .cookie => 0
  | .header => 1
  | .path => 2
  | .query => 3

def ofKey? (key : String) : Option ParameterLocation := all.find? fun l => l.key == key

end ParameterLocation

structure Parameter where
  name : String
  location : ParameterLocation
  required : Bool
  type : Option String
  deprecated : Bool
  description : Option String
  style : Option String
  explode : Bool
  allowEmptyValue : Bool
  allowReserved : Bool
  example? : Option Json
  extensions : Members

/-- One media type of a body or response. -/
structure Content where
  format : String
  type : Option String
  example? : Option Json
  examples : Option Json
  encoding : Option Json
  extensions : Members

structure RequestBody where
  required : Bool
  description : Option String
  contents : List Content
  extensions : Members

structure Response where
  code : String
  description : Option String
  contents : List Content
  headers : Option Json
  extensions : Members

structure Operation where
  url : String
  tag : String
  method : HttpMethod
  functionName : String
  summary : Option String
  description : Option String
  parameters : List Parameter
  requestBody : Option RequestBody
  responses : List Response
  dependencies : NameSet
  deprecated : Bool
  servers : Option Json
  externalDocs : Option Json
  callbacks : Option Json
  security : Option Json
  extensions : Members

namespace Operation

/-- The media types of a list of contents, in declared order. -/
def formats (contents : List Content) : List String := contents.map (·.format)

/-- The places in which the parameters are carried. -/
def parameterLocations (op : Operation) : List ParameterLocation :=
  ParameterLocation.all.filter fun l => op.parameters.any fun p => p.location == l

/-- The media types of all responses. -/
def responseFormats (op : Operation) : NameSet :=
  NameSet.ofList (op.responses.flatMap fun r => formats r.contents)

end Operation

end ApiScaffold
