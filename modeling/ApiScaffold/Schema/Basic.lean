/-
Schemas as the generator knows them: a component of the document, or an object that was written
inside one and got a name of its own.
-/
import ApiScaffold.Json.Basic
import ApiScaffold.SortedMap

namespace ApiScaffold

/-- A property of an object schema. -/
structure Property where
  name : String
  type : String
  required : Bool
  enumValues : Option (List Json)
  description : Option String

/-- A named schema. -/
structure Schema where
  name : String
  /-- The type that the document declares, untranslated. -/
  type : Option String
  format : Option String
  /-- The target of a component that is a bare reference. -/
  refName : Option String
  /-- The properties in declared order. -/
  properties : List Property
  dependencies : NameSet
  /-- The type of additional properties. -/
  additionalProperties : Option String
  /-- The remaining keywords, as written, under the names that templates use. -/
  keywords : Members

namespace Schema

/-- Whether some property lists its values. -/
def hasEnums (s : Schema) : Bool := s.properties.any (·.enumValues.isSome)

def isAlias (s : Schema) : Bool := s.refName.isSome

/-- The keywords that are carried along untouched: the name in templates and the key in documents. -/
def keywordTable : List (String × String) :=
  [("title", "title"), ("description", "description"), ("default", "default"),
    ("min_properties", "minProperties"), ("max_properties", "maxProperties"),
    ("min_items", "minItems"), ("max_items", "maxItems"), ("unique_items", "uniqueItems"),
    ("pattern", "pattern"), ("min_length", "minLength"), ("max_length", "maxLength"),
    ("minimum", "minimum"), ("maximum", "maximum"), ("exclusive_minimum", "exclusiveMinimum"),
    ("exclusive_maximum", "exclusiveMaximum"), ("multiple_of", "multipleOf")]

/-- What every schema takes from its node; it has no properties and no dependencies yet. -/
def ofNode (name : String) (node : Json) : Schema where
  name := name
  type := node.getStr? "type"
  format := node.getStr? "format"
  refName := none
  properties := []
  dependencies := .empty
  additionalProperties := none
  keywords := keywordTable.map fun (key, written) => (key, (node.get? written).getD .null)

end Schema

end ApiScaffold
