/-
Why a document cannot be resolved. Every error names the place of the fragment at fault, written as a
path of keys such as `components.schemas.Pet.properties.tags`.
-/
namespace ApiScaffold

/-- The place of a fragment in the document, as a path of keys. -/
abbrev Location := String

inductive ResolveError where
  | invalidRef (reference : String) (location : Location)
  | referenceNotFound (reference : String) (location : Location)
  | missingType (location : Location)
  | missingItems (location : Location)
  /-- The backend has no word for a type or container marker. -/
  | unmappedType (key : String) (location : Location)
  | malformedSpec (location : Location) (reason : String)
  | duplicateSchema (name : String) (location : Location)
  | duplicateOperation (name : String) (first second : Location)
  deriving DecidableEq, Repr, Inhabited

namespace ResolveError

def message : ResolveError → String
  | .invalidRef reference location => s!"invalid reference format `{reference}` at {location}"
  | .referenceNotFound reference location =>
    s!"reference `{reference}` not found (used at {location})"
  | .missingType location => s!"schema at {location} has neither `type` nor `$ref`"
  | .missingItems location => s!"array schema at {location} has no `items`"
  | .unmappedType key location => s!"type `{key}` at {location} has no mapping for this backend"
  | .malformedSpec location reason => s!"malformed spec at {location}: {reason}"
  | .duplicateSchema name location =>
    s!"schema name `{name}` produced twice (second time at {location})"
  | .duplicateOperation name first second =>
    s!"operation name `{name}` used by both {first} and {second}"

end ResolveError

end ApiScaffold
