/-
The mapping of an operation with the defaults of its path item: the path's extensions, the
operation's own keys, the fallback keys it leaves out, and the path's parameters that it does not
declare itself.
-/
import ApiScaffold.Reference

namespace ApiScaffold.Operation

/-- The keys that a path item provides when its operation has none of that name. -/
def fallbackKeys : List String := ["summary", "description", "servers", "method", "url"]

/-- A vendor key. -/
def isExtension (key : String) : Bool := Text.startsWith "x-" key

/-- The vendor keys of a mapping, in declared order. -/
def extensionsOf (fields : Members) : Members := fields.filter fun m => isExtension m.1

/-- A parameter as written, with the name and place it is known by. -/
structure ParameterEntry where
  name : String
  place : String
  written : Json

/-- A list of parameters from the `index`-th on, with references followed to read the names. -/
def parameterEntries (root : Json) (loc : Location) : Nat → List Json →
    Except ResolveError (List ParameterEntry)
  | _, [] => .ok []
  | index, written :: rest => do
    let target ← Reference.deref root written (loc ++ ".parameters." ++ toString index)
    let entries ← parameterEntries root loc (index + 1) rest
    return ⟨(target.getStr? "name").getD "", (target.getStr? "in").getD "", written⟩ :: entries

/-- The parameters of a mapping, if it has any. -/
def declaredParameters (root : Json) (owner : Members) (loc : Location) :
    Except ResolveError (Option (List ParameterEntry)) :=
  match Members.get? owner "parameters" with
  | none => .ok none
  | some (.arr entries) => (parameterEntries root loc 0 entries).map some
  | some _ => .error (.malformedSpec (loc ++ ".parameters") "`parameters` must be a list")

/-- The operation's parameters, then those of its path that none of them shadows. -/
def mergeParameters (own inherited : List ParameterEntry) : List Json :=
  own.map (·.written) ++ (inherited.filter fun p =>
    !own.any fun o => o.name == p.name && o.place == p.place).map (·.written)

/-- The keys of an operation with the extensions and fallback keys of its path item. -/
def mergeKeys (pathItem operation : Members) : Members :=
  let own := (extensionsOf pathItem ++ operation).foldl (fun acc m => Members.insert acc m.1 m.2) []
  fallbackKeys.foldl (fun acc key =>
    if Members.has acc key then acc
    else match Members.get? pathItem key with
      | some v => Members.insert acc key v
      | none => acc) own

/-- The mapping of an operation with the defaults of its path item. -/
def merge (root : Json) (pathItem operation : Members) (loc : Location) :
    Except ResolveError Members := do
  let merged := mergeKeys pathItem operation
  let inherited ← declaredParameters root pathItem loc
  let own ← declaredParameters root operation loc
  return match own, inherited with
    | none, none => merged
    | _, _ =>
      Members.insert merged "parameters" (.arr (mergeParameters (own.getD []) (inherited.getD [])))

end ApiScaffold.Operation
