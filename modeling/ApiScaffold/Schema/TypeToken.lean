/-
The type of a schema node in the words of a target language. A reference is named by its target, an
array by the container around the type of its items, an inline object by the name it is registered
under, and any other node by its format, if the language has a word for it, else by its type.
-/
import ApiScaffold.Json.Size
import ApiScaffold.Reference
import ApiScaffold.TypeTable

namespace ApiScaffold.Schema

/-- The declared type of a node. -/
def declaredType (node : Json) (loc : Location) : Except ResolveError String :=
  match node.get? "type" with
  | some (.str t) => .ok t
  | some _ => .error (.malformedSpec loc "`type` must be a string")
  | none => .error (.missingType loc)

/-- The word of a node that is neither a reference nor an array: an object has the name `hint` unless
that is empty. -/
def leafToken (types : TypeTable) (node : Json) (type hint : String) (loc : Location) :
    Except ResolveError String :=
  if type = "object" then if hint = "" then types.require "object" loc else .ok hint
  else match (node.getStr? "format").bind types.word? with
    | some w => .ok w
    | none => types.require type loc

/-- The type of a node inside `depth` arrays, whose ends it carries. -/
def typeToken (root : Json) (types : TypeTable) (node : Json) (hint : String) (depth : Nat)
    (loc : Location) : Except ResolveError String :=
  if !node.isObj then .error (.malformedSpec loc "schema must be a mapping")
  else match Reference.ofNode? node with
    | some text => do
      let name ← Reference.targetName root text loc
      return name ++ (← types.closers depth loc)
    | none => do
      let type ← declaredType node loc
      if type = "array" then
        match _h : node.get? "items" with
        | none => .error (.missingItems loc)
        | some items =>
          let inner ← typeToken root types items hint (depth + 1) (loc ++ ".items")
          return (← types.arrayOpen loc) ++ inner
      else
        let word ← leafToken types node type hint loc
        return word ++ (← types.closers depth loc)
termination_by sizeOf node
decreasing_by exact Json.sizeOf_get?_lt (by assumption)

/-- The type of the `schema` of a parameter or content entry, if it has one. -/
def schemaToken (root : Json) (types : TypeTable) (entry : Json) (loc : Location) :
    Except ResolveError (Option String) :=
  match entry.get? "schema" with
  | none => .ok none
  | some node => (typeToken root types node "" 0 (loc ++ ".schema")).map some

end ApiScaffold.Schema
