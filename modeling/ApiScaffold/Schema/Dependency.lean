/-
The schemas that a node, the content of a body or response, and a whole operation refer to. A node
refers to the target at the end of its chain of array items.
-/
import ApiScaffold.Json.Size
import ApiScaffold.Reference
import ApiScaffold.SortedMap

namespace ApiScaffold.Schema

/-- The target of the reference that a node is, or that its chain of array items ends in. -/
def chainTarget (root node : Json) (loc : Location) : Except ResolveError (Option String) :=
  match Reference.ofNode? node with
  | some text => (Reference.targetName root text loc).map some
  | none =>
    if node.getStr? "type" = some "array" then
      match _h : node.get? "items" with
      | none => .ok none
      | some items => chainTarget root items loc
    else .ok none
termination_by sizeOf node
decreasing_by exact Json.sizeOf_get?_lt (by assumption)

/-- The node through which a content entry is read, and its key. -/
def contentNode (entry : Json) : Option (Json × String) :=
  match entry.get? "schema", entry.get? "items" with
  | some node, _ => some (node, "schema")
  | none, some node => some (node, "items")
  | none, none => none

/-- Adds the targets of the entries of a `content` mapping, in order, and tells the first failure;
what was found before it stays. -/
def contentTargets (root : Json) (loc : Location) : Members → NameSet → NameSet × Except ResolveError Unit
  | [], found => (found, .ok ())
  | (format, entry) :: rest, found =>
    match contentNode entry with
    | none => contentTargets root loc rest found
    | some (node, key) =>
      match chainTarget root node (loc ++ ".content." ++ format ++ "." ++ key) with
      | .error e => (found, .error e)
      | .ok target => contentTargets root loc rest (found.insert? target)

/-- The targets of an optional `content` node; one that is no mapping has none. -/
def contentDependencies (root : Json) (content : Option Json) (loc : Location) (found : NameSet) :
    NameSet × Except ResolveError Unit :=
  contentTargets root loc ((content.bind Json.obj?).getD []) found

/-- The targets of a body or response, which may be a reference. -/
def bodyDependencies (root node : Json) (loc : Location) (found : NameSet) :
    Except ResolveError NameSet := do
  let body ← Reference.deref root node loc
  let (found, result) := contentDependencies root (body.get? "content") loc found
  result
  return found

/-- The schemas that the body and the responses of an operation refer to. -/
def operationDependencies (root operation : Json) (loc : Location) : Except ResolveError NameSet := do
  let found ← match operation.get? "requestBody" with
    | some body => bodyDependencies root body (loc ++ ".requestBody") .empty
    | none => .ok .empty
  ((operation.getObj? "responses").getD []).foldlM (fun found response =>
    bodyDependencies root response.2 (loc ++ ".responses." ++ response.1) found) found

end ApiScaffold.Schema
