/-
The named schemas of a document. Objects written inside a property get a name made of their owner's
name, one `Inner` for each array around the owner, and the property. A component thus stands for a
list of entries in preorder, the owner before its inline objects (`componentEntries`), and the
entries are registered one after the other until one is at fault or its name is taken.
-/
import ApiScaffold.Naming
import ApiScaffold.Schema.Basic
import ApiScaffold.Schema.Dependency
import ApiScaffold.Schema.TypeToken

namespace ApiScaffold.Schema

/-- A schema to be registered, or why there is none. -/
structure Entry where
  name : String
  location : Location
  schema : Except ResolveError Schema

/-- The types that need no flattening. -/
def primitiveTypes : List String := ["string", "integer", "number", "boolean"]

/-- A node of primitive type, or an array whose innermost items are. -/
def isPrimitive (node : Json) : Bool :=
  if (Reference.ofNode? node).isSome then false
  else match node.getStr? "type" with
    | none => false
    | some type =>
      if type = "array" then
        match _h : node.get? "items" with
        | none => false
        | some items => isPrimitive items
      else primitiveTypes.contains type
termination_by sizeOf node
decreasing_by exact Json.sizeOf_get?_lt (by assumption)

/-- An object at the end of a chain of array items, and the number of arrays. -/
def inlineObject? (node : Json) : Option (Json × Nat) :=
  if (Reference.ofNode? node).isSome then none
  else match node.getStr? "type" with
    | none => none
    | some type =>
      if type = "object" then some (node, 0)
      else if type = "array" then
        match _h : node.get? "items" with
        | none => none
        | some items => (inlineObject? items).map fun (element, layers) => (element, layers + 1)
      else none
termination_by sizeOf node
decreasing_by exact Json.sizeOf_get?_lt (by assumption)

theorem sizeOf_inlineObject?_le {node element : Json} {layers : Nat}
    (h : inlineObject? node = some (element, layers)) : sizeOf element ≤ sizeOf node := by
  fun_induction inlineObject? node generalizing element layers with
  | case1 => simp at h
  | case2 => simp at h
  | case3 node => simp at h; simp [h.1]
  | case4 => simp at h
  | case5 node _ items hi _ _ ih =>
    simp only [Option.map_eq_some_iff, Prod.mk.injEq, Prod.exists] at h
    obtain ⟨e, n, he, rfl, -⟩ := h
    exact Nat.le_trans (ih he) (Nat.le_of_lt (Json.sizeOf_get?_lt hi))
  | case6 => simp at h

/-- An object written inside a property. -/
structure Inline where
  name : String
  node : Json
  layers : Nat
  location : Location

/-- The name of the object written inside a property of an owner inside `layers` arrays. -/
def inlineName (owner : String) (layers : Nat) (property : String) : String :=
  owner ++ Text.repeated layers "Inner" ++ Text.capitalizeFirst property

/-- The place of a property. -/
def propertyLocation (loc : Location) (property : String) : Location :=
  loc ++ ".properties." ++ property

/-- The declared properties of an object node. -/
def propertyNodes (node : Json) : Members := (node.getObj? "properties").getD []

/-- The objects written directly inside the properties of an object node, in order. -/
def inlineObjects (name : String) (node : Json) (layers : Nat) (loc : Location) : List Inline :=
  (propertyNodes node).filterMap fun (property, n) =>
    (inlineObject? n).map fun (element, inner) =>
      ⟨inlineName name layers property, element, inner, propertyLocation loc property⟩

theorem sizeOf_inlineObjects_lt {name : String} {node : Json} {layers : Nat} {loc : Location}
    {i : Inline} (h : i ∈ inlineObjects name node layers loc) : sizeOf i.node < sizeOf node := by
  unfold inlineObjects propertyNodes at h
  obtain ⟨⟨property, n⟩, hm, hi⟩ := List.mem_filterMap.1 h
  obtain ⟨⟨element, inner⟩, he, rfl⟩ := Option.map_eq_some_iff.1 hi
  have hle := sizeOf_inlineObject?_le he
  rcases hp : node.getObj? "properties" with _ | ms
  · simp [hp] at hm
  · rw [hp, Option.getD_some] at hm
    unfold Json.getObj? at hp
    obtain ⟨j, hj, hjm⟩ := Option.bind_eq_some_iff.1 hp
    cases j with
    | obj ms' =>
      simp only [Json.obj?, Option.some.injEq] at hjm
      subst hjm
      have h1 := Json.sizeOf_member_lt hm
      have h2 := Json.sizeOf_get?_lt hj
      exact Nat.lt_of_le_of_lt hle (Nat.lt_trans h1 h2)
    | _ => simp [Json.obj?] at hjm

/-- The names of an object's required properties. -/
def requiredNames (node : Json) : List String :=
  ((node.getArr? "required").getD []).filterMap Json.str?

/-- The names that one property makes its owner depend on. -/
def propertyDependencies (root n : Json) (hint : String) (loc : Location) :
    Except ResolveError (List String) := do
  let target ← chainTarget root n loc
  return target.toList ++ ((inlineObject? n).map fun _ => hint).toList

/-- A property and the names it makes its owner depend on. -/
def readProperty (root : Json) (types : TypeTable) (owner : String) (layers : Nat)
    (required : List String) (loc : Location) (property : String) (n : Json) :
    Except ResolveError (Property × List String) := do
  let loc := propertyLocation loc property
  let hint := inlineName owner layers property
  let type ← typeToken root types n hint 0 loc
  let names ← propertyDependencies root n hint loc
  return ({
    name := property
    type := type
    required := required.contains property
    enumValues := n.getArr? "enum"
    description := n.getStr? "description" }, names)

/-- The type of additional properties that are described by a mapping, and the name it makes the
owner depend on. -/
def readAdditional (root : Json) (types : TypeTable) (node : Json) (loc : Location) :
    Except ResolveError (Option String × Option String) :=
  match node.get? "additionalProperties" with
  | some (.obj ms) => do
    let loc := loc ++ ".additionalProperties"
    let type ← typeToken root types (.obj ms) "" 0 loc
    let target ← chainTarget root (.obj ms) loc
    return (some type, target)
  | _ => .ok (none, none)

/-- The schema of an object node inside `layers` arrays. -/
def objectSchema (root : Json) (types : TypeTable) (name : String) (node : Json) (layers : Nat)
    (loc : Location) : Except ResolveError Schema := do
  let properties ← match node.get? "properties" with
    | none => .ok []
    | some (.obj ms) => .ok ms
    | some _ => .error (.malformedSpec (loc ++ ".properties") "`properties` must be a mapping")
  let read ← properties.mapM fun (property, n) =>
    readProperty root types name layers (requiredNames node) loc property n
  let (additional, target) ← readAdditional root types node loc
  return { ofNode name node with
    properties := read.map (·.1)
    dependencies := (NameSet.ofList (read.flatMap (·.2))).insert? target
    additionalProperties := additional }

/-- An object node and the objects inside it, in preorder. -/
def objectEntries (root : Json) (types : TypeTable) (name : String) (node : Json) (layers : Nat)
    (loc : Location) : List Entry :=
  ⟨name, loc, objectSchema root types name node layers loc⟩ ::
    (inlineObjects name node layers loc).attach.flatMap fun ⟨i, _⟩ =>
      objectEntries root types i.name i.node i.layers i.location
termination_by sizeOf node
decreasing_by exact sizeOf_inlineObjects_lt (by assumption)

/-- The element at the end of all array items, references or not, with the number of arrays and its
place. -/
def innermost (node : Json) (loc : Location) : Except ResolveError (Json × Nat × Location) :=
  if node.getStr? "type" = some "array" then
    match _h : node.get? "items" with
    | none => .error (.missingItems loc)
    | some items =>
      (innermost items (loc ++ ".items")).map fun (element, layers, loc) => (element, layers + 1, loc)
  else .ok (node, 0, loc)
termination_by sizeOf node
decreasing_by exact Json.sizeOf_get?_lt (by assumption)

/-- The schema of a component that is a bare reference. -/
def aliasSchema (root : Json) (name : String) (node : Json) (text : String) (loc : Location) :
    Except ResolveError Schema := do
  let target ← Reference.targetName root text loc
  return { ofNode name node with refName := some target, dependencies := .insert .empty target }

/-- The schema of an array component whose elements are references. -/
def referenceArraySchema (root : Json) (name : String) (node : Json) (loc : Location) :
    Except ResolveError Schema := do
  let target ← chainTarget root node loc
  return { ofNode name node with dependencies := NameSet.empty.insert? target }

/-- The place of a component. -/
def componentLocation (name : String) : Location := "components.schemas." ++ name

/-- An array component: its innermost element takes the component's name. -/
def arrayEntries (root : Json) (types : TypeTable) (name : String) (node : Json) : List Entry :=
  let loc := componentLocation name
  match innermost node loc with
  | .error e => [⟨name, loc, .error e⟩]
  | .ok (element, layers, inner) =>
    if (Reference.ofNode? element).isSome then [⟨name, loc, referenceArraySchema root name node loc⟩]
    else match typeToken root types element name 0 inner with
      | .error e => [⟨name, loc, .error e⟩]
      | .ok _ => objectEntries root types name element layers inner

/-- A component and the objects inside it, in preorder. -/
def componentEntries (root : Json) (types : TypeTable) (name : String) (node : Json) : List Entry :=
  let loc := componentLocation name
  if !node.isObj then [⟨name, loc, .error (.malformedSpec loc "schema must be a mapping")⟩]
  else match Reference.ofNode? node with
    | some text => [⟨name, loc, aliasSchema root name node text loc⟩]
    | none =>
      if isPrimitive node then [⟨name, loc, .ok (ofNode name node)⟩]
      else match node.getStr? "type" with
        | some "array" => arrayEntries root types name node
        | some "object" => objectEntries root types name node 0 loc
        | _ => [⟨name, loc, (typeToken root types node "" 0 loc).map fun _ => ofNode name node⟩]

/-- Registers entries in order, up to the first that is at fault or whose name is taken. -/
def register (schemas : SortedMap Schema) : List Entry → SortedMap Schema × Except ResolveError Unit
  | [] => (schemas, .ok ())
  | e :: rest =>
    match e.schema with
    | .error err => (schemas, .error err)
    | .ok schema =>
      if schemas.contains e.name then (schemas, .error (.duplicateSchema e.name e.location))
      else register (schemas.insert e.name schema) rest

/-- Registers a component and the objects inside it. -/
def addComponent (root : Json) (types : TypeTable) (schemas : SortedMap Schema) (name : String)
    (node : Json) : SortedMap Schema × Except ResolveError Unit :=
  register schemas (componentEntries root types name node)

/-- The schemas of all components. -/
def flatten (root : Json) (types : TypeTable) (components : Members) :
    Except ResolveError (SortedMap Schema) :=
  components.foldlM (fun schemas (name, node) =>
    match addComponent root types schemas name node with
    | (schemas, .ok ()) => .ok schemas
    | (_, .error e) => .error e) .empty

end ApiScaffold.Schema
