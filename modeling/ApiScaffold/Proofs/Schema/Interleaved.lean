/-
Registering one component step by step. An object is read and registered before anything that is written inside its
properties is read, and the first failure ends the walk. The list of entries that `addComponent` registers is made
beforehand, which no outcome shows (`addComponent_eq_walkComponent`).
-/
import ApiScaffold.Proofs.Schema.Registry

namespace ApiScaffold.Schema

/-! ## Steps -/

/-- What a step leaves: the schemas registered so far, and whether it failed. -/
abbrev Outcome := SortedMap Schema × Except ResolveError Unit

/-- Takes the next step from what a step has registered, unless that step failed. -/
def Outcome.andThen (done : Outcome) (next : SortedMap Schema → Outcome) : Outcome :=
  match done with
  | (schemas, .ok ()) => next schemas
  | (schemas, .error err) => (schemas, .error err)

theorem Outcome.andThen_ok (schemas : SortedMap Schema) (next : SortedMap Schema → Outcome) :
    andThen (schemas, .ok ()) next = next schemas := rfl

/-- Registers one schema, unless there is none or its name is taken. -/
def registerOne (schemas : SortedMap Schema) (name : String) (loc : Location) (schema : Except ResolveError Schema) :
    Outcome :=
  match schema with
  | .error err => (schemas, .error err)
  | .ok schema =>
    if schemas.contains name then (schemas, .error (.duplicateSchema name loc))
    else (schemas.insert name schema, .ok ())

theorem register_cons_eq (schemas : SortedMap Schema) (e : Entry) (es : List Entry) :
    register schemas (e :: es) =
      (registerOne schemas e.name e.location e.schema).andThen fun schemas => register schemas es := by
  unfold registerOne
  rw [register]
  rcases e.schema with err | schema
  · rfl
  simp only
  split <;> rfl

theorem register_singleton (schemas : SortedMap Schema) (e : Entry) :
    register schemas [e] = registerOne schemas e.name e.location e.schema := by
  rw [register_cons_eq]
  rcases registerOne schemas e.name e.location e.schema with ⟨after, err | ⟨⟩⟩ <;> rfl

theorem register_append (schemas : SortedMap Schema) (first rest : List Entry) :
    register schemas (first ++ rest) = Outcome.andThen (register schemas first) fun schemas => register schemas rest := by
  induction first generalizing schemas with
  | nil => rfl
  | cons e es ih =>
    rw [List.cons_append, register_cons_eq, register_cons_eq]
    rcases registerOne schemas e.name e.location e.schema with ⟨after, err | ⟨⟩⟩
    · rfl
    · exact ih after

/-! ## The walk -/

section

variable (root : Json) (types : TypeTable)

/-- Registers an object, then what is written inside its properties, one after the other. -/
def walkObject (schemas : SortedMap Schema) (name : String) (node : Json) (layers : Nat) (loc : Location) : Outcome :=
  (inlineObjects name node layers loc).attach.foldl
    (fun done i => done.andThen fun schemas =>
      walkObject schemas i.1.name i.1.node i.1.layers i.1.location)
    (registerOne schemas name loc (objectSchema root types name node layers loc))
termination_by sizeOf node
decreasing_by exact sizeOf_inlineObjects_lt i.2

/-- Registers an array component: its innermost element takes the component's name. -/
def walkArray (schemas : SortedMap Schema) (name : String) (node : Json) : Outcome :=
  let loc := componentLocation name
  match innermost node loc with
  | .error err => (schemas, .error err)
  | .ok (element, layers, inner) =>
    if (Reference.ofNode? element).isSome then
      registerOne schemas name loc (referenceArraySchema root name node loc)
    else match typeToken root types element name 0 inner with
      | .error err => (schemas, .error err)
      | .ok _ => walkObject root types schemas name element layers inner

/-- Registers a component and what is written inside it. -/
def walkComponent (schemas : SortedMap Schema) (name : String) (node : Json) : Outcome :=
  let loc := componentLocation name
  if !node.isObj then (schemas, .error (.malformedSpec loc "schema must be a mapping"))
  else match Reference.ofNode? node with
    | some text => registerOne schemas name loc (aliasSchema root name node text loc)
    | none =>
      if isPrimitive node then registerOne schemas name loc (.ok (ofNode name node))
      else match node.getStr? "type" with
        | some "array" => walkArray root types schemas name node
        | some "object" => walkObject root types schemas name node 0 loc
        | _ => match typeToken root types node "" 0 loc with
          | .error err => (schemas, .error err)
          | .ok _ => registerOne schemas name loc (.ok (ofNode name node))

end

variable {root : Json} {types : TypeTable}

theorem walkObject_eq (schemas : SortedMap Schema) (name : String) (node : Json) (layers : Nat) (loc : Location) :
    walkObject root types schemas name node layers loc =
      (inlineObjects name node layers loc).foldl
        (fun done i => done.andThen fun schemas => walkObject root types schemas i.name i.node i.layers i.location)
        (registerOne schemas name loc (objectSchema root types name node layers loc)) := by
  rw [walkObject]
  simp only [List.foldl_subtype, List.unattach_attach]

/-- Registering what comes of each item of a list, one item after the other. -/
theorem foldl_register {α : Type} {entries : α → List Entry} {walk : SortedMap Schema → α → Outcome} {items : List α}
    (h : ∀ i ∈ items, ∀ schemas, walk schemas i = register schemas (entries i)) (done : Outcome) :
    items.foldl (fun done i => done.andThen fun schemas => walk schemas i) done =
      done.andThen fun schemas => register schemas (items.flatMap entries) := by
  induction items generalizing done with
  | nil => rcases done with ⟨schemas, err | ⟨⟩⟩ <;> rfl
  | cons i items ih =>
    rw [List.foldl_cons, ih fun j hj => h j (List.mem_cons_of_mem _ hj)]
    rcases done with ⟨schemas, err | ⟨⟩⟩
    · rfl
    · rw [Outcome.andThen_ok, Outcome.andThen_ok, h i List.mem_cons_self, List.flatMap_cons, register_append]

/-- Walking an object registers its entries. The induction is on the objects inside it, each from whatever the walk
has registered when it comes to it. -/
theorem walkObject_eq_register (schemas : SortedMap Schema) (name : String) (node : Json) (layers : Nat)
    (loc : Location) : walkObject root types schemas name node layers loc =
      register schemas (objectEntries root types name node layers loc) := by
  induction name, node, layers, loc using objectEntries.induct generalizing schemas with
  | case1 name node layers loc ih =>
    rw [walkObject_eq, objectEntries_eq, register_cons_eq]
    exact foldl_register (fun i hi schemas => ih i hi schemas) _

theorem walkArray_eq_register (schemas : SortedMap Schema) (name : String) (node : Json) :
    walkArray root types schemas name node = register schemas (arrayEntries root types name node) := by
  unfold walkArray arrayEntries
  rcases hinner : innermost node (componentLocation name) with err | ⟨element, layers, inner⟩
  · simp only [hinner]
    rfl
  simp only [hinner]
  by_cases reference : (Reference.ofNode? element).isSome = true
  · rw [if_pos reference, if_pos reference, register_singleton]
  rw [if_neg reference, if_neg reference]
  rcases typeToken root types element name 0 inner with err | token
  · rfl
  · exact walkObject_eq_register ..

/-- Registering the entries of a component is walking it: an object before what is written inside its properties, up to
the first failure. -/
theorem addComponent_eq_walkComponent (root : Json) (types : TypeTable) (schemas : SortedMap Schema) (name : String)
    (node : Json) : addComponent root types schemas name node = walkComponent root types schemas name node := by
  unfold addComponent walkComponent componentEntries
  by_cases mapping : (!node.isObj) = true
  · simp only [if_pos mapping]
    rfl
  simp only [if_neg mapping]
  rcases Reference.ofNode? node with _ | text
  swap
  · exact register_singleton ..
  by_cases primitive : isPrimitive node = true
  · simp only [if_pos primitive]
    exact register_singleton ..
  simp only [if_neg primitive]
  by_cases array : node.getStr? "type" = some "array"
  · simp only [array]
    exact (walkArray_eq_register ..).symm
  by_cases object : node.getStr? "type" = some "object"
  · simp only [object]
    exact (walkObject_eq_register ..).symm
  -- any other type, or none: both sides take their last branch
  simp only
  rw [register_singleton]
  rcases typeToken root types node "" 0 (componentLocation name) with err | token <;> rfl

end ApiScaffold.Schema
