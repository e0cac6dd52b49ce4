/-
No reference of a schema dangles, as far as schemas are read. `Document.Reached` says how far that is: down the items
of arrays, and into the properties and additional properties of objects that get a schema of their own. An object among
additional properties or in the contents of an operation gets none and is not looked into, and neither is what stands
beside a reference. Every reference that is reached has its target in the document (`reached_resolves`).
-/
import ApiScaffold.Proofs.Api.Declared
import ApiScaffold.Proofs.Api.References
import ApiScaffold.Proofs.Schema.Token

namespace ApiScaffold

/-- A text that is a reference, with its target in the document. -/
def Reference.Resolves (root : Json) (text : String) : Prop := ∃ r v, parse text = some r ∧ r.find? root = some v

theorem Reference.resolves_iff {root : Json} {text : String} :
    Resolves root text ↔ ((parse text).bind (·.find? root)).isSome = true := by
  unfold Resolves
  rw [Option.isSome_iff_exists, exists_comm]
  simp only [Option.bind_eq_some_iff]

/-! ## What is reached -/

namespace Schema

/-- The part a node plays where it is read. -/
inductive Role where
  /-- A component. -/
  | component
  /-- An item on the way down an array component. -/
  | element
  /-- A property of an object that has a schema, or an item on the way down from it. -/
  | property
  /-- A node that is given a type and nothing else, or an item on the way down from it. -/
  | value
  deriving DecidableEq

/-- The part that the items of an array play. -/
def Role.items : Role → Role
  | .component => .element
  | role => role

end Schema

/-- Some operation reads the schema. -/
def Document.Reads (doc : Document) (node : Json) : Prop :=
  ∃ url item method declared, (url, .obj item) ∈ doc.paths ∧
    Members.get? item (HttpMethod.key method) = some (.obj declared) ∧ Operation.SchemaOf doc.root item declared node

/-- The nodes of schemas that are reached, each in its part. A reference has no items and no properties. -/
inductive Document.Reached (doc : Document) : Schema.Role → Json → Prop
  | component {name : String} {node : Json} (mem : (name, node) ∈ doc.components) : Reached doc .component node
  | operation {node : Json} (reads : doc.Reads node) : Reached doc .value node
  | items {role : Schema.Role} {node next : Json} (outer : Reached doc role node)
      (written : Reference.ofNode? node = none) (array : node.getStr? "type" = some "array")
      (items : node.get? "items" = some next) : Reached doc role.items next
  | property {role : Schema.Role} {node n : Json} {property : String} (outer : Reached doc role node)
      (named : role ≠ .value) (written : Reference.ofNode? node = none) (object : node.getStr? "type" = some "object")
      (mem : (property, n) ∈ Schema.propertyNodes node) : Reached doc .property n
  | additional {role : Schema.Role} {node : Json} {ms : Members} (outer : Reached doc role node)
      (named : role ≠ .value) (written : Reference.ofNode? node = none) (object : node.getStr? "type" = some "object")
      (described : node.get? "additionalProperties" = some (.obj ms)) : Reached doc .value (.obj ms)

namespace Schema

/-! ## Walks that succeed -/

section

variable {root node next element : Json} {text : String}

theorem ItemsTo.snoc {layers : Nat} (chain : ItemsTo node element layers) (written : Reference.ofNode? element = none)
    (array : element.getStr? "type" = some "array") (items : element.get? "items" = some next) :
    ItemsTo node next (layers + 1) := by
  induction chain with
  | here node => exact .items written array items (.here next)
  | items written' array' items' _ ih => exact .items written' array' items' (ih written array items)

/-- A chain that ends in no array is all the arrays that there are. -/
theorem ItemsTo.arrayEnd {layers : Nat} (chain : ItemsTo node element layers)
    (stops : element.getStr? "type" ≠ some "array") : ArrayEnd node element layers := by
  induction chain with
  | here node => exact .here stops
  | items _ array items _ ih => exact .items array items (ih stops)

theorem resolves_of_targetName {loc : Location} {name : String} (h : Reference.targetName root text loc = .ok name) :
    Reference.Resolves root text := by
  obtain ⟨r, v, hparse, hfind, -⟩ := Reference.targetName_ok.1 h
  exact ⟨r, v, hparse, hfind⟩

theorem chainTarget_resolves {loc : Location} {target : Option String} (h : chainTarget root node loc = .ok target)
    (refers : Refers node text) : Reference.Resolves root text := by
  rcases chainTarget_cases root node loc with ⟨text', only, heq⟩ | ⟨never, -⟩
  · obtain rfl := (only text).1 refers
    obtain ⟨name, hname, -⟩ := except_map_ok (heq ▸ h)
    exact resolves_of_targetName hname
  · exact absurd refers (never text)

/-- What has a type refers to something that is there. -/
theorem typeToken_resolves {types : TypeTable} {hint token : String} {depth : Nat} {loc : Location}
    (h : typeToken root types node hint depth loc = .ok token) (refers : Refers node text) :
    Reference.Resolves root text := by
  obtain ⟨leaf, layers, ends⟩ := exists_endsIn node
  have hspelled : Spelled root types hint node leaf layers depth loc _ := spelled_of_endsIn ends depth loc
  have written := (refers_of_endsIn ends).1 refers
  rw [h] at hspelled
  cases hspelled with
  | token found =>
    cases found with
    | @reference text' r v written' parsed found =>
      obtain rfl : text' = text := Option.some.inj (written'.symm.trans written)
      exact ⟨r, v, parsed, found⟩
    | hinted unwritten => rw [unwritten] at written; cases written
    | free unwritten => rw [unwritten] at written; cases written
    | scalar unwritten => rw [unwritten] at written; cases written

end

/-! ## What each part comes to -/

/-- What is known of a node in its part: where the chain of arrays starts that leads to it. -/
def Role.Stands (role : Role) (doc : Document) (types : TypeTable) (node : Json) : Prop :=
  match role with
  | .component => ∃ name, (name, node) ∈ doc.components
  | .element => ∃ name outer layers, (name, outer) ∈ doc.components ∧ ItemsTo outer node (layers + 1)
  | .property => ∃ owner object layers property n inner, ObjectNode doc.components owner object layers ∧
      (property, n) ∈ propertyNodes object ∧ ItemsTo n node inner
  | .value => ∃ outer loc token layers, typeToken doc.root types outer "" 0 loc = .ok token ∧ ItemsTo outer node layers

section

variable {doc : Document} {types : TypeTable} {role : Role} {node next : Json}

theorem Role.Stands.items (h : role.Stands doc types node) (written : Reference.ofNode? node = none)
    (array : node.getStr? "type" = some "array") (items : node.get? "items" = some next) :
    role.items.Stands doc types next := by
  cases role with
  | component =>
    obtain ⟨name, mem⟩ := h
    exact ⟨name, node, 0, mem, .items written array items (.here next)⟩
  | element =>
    obtain ⟨name, outer, layers, mem, chain⟩ := h
    exact ⟨name, outer, layers + 1, mem, chain.snoc written array items⟩
  | property =>
    obtain ⟨owner, object, layers, property, n, inner, hobject, mem, chain⟩ := h
    exact ⟨owner, object, layers, property, n, inner + 1, hobject, mem, chain.snoc written array items⟩
  | value =>
    obtain ⟨outer, loc, token, layers, htoken, chain⟩ := h
    exact ⟨outer, loc, token, layers + 1, htoken, chain.snoc written array items⟩

/-- An object that is not only given a type has a schema. -/
theorem Role.Stands.objectNode (h : role.Stands doc types node) (named : role ≠ .value)
    (written : Reference.ofNode? node = none) (object : node.getStr? "type" = some "object") :
    ∃ name layers, ObjectNode doc.components name node layers := by
  have stops : node.getStr? "type" ≠ some "array" := by rw [object]; decide
  cases role with
  | component =>
    obtain ⟨name, mem⟩ := h
    exact ⟨name, 0, .component mem written object⟩
  | element =>
    obtain ⟨name, outer, layers, mem, chain⟩ := h
    have compound : isPrimitive outer = false := by
      rw [← Bool.not_eq_true]
      intro primitive
      obtain ⟨-, type, hprimitive, htype⟩ := itemsTo_of_isPrimitive primitive (chain.arrayEnd stops)
      rw [object] at htype
      cases htype
      exact absurd hprimitive (by decide)
    have ends := chain.arrayEnd stops
    cases chain with
    | items written' array items rest => exact ⟨name, _, .element mem written' array compound ends written⟩
  | property =>
    obtain ⟨owner, outer, layers, property, n, inner, hobject, mem, chain⟩ := h
    exact ⟨_, _, hobject.inline mem ⟨chain, written, object⟩⟩
  | value => exact absurd rfl named

variable {schemas : SortedMap Schema} {text : String}

/-- Additional properties of an object that has a schema are given a type. -/
theorem typeToken_additional {name : String} {layers : Nat} {ms : Members}
    (h : flatten doc.root types doc.components = .ok schemas) (object : ObjectNode doc.components name node layers)
    (described : node.get? "additionalProperties" = some (.obj ms)) :
    ∃ loc token, typeToken doc.root types (.obj ms) "" 0 loc = .ok token := by
  obtain ⟨loc, s, -, hs⟩ := get?_objectNode h object
  obtain ⟨read, additional, target, -, hadditional, -⟩ := objectSchema_parts hs
  unfold readAdditional at hadditional
  simp only [described] at hadditional
  obtain ⟨token, htoken, -⟩ := except_bind_ok hadditional
  exact ⟨_, token, htoken⟩

/-- No entry of a component is at fault. -/
theorem schema_of_componentEntries {name : String} {e : Entry}
    (h : flatten doc.root types doc.components = .ok schemas) (mem : (name, node) ∈ doc.components)
    (he : e ∈ componentEntries doc.root types name node) : ∃ s, e.schema = .ok s := by
  obtain ⟨s, hs, -⟩ := (flatten_registered h).entry e (List.mem_flatMap.2 ⟨_, mem, he⟩)
  exact ⟨s, hs⟩

/-- A component that is a reference was followed. -/
theorem component_resolves {name : String} (h : flatten doc.root types doc.components = .ok schemas)
    (mem : (name, node) ∈ doc.components) (written : Reference.ofNode? node = some text) :
    Reference.Resolves doc.root text := by
  have hentries : componentEntries doc.root types name node = _ := componentEntries_alias written
  obtain ⟨s, hs⟩ := schema_of_componentEntries h mem (hentries ▸ List.mem_singleton_self _)
  obtain ⟨target, htarget, -⟩ := except_bind_ok hs
  exact resolves_of_targetName htarget

/-- A reference at the end of an array component was followed. -/
theorem element_resolves {name : String} {layers : Nat} (h : flatten doc.root types doc.components = .ok schemas)
    (mem : (name, node) ∈ doc.components) (chain : ItemsTo node next (layers + 1))
    (stops : next.getStr? "type" ≠ some "array") (written : Reference.ofNode? next = some text) :
    Reference.Resolves doc.root text := by
  have refers : Refers node text := ⟨next, _, chain, written⟩
  obtain ⟨inner, hinner⟩ := innermost_of_arrayEnd (chain.arrayEnd stops) (componentLocation name)
  have compound : isPrimitive node = false := by
    rw [← Bool.not_eq_true]
    exact fun primitive => not_refers_of_isPrimitive primitive refers
  cases chain with
  | items written' array items rest =>
    have hentries : componentEntries doc.root types name node = _ := componentEntries_array written' array compound
    rw [arrayEntries_references hinner written] at hentries
    obtain ⟨s, hs⟩ := schema_of_componentEntries h mem (hentries ▸ List.mem_singleton_self _)
    obtain ⟨target, htarget, -⟩ := except_bind_ok hs
    exact chainTarget_resolves htarget refers

/-- A reference that stands in some part was followed, but for one among the items of an array component that is typed
as an array as well. -/
theorem Role.Stands.resolves (h : flatten doc.root types doc.components = .ok schemas)
    (stands : role.Stands doc types node) (written : Reference.ofNode? node = some text)
    (single : role = .element → node.getStr? "type" ≠ some "array") : Reference.Resolves doc.root text := by
  cases role with
  | component =>
    obtain ⟨name, mem⟩ := stands
    exact component_resolves h mem written
  | element =>
    obtain ⟨name, outer, layers, mem, chain⟩ := stands
    exact element_resolves h mem chain (single rfl) written
  | property =>
    obtain ⟨owner, object, layers, property, n, inner, hobject, mem, chain⟩ := stands
    obtain ⟨loc, s, -, hs⟩ := get?_objectNode h hobject
    obtain ⟨read, additional, target, hread, -⟩ := objectSchema_parts hs
    obtain ⟨p, -, hp⟩ := except_mapM_exists hread mem
    obtain ⟨token, htoken, -⟩ := except_bind_ok hp
    exact typeToken_resolves htoken ⟨node, _, chain, written⟩
  | value =>
    obtain ⟨outer, loc, token, layers, htoken, chain⟩ := stands
    exact typeToken_resolves htoken ⟨node, layers, chain, written⟩

end

end Schema

namespace Api

/-! ## No reference dangles -/

section

variable {doc : Document} {types : TypeTable} {api : Api} (h : ofDocument doc types = .ok api)

include h

theorem stands_of_reached {role : Schema.Role} {node : Json} (reached : doc.Reached role node) :
    role.Stands doc types node := by
  have hschemas : Schema.flatten doc.root types doc.components = .ok api.schemas := (ofDocument_ok h).1
  induction reached with
  | component mem => exact ⟨_, mem⟩
  | @operation node reads =>
    obtain ⟨url, item, method, declared, hmem, given, hschema⟩ := reads
    obtain ⟨op, -, hbuilt⟩ := (ofDocument_builds h).built hmem given
    obtain ⟨loc, token, htoken⟩ := hbuilt.typed hschema
    exact ⟨node, loc, token, 0, htoken, .here node⟩
  | items outer written array items ih => exact ih.items written array items
  | @property role node n property outer named written object mem ih =>
    obtain ⟨name, layers, hobject⟩ := ih.objectNode named written object
    exact ⟨name, node, layers, property, n, 0, hobject, mem, .here n⟩
  | @additional role node ms outer named written object described ih =>
    obtain ⟨name, layers, hobject⟩ := ih.objectNode named written object
    obtain ⟨loc, token, htoken⟩ := Schema.typeToken_additional hschemas hobject described
    exact ⟨.obj ms, loc, token, 0, htoken, .here _⟩

end

/-- Every reference that is reached in a document that was resolved has its target in the document. Of the items of an
array component, one that is a reference and typed as an array as well is left aside. -/
theorem reached_resolves {doc : Document} {types : TypeTable} {api : Api} (h : ofDocument doc types = .ok api)
    {role : Schema.Role} {node : Json} {text : String} (reached : doc.Reached role node)
    (written : Reference.ofNode? node = some text)
    (single : role = .element → node.getStr? "type" ≠ some "array") : Reference.Resolves doc.root text :=
  (stands_of_reached h reached).resolves (ofDocument_ok h).1 written single

/-- The pets that a response lists are reached, and so is the owner of a pet. -/
theorem reached_resolves_pets : ∃ api, ofDocument pets plainTypes = .ok api ∧
    Reference.Resolves pets.root "#/components/schemas/Pet" ∧
    Reference.Resolves pets.root "#/components/schemas/Owner" := by
  obtain ⟨api, hapi⟩ := except_isOk (x := ofDocument pets plainTypes) (by decide +kernel)
  have hreads : pets.Reads (.obj [("type", .str "array"), ("items", refTo "#/components/schemas/Pet")]) := by
    refine ⟨"/pets", _, .get, _, .head _, rfl, ?_⟩
    apply Operation.SchemaOf.content
    case written =>
      exact ⟨refTo "#/components/responses/Pets", .response rfl (.head _), _, _, .hop rfl rfl rfl, rfl, .head _⟩
    case schema => rfl
  have hcomponent : ∀ name node, Members.get? pets.components name = some node → pets.Reached .component node :=
    fun _ _ hget => .component (Members.mem_of_get? hget)
  have hpet : pets.Reached .value (refTo "#/components/schemas/Pet") := .items (.operation hreads) rfl rfl rfl
  have howner : pets.Reached .property (refTo "#/components/schemas/Owner") :=
    .property (hcomponent "Pet" _ rfl) (by decide) rfl rfl (.head _)
  exact ⟨api, hapi, reached_resolves hapi hpet rfl (by decide), reached_resolves hapi howner rfl (by decide)⟩

/-! ## Out of reach -/

end Api

/-- The nodes below a schema, by way of properties, items and additional properties. -/
inductive Schema.Below (top : Json) : Json → Prop
  | here : Below top top
  | property {node n : Json} {property : String} (outer : Below top node) (mem : (property, n) ∈ propertyNodes node) :
      Below top n
  | items {node next : Json} (outer : Below top node) (items : node.get? "items" = some next) : Below top next
  | additional {node next : Json} (outer : Below top node) (described : node.get? "additionalProperties" = some next) :
      Below top next

/-- The schema of a component or of an operation has a reference with this text somewhere below. -/
def Document.Mentions (doc : Document) (text : String) : Prop :=
  ∃ top node, ((∃ name, (name, top) ∈ doc.components) ∨ doc.Reads top) ∧ Schema.Below top node ∧
    Reference.ofNode? node = some text

namespace Api

/-- A document with references that lead nowhere: in an object inside a response, in an object among additional
properties, beside another reference, among the items of what is no array, and among the properties of what is no
object. -/
def loose : Document where
  root :=
    let within (text : String) : Json := .obj [("type", .str "object"), ("properties", .obj [("x", refTo text)])]
    .obj [
      ("openapi", .str "3.0.0"),
      ("paths", .obj [("/a", .obj [("get", .obj [("responses", .obj [("200", .obj [
        ("content", .obj [("application/json", .obj [("schema", within "#/components/schemas/A")])])])])])])]),
      ("components", .obj [("schemas", .obj [
        ("Map", .obj [("type", .str "object"), ("additionalProperties", within "#/components/schemas/B")]),
        ("Other", .obj [("$ref", .str "#/components/schemas/Map"), ("properties", .obj [
          ("x", refTo "#/components/schemas/C")])]),
        ("Text", .obj [("type", .str "string"), ("items", refTo "#/components/schemas/D")]),
        ("Word", .obj [("type", .str "string"), ("properties", .obj [("x", refTo "#/components/schemas/E")])])])])]

/-- A document is resolved although references in it lead nowhere. -/
theorem dangling_out_of_reach : ∃ api, ofDocument loose plainTypes = .ok api ∧
    ∀ text ∈ ["#/components/schemas/A", "#/components/schemas/B", "#/components/schemas/C", "#/components/schemas/D",
      "#/components/schemas/E"], loose.Mentions text ∧ ¬ Reference.Resolves loose.root text := by
  obtain ⟨api, hapi⟩ := except_isOk (x := ofDocument loose plainTypes) (by decide +kernel)
  refine ⟨api, hapi, ?_⟩
  have hin : ∀ name top, Members.get? loose.components name = some top →
      (∃ name, (name, top) ∈ loose.components) ∨ loose.Reads top := fun _ _ hget => .inl ⟨_, Members.mem_of_get? hget⟩
  have hcontent : loose.Reads (.obj [("type", .str "object"), ("properties", .obj [
      ("x", refTo "#/components/schemas/A")])]) := by
    refine ⟨"/a", _, .get, _, .head _, rfl, ?_⟩
    apply Operation.SchemaOf.content
    case written => exact ⟨_, .response rfl (.head _), _, _, .inline rfl, rfl, .head _⟩
    case schema => rfl
  intro text htext
  constructor
  · simp only [List.mem_cons, List.not_mem_nil, or_false] at htext
    obtain rfl | rfl | rfl | rfl | rfl := htext
    · exact ⟨_, refTo _, .inr hcontent, .property .here (.head _), rfl⟩
    · exact ⟨_, refTo _, hin "Map" _ rfl, .property (.additional .here rfl) (.head _), rfl⟩
    · exact ⟨_, refTo _, hin "Other" _ rfl, .property .here (.head _), rfl⟩
    · exact ⟨_, refTo _, hin "Text" _ rfl, .items .here rfl, rfl⟩
    · exact ⟨_, refTo _, hin "Word" _ rfl, .property .here (.head _), rfl⟩
  · rw [Reference.resolves_iff]
    revert text
    decide +kernel

end Api

end ApiScaffold
