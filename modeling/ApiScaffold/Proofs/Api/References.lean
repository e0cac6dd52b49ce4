/-
The references of a document and the names in its description. `Follows` gives the references that make a schema or
an operation depend on their target; the dependencies of a description are exactly the targets of these and the
objects written inside others. A reference may lead anywhere in the document, and only what it finds among the
component schemas is a schema for sure, so a dependency dangles exactly if a reference that is followed leads
elsewhere and no schema happens to have its name.
-/
import ApiScaffold.Proofs.Api.Operations
import ApiScaffold.Proofs.Schema.Dependency

namespace ApiScaffold

namespace Document

/-- The component schemas in declared order, none if the document has none. -/
def components (doc : Document) : Members := doc.schemas?.getD []

/-- The references that make a schema or an operation depend on their target. -/
inductive Follows (doc : Document) : Reference → Prop
  | schema {r : Reference} (points : Schema.SchemasPointTo doc.components r) : Follows doc r
  | operation {url : String} {method : HttpMethod} {declared : Members} {r : Reference}
      (declares : Api.Declares doc.paths url method declared)
      (points : Operation.OperationPointsTo doc.root (Members.distinct declared) r) : Follows doc r

end Document

/-- A reference into the component schemas. -/
def Reference.ToSchema (r : Reference) : Prop := r.part = "components" ∧ r.group = "schemas"

theorem Json.obj_of_get? {j v : Json} {key : String} (h : j.get? key = some v) : ∃ ms, j = .obj ms := by
  cases j with
  | obj ms => exact ⟨ms, rfl⟩
  | _ => cases h

/-- What a reference into the component schemas finds is one of them. -/
theorem Reference.ToSchema.mem {r : Reference} (h : r.ToSchema) {doc : Document} {v : Json}
    (found : r.find? doc.root = some v) : (r.name, v) ∈ doc.components := by
  unfold find? at found
  rw [h.1, h.2] at found
  obtain ⟨schemas, hschemas, found⟩ := Option.bind_eq_some_iff.1 found
  obtain ⟨ms, rfl⟩ := Json.obj_of_get? found
  unfold Document.components Document.schemas? Document.at?
  rw [hschemas]
  obtain ⟨before, after, hms, -⟩ := List.lookup_eq_some_iff.1 found
  change (r.name, v) ∈ ms
  rw [hms]
  exact List.mem_append_right _ (List.mem_cons_self ..)

namespace Api

section

variable {doc : Document} {types : TypeTable} {api : Api} (h : ofDocument doc types = .ok api)

include h

theorem follows_found {r : Reference} (hr : doc.Follows r) : ∃ v, r.find? doc.root = some v := by
  obtain ⟨hschemas, hcovers⟩ := ofDocument_ok h
  cases hr with
  | schema points => exact Schema.schemasPointTo_found hschemas points
  | operation declares points =>
    obtain ⟨op, -, hfrom⟩ := hcovers.covered declares
    exact hfrom.dependencies.found points

theorem contains_of_toSchema {r : Reference} (hr : doc.Follows r) (hto : r.ToSchema) :
    api.schemas.contains r.name = true := by
  obtain ⟨v, found⟩ := follows_found h hr
  exact Schema.contains_component (ofDocument_ok h).1 (hto.mem found)

/-- The dependencies that dangle are the targets of references that are no schemas. -/
theorem mem_danglingDependencies (d : String) :
    d ∈ api.danglingDependencies ↔ api.schemas.contains d = false ∧ ∃ r, doc.Follows r ∧ r.name = d := by
  obtain ⟨hschemas, hcovers⟩ := ofDocument_ok h
  have hdeps : (∃ s ∈ api.schemas.values, d ∈ s.dependencies) ∨ (∃ op ∈ api.operations, d ∈ op.dependencies) ↔
      (∃ r, doc.Follows r ∧ r.name = d) ∨
        ∃ name node layers, Schema.ObjectNode doc.components name node layers ∧ Schema.Promotes name layers node d := by
    rw [Schema.mem_schema_dependencies hschemas]
    constructor
    · rintro ((⟨r, points, hd⟩ | hinline) | ⟨op, hop, hd⟩)
      · exact .inl ⟨r, .schema points, hd⟩
      · exact .inr hinline
      · obtain ⟨url, method, declared, declares, hfrom⟩ := hcovers.declared op hop
        rcases (hfrom.dependencies.mem d).1 hd with hnone | ⟨r, points, hd⟩
        · exact absurd hnone NameSet.not_mem_empty
        · exact .inl ⟨r, .operation declares points, hd⟩
    · rintro (⟨r, hr, hd⟩ | hinline)
      · cases hr with
        | schema points => exact .inl (.inl ⟨r, points, hd⟩)
        | operation declares points =>
          obtain ⟨op, hop, hfrom⟩ := hcovers.covered declares
          exact .inr ⟨op, hop, (hfrom.dependencies.mem d).2 (.inr ⟨r, points, hd⟩)⟩
      · exact .inl (.inr hinline)
  have hmem : d ∈ api.danglingDependencies ↔ ((∃ s ∈ api.schemas.values, d ∈ s.dependencies) ∨
      ∃ op ∈ api.operations, d ∈ op.dependencies) ∧ api.schemas.contains d = false := by
    unfold danglingDependencies
    rw [NameSet.mem_ofList, List.mem_filter, List.mem_append, List.mem_flatMap, List.mem_flatMap,
      Bool.not_eq_true']
    rfl
  rw [hmem, hdeps, and_comm]
  refine and_congr_right fun hfree => or_iff_left ?_
  -- the objects written inside others have schemas
  rintro ⟨name, node, layers, object, promotes⟩
  rw [Schema.contains_promotes hschemas object promotes] at hfree
  cases hfree

end

/-- No dependency dangles exactly if every reference that is followed leads to a component schema, or to something
else under the name of a schema. -/
theorem no_dangling_iff {doc : Document} {types : TypeTable} {api : Api} (h : ofDocument doc types = .ok api) :
    api.danglingDependencies = ∅ ↔ ∀ r, doc.Follows r → r.ToSchema ∨ api.schemas.contains r.name = true := by
  rw [NameSet.eq_empty_iff]
  simp only [mem_danglingDependencies h, not_and, not_exists]
  constructor
  · intro hnone r hr
    by_contra hout
    rw [not_or, Bool.not_eq_true] at hout
    exact hnone r.name hout.2 r hr rfl
  · rintro hin _ hfree r hr rfl
    rcases hin r hr with hto | hname
    · rw [contains_of_toSchema h hr hto] at hfree
      cases hfree
    · rw [hname] at hfree
      cases hfree

/-- A table with the words that the documents below need. -/
def plainTypes : TypeTable := ⟨[("object", "object"), ("string", "string"), ("array", "list"), ("<", "["), (">", "]")]⟩

/-- A reference as a node. -/
def refTo (text : String) : Json := .obj [("$ref", .str text)]

/-- A document of pets, with an object inside another, an array of references, an alias, and a response that is
declared elsewhere. -/
def pets : Document where
  root := .obj [
    ("openapi", .str "3.0.0"),
    ("paths", .obj [("/pets", .obj [("get", .obj [("responses", .obj [
      ("200", refTo "#/components/responses/Pets"),
      ("404", .obj [("content", .obj [("application/json", .obj [
        ("schema", refTo "#/components/schemas/Problem")])])])])])])]),
    ("components", .obj [
      ("schemas", .obj [
        ("Pet", .obj [("type", .str "object"), ("properties", .obj [
          ("owner", refTo "#/components/schemas/Owner"),
          ("home", .obj [("type", .str "object"), ("properties", .obj [
            ("street", .obj [("type", .str "string")])])])])]),
        ("Owner", .obj [("type", .str "object"), ("additionalProperties", refTo "#/components/schemas/Pet")]),
        ("Mascot", refTo "#/components/schemas/Pet"),
        ("Problem", .obj [("type", .str "object")])]),
      ("responses", .obj [("Pets", .obj [("content", .obj [("application/json", .obj [
        ("schema", .obj [("type", .str "array"), ("items", refTo "#/components/schemas/Pet")])])])])])])]

theorem no_dangling_iff_pets : ∃ api, ofDocument pets plainTypes = .ok api ∧ api.danglingDependencies = ∅ ∧
    ∀ r, pets.Follows r → r.ToSchema ∨ api.schemas.contains r.name = true := by
  have hnone : (ofDocument pets plainTypes).toOption.map danglingDependencies = some ∅ := by decide +kernel
  obtain ⟨api, hapi, hnone⟩ := except_toOption_map hnone
  exact ⟨api, hapi, hnone, (no_dangling_iff hapi).1 hnone⟩

/-- A document with a property that refers to a parameter. -/
def paged : Document where
  root := .obj [
    ("openapi", .str "3.0.0"),
    ("paths", .obj []),
    ("components", .obj [
      ("schemas", .obj [("Page", .obj [("type", .str "object"), ("properties", .obj [
        ("limit", refTo "#/components/parameters/Limit")])])]),
      ("parameters", .obj [("Limit", .obj [("name", .str "limit"), ("in", .str "query")])])])]

/-- A reference to a parameter is a dependency on a schema that does not exist. -/
theorem dangling_parameter : ¬ ∀ (doc : Document) (types : TypeTable) (api : Api), ofDocument doc types = .ok api →
    api.danglingDependencies = ∅ := by
  intro hall
  have hlimit : (ofDocument paged plainTypes).toOption.map danglingDependencies = some (.ofList ["Limit"]) := by
    decide +kernel
  obtain ⟨api, hapi, hlimit⟩ := except_toOption_map hlimit
  rw [hall paged plainTypes api hapi] at hlimit
  exact absurd hlimit (by decide)

/-! ## What is depended on -/

/-- The dependencies of a description are complete and exact. -/
structure Exact (doc : Document) (api : Api) : Prop where
  /-- Every component has a schema. -/
  component : ∀ {name node}, (name, node) ∈ doc.components → api.schemas.contains name = true
  /-- The schema of an object node depends on what the node refers to, and on the objects written inside it. -/
  object : ∀ {name node layers}, Schema.ObjectNode doc.components name node layers → ∃ s,
    api.schemas.get? name = some s ∧ ∀ d, d ∈ s.dependencies ↔
      (∃ r, Schema.ObjectPointsTo node r ∧ r.name = d) ∨ Schema.Promotes name layers node d
  /-- The objects written inside an object have schemas. -/
  inline : ∀ {name node layers child}, Schema.ObjectNode doc.components name node layers →
    Schema.Promotes name layers node child → api.schemas.contains child = true
  /-- A component that is a reference depends on its target. -/
  reference : ∀ {name node text}, (name, node) ∈ doc.components → Reference.ofNode? node = some text → ∃ s r,
    api.schemas.get? name = some s ∧ Reference.parse text = some r ∧ ∀ d, d ∈ s.dependencies ↔ d = r.name
  /-- A schema that is not that of an object node is that of its component, and depends on what that refers to. -/
  other : ∀ {name s}, api.schemas.get? name = some s →
    (∃ node layers, Schema.ObjectNode doc.components name node layers) ∨ ∃ node, (name, node) ∈ doc.components ∧
      ∀ d, d ∈ s.dependencies ↔ ∃ r, Schema.ComponentPointsTo node r ∧ r.name = d
  /-- An operation depends on what the contents of its body and responses refer to; of keys that are declared twice
  the last counts. -/
  operation : ∀ op ∈ api.operations, ∃ declared, Declares doc.paths op.url op.method declared ∧
    ∀ d, d ∈ op.dependencies ↔ ∃ r, Operation.OperationPointsTo doc.root (Members.distinct declared) r ∧ r.name = d
  /-- What is referred to among the component schemas is a schema. -/
  target : ∀ {r}, doc.Follows r → r.ToSchema → api.schemas.contains r.name = true

theorem dependencies_exact {doc : Document} {types : TypeTable} {api : Api} (h : ofDocument doc types = .ok api) :
    Exact doc api := by
  obtain ⟨hschemas, hcovers⟩ := ofDocument_ok h
  constructor
  case component => exact Schema.contains_component hschemas
  case object =>
    intro name node layers object
    obtain ⟨loc, s, hget, hs⟩ := Schema.get?_objectNode hschemas object
    exact ⟨s, hget, Schema.objectSchema_ok hs⟩
  case inline =>
    intro name node layers child object promotes
    exact Schema.contains_promotes hschemas object promotes
  case reference =>
    intro name node text mem written
    exact Schema.get?_reference hschemas mem written
  case other =>
    intro name s hget
    rcases Schema.schema_cases hschemas hget with ⟨node, layers, -, object, -⟩ | ⟨node, mem, hdeps⟩
    · exact .inl ⟨node, layers, object⟩
    · exact .inr ⟨node, mem, fun d => (hdeps.mem d).trans (or_iff_right NameSet.not_mem_empty)⟩
  case operation =>
    intro op hop
    obtain ⟨url, method, declared, declares, hfrom⟩ := hcovers.declared op hop
    refine ⟨declared, hfrom.url ▸ hfrom.method ▸ declares, fun d => ?_⟩
    exact (hfrom.dependencies.mem d).trans (or_iff_right NameSet.not_mem_empty)
  case target => exact contains_of_toSchema h

theorem dependencies_exact_pets : ∃ api, ofDocument pets plainTypes = .ok api ∧ Exact pets api ∧
    (api.schemas.get? "Pet").map (·.dependencies) = some (.ofList ["Owner", "PetHome"]) ∧
      api.operations.map (fun op => (op.url, op.dependencies)) = [("/pets", .ofList ["Pet", "Problem"])] := by
  have hdeps : (ofDocument pets plainTypes).toOption.map (fun api =>
      ((api.schemas.get? "Pet").map (·.dependencies), api.operations.map fun op => (op.url, op.dependencies))) =
        some (some (.ofList ["Owner", "PetHome"]), [("/pets", .ofList ["Pet", "Problem"])]) := by decide +kernel
  obtain ⟨api, hapi, hdeps⟩ := except_toOption_map hdeps
  obtain ⟨hpet, hlist⟩ := Prod.mk.inj hdeps
  exact ⟨api, hapi, dependencies_exact hapi, hpet, hlist⟩

end Api

end ApiScaffold
