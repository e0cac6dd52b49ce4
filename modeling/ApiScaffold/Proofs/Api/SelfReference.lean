/-
Schemas that depend on themselves. An object written inside another never has the name of its owner, because both are
registered and names are taken once only, so a schema depends on itself exactly if its node refers to its own name.
-/
import ApiScaffold.Proofs.Api.References
import ApiScaffold.Proofs.Schema.Flattening

namespace ApiScaffold

namespace Document

/-- The schema of a name refers to itself: a property or the additional properties of its object node, the component
itself, or the elements of the component lead to a reference with the same name at its end. -/
inductive RefersToItself (doc : Document) (name : String) : Prop
  | object {node : Json} {layers : Nat} {r : Reference} (object : Schema.ObjectNode doc.components name node layers)
      (points : Schema.ObjectPointsTo node r) (same : r.name = name) : RefersToItself doc name
  | component {node : Json} {r : Reference} (mem : (name, node) ∈ doc.components)
      (points : Schema.ComponentPointsTo node r) (same : r.name = name) : RefersToItself doc name

end Document

namespace Api

/-- The schemas that depend on themselves are those that refer to themselves. -/
theorem self_dependency_iff {doc : Document} {types : TypeTable} {api : Api} (h : ofDocument doc types = .ok api)
    (name : String) :
    (∃ s ∈ api.schemas.values, s.name = name ∧ s.name ∈ s.dependencies) ↔ doc.RefersToItself name := by
  obtain ⟨hschemas, -⟩ := ofDocument_ok h
  constructor
  · rintro ⟨s, hs, rfl, hself⟩
    obtain ⟨name, hget⟩ := SortedMap.mem_values.1 hs
    obtain rfl := Schema.name_of_get? hschemas hget
    rcases Schema.schema_cases hschemas hget with ⟨node, layers, loc, object, hschema⟩ | ⟨node, mem, hdeps⟩
    · rcases (Schema.objectSchema_ok hschema _).1 hself with ⟨r, points, same⟩ | promotes
      · exact .object object points same
      · exact absurd rfl (Schema.promotes_ne hschemas object promotes)
    · rcases (hdeps.mem _).1 hself with hnone | ⟨r, points, same⟩
      · exact absurd hnone NameSet.not_mem_empty
      · exact .component mem points same
  · intro hself
    have hfound : ∃ s, api.schemas.get? name = some s ∧ name ∈ s.dependencies := by
      cases hself with
      | object object points same =>
        obtain ⟨loc, s, hget, hschema⟩ := Schema.get?_objectNode hschemas object
        exact ⟨s, hget, (Schema.objectSchema_ok hschema name).2 (.inl ⟨_, points, same⟩)⟩
      | component mem points same =>
        obtain ⟨s, hget, hdeps⟩ := Schema.get?_component hschemas mem points
        exact ⟨s, hget, (hdeps.mem name).2 (.inr ⟨_, points, same⟩)⟩
    obtain ⟨s, hget, hname⟩ := hfound
    exact ⟨s, SortedMap.mem_values.2 ⟨name, hget⟩, Schema.name_of_get? hschemas hget,
      (Schema.name_of_get? hschemas hget).symm ▸ hname⟩

/-- Lists of texts, each with the rest of the list and an object with the place where it was found. -/
def lists : Document where
  root := .obj [
    ("openapi", .str "3.0.0"),
    ("paths", .obj []),
    ("components", .obj [("schemas", .obj [
      ("List", .obj [("type", .str "object"), ("properties", .obj [
        ("text", .obj [("type", .str "string")]),
        ("rest", .obj [("type", .str "array"), ("items", refTo "#/components/schemas/List")]),
        ("place", .obj [("type", .str "object"), ("properties", .obj [
          ("after", refTo "#/components/schemas/List")])])])])])])]

/-- The dependencies of the schemas of these lists. -/
theorem dependencies_lists : ∃ api list place, ofDocument lists plainTypes = .ok api ∧
    api.schemas.get? "List" = some list ∧ list.dependencies.names = ["List", "ListPlace"] ∧
    api.schemas.get? "ListPlace" = some place ∧ place.dependencies.names = ["List"] := by
  have hdeps : (ofDocument lists plainTypes).toOption.map (fun api =>
      ((api.schemas.get? "List").map (·.dependencies.names), (api.schemas.get? "ListPlace").map (·.dependencies.names))) =
        some (some ["List", "ListPlace"], some ["List"]) := by decide +kernel
  obtain ⟨api, hapi, hdeps⟩ := except_toOption_map hdeps
  obtain ⟨hdeps, hdeps'⟩ := Prod.mk.inj hdeps
  obtain ⟨list, hlist, hnames⟩ := Option.map_eq_some_iff.1 hdeps
  obtain ⟨place, hplace, hnames'⟩ := Option.map_eq_some_iff.1 hdeps'
  exact ⟨api, list, place, hapi, hlist, hnames, hplace, hnames'⟩

/-- A list refers to itself, the object inside it does not. -/
theorem self_dependency_iff_lists : ∃ api, ofDocument lists plainTypes = .ok api ∧
    lists.RefersToItself "List" ∧ ¬ lists.RefersToItself "ListPlace" := by
  obtain ⟨api, list, place, hapi, hlist, hnames, hplace, hnames'⟩ := dependencies_lists
  obtain ⟨hschemas, -⟩ := ofDocument_ok hapi
  refine ⟨api, hapi, (self_dependency_iff hapi "List").1 ?_, fun hself => ?_⟩
  · have hname := Schema.name_of_get? hschemas hlist
    refine ⟨list, SortedMap.mem_values.2 ⟨_, hlist⟩, hname, ?_⟩
    change list.name ∈ list.dependencies.names
    rw [hname, hnames]
    decide
  · obtain ⟨s, hs, hname, hdep⟩ := (self_dependency_iff hapi "ListPlace").2 hself
    obtain ⟨key, hget⟩ := SortedMap.mem_values.1 hs
    obtain rfl := (Schema.name_of_get? hschemas hget).symm.trans hname
    rw [hplace] at hget
    cases hget
    change place.name ∈ place.dependencies.names at hdep
    rw [hname, hnames'] at hdep
    exact absurd hdep (by decide)

/-- A list depends on itself. -/
theorem list_depends_on_itself : ¬ ∀ (doc : Document) (types : TypeTable) (api : Api),
    ofDocument doc types = .ok api → ∀ s ∈ api.schemas.values, s.name ∉ s.dependencies := by
  intro hall
  obtain ⟨api, list, -, hapi, hlist, hnames, -, -⟩ := dependencies_lists
  refine hall lists plainTypes api hapi list (SortedMap.mem_values.2 ⟨_, hlist⟩) ?_
  change list.name ∈ list.dependencies.names
  rw [Schema.name_of_get? (ofDocument_ok hapi).1 hlist, hnames]
  decide

end Api

end ApiScaffold
