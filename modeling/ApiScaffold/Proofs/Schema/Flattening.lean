/-
What flattening gives: one schema for every place in the components and no other, and no two places share a name
(`Flattened`). The proof counts: the names of the places, listed in order, are those of the entries, and entries that
were registered have distinct names.
-/
import ApiScaffold.Proofs.Schema.Places

namespace ApiScaffold.Schema

/-! ## What schemas hold -/

/-- A schema lists the properties of its node in declared order, required as the node says. -/
structure ListsProperties (node : Json) (s : Schema) : Prop where
  names : s.properties.map (·.name) = (propertyNodes node).map (·.1)
  required : ∀ p ∈ s.properties, p.required = true ↔
    ∃ names, node.getArr? "required" = some names ∧ Json.str p.name ∈ names
  enums : s.hasEnums = true ↔ ∃ property n, (property, n) ∈ propertyNodes node ∧ (n.getArr? "enum").isSome = true

/-- The schemas of components: one for every place, each under a name of its own. -/
structure Flattened (components : Members) (schemas : SortedMap Schema) : Prop where
  entry : ∀ {place name}, SchemaAt components place name → schemas.contains name = true
  source : ∀ {name}, schemas.contains name = true → ∃ place, SchemaAt components place name
  unique : ∀ {place place' name name'}, SchemaAt components place name → SchemaAt components place' name' →
    (place = place' ↔ name = name')
  named : ∀ {name s}, schemas.get? name = some s → s.name = name
  properties : ∀ {place name node layers}, ObjectAt components place name node layers →
    ∃ s, schemas.get? name = some s ∧ ListsProperties node s

section

variable {root : Json} {types : TypeTable}

/-- The schema of every entry has its name. -/
theorem name_of_objectEntries {name : String} {node : Json} {layers : Nat} {loc : Location} {e : Entry}
    (he : e ∈ objectEntries root types name node layers loc) {s : Schema} (hs : e.schema = .ok s) :
    s.name = e.name := by
  induction name, node, layers, loc using objectEntries.induct with
  | case1 name node layers loc ih =>
    rw [objectEntries_eq] at he
    rcases List.mem_cons.1 he with rfl | he
    · obtain ⟨read, additional, target, -, -, rfl⟩ := objectSchema_parts hs
      rfl
    · obtain ⟨i, hi, he⟩ := List.mem_flatMap.1 he
      exact ih i hi he

theorem name_of_componentEntries {name : String} {node : Json} {e : Entry}
    (he : e ∈ componentEntries root types name node) {s : Schema} (hs : e.schema = .ok s) : s.name = e.name := by
  have single : ∀ {x : Except ResolveError Schema}, (∀ s, x = .ok s → s.name = name) →
      e ∈ [⟨name, componentLocation name, x⟩] → s.name = e.name := by
    intro x hx he
    cases List.mem_singleton.1 he
    exact hx s hs
  have fault : ∀ {err : ResolveError} (s : Schema), .error err = Except.ok s → s.name = name := fun _ h => by cases h
  have reference : ∀ {text : String} (s : Schema),
      aliasSchema root name node text (componentLocation name) = .ok s → s.name = name := by
    intro text s h
    obtain ⟨target, -, h⟩ := except_bind_ok h
    cases h
    rfl
  have references : ∀ s : Schema,
      referenceArraySchema root name node (componentLocation name) = .ok s → s.name = name := by
    intro s h
    obtain ⟨target, -, h⟩ := except_bind_ok h
    cases h
    rfl
  unfold componentEntries arrayEntries at he
  simp only at he
  split at he
  · exact single fault he
  split at he
  · exact single reference he
  split at he
  · exact single (fun s h => by cases h; rfl) he
  split at he
  · split at he
    · exact single fault he
    split at he
    · exact single references he
    split at he
    · exact single fault he
    · exact name_of_objectEntries he hs
  · exact name_of_objectEntries he hs
  · refine single (fun s h => ?_) he
    obtain ⟨token, -, rfl⟩ := except_map_ok h
    rfl

section

variable {components : Members} {schemas : SortedMap Schema} (h : flatten root types components = .ok schemas)

include h

/-- Two entries of components that were flattened are the same if they have the same name. -/
theorem entry_eq_of_name {d e : Entry} (hd : d ∈ entriesOf root types components)
    (he : e ∈ entriesOf root types components) (same : d.name = e.name) : d = e :=
  List.inj_on_of_nodup_map (names_of_registerAll (flatten_eq root types components ▸ h)).1 hd he same

/-- An object written inside another has a name of its own. -/
theorem promotes_ne {name child : String} {node : Json} {layers : Nat}
    (object : ObjectNode components name node layers) (promotes : Promotes name layers node child) : child ≠ name := by
  obtain ⟨property, n, mem, ⟨element, inner, ends⟩, rfl⟩ := promotes
  have ok : ∀ e ∈ entriesOf root types components, ∃ s, e.schema = .ok s :=
    fun e he => ((flatten_registered h).entry e he).imp fun _ hs => hs.1
  obtain ⟨loc, hsub⟩ := exists_objectEntries ok object
  have hi : ⟨inlineName name layers property, element, inner, propertyLocation loc property⟩ ∈
      inlineObjects name node layers loc := mem_inlineObjects.2 ⟨property, n, mem, ends, rfl, rfl⟩
  intro same
  -- entries of one name are one entry, but the inner object stands further down than its owner
  have heq := entry_eq_of_name h (hsub (objectEntries_subset hi (objectEntries_self ..))) (hsub (objectEntries_self ..))
    same
  have hloc := congrArg (fun e : Entry => e.location.length) heq
  have hlong : 0 < ".properties.".length := by decide
  simp only [propertyLocation, String.length_append] at hloc
  omega

/-- Every schema is registered under its name. -/
theorem name_of_get? {name : String} {s : Schema} (hget : schemas.get? name = some s) : s.name = name := by
  obtain ⟨e, he, rfl, hs⟩ := (flatten_registered h).get?_iff.1 hget
  obtain ⟨c, -, he⟩ := List.mem_flatMap.1 he
  exact name_of_componentEntries he hs

end

theorem mem_requiredNames {node : Json} {name : String} :
    name ∈ requiredNames node ↔ ∃ names, node.getArr? "required" = some names ∧ Json.str name ∈ names := by
  have hstr : ∀ j : Json, j.str? = some name ↔ j = .str name := by
    intro j
    cases j <;> simp [Json.str?]
  unfold requiredNames
  rcases node.getArr? "required" with _ | names <;> simp [List.mem_filterMap, hstr]

theorem listsProperties_of_objectSchema {name : String} {node : Json} {layers : Nat} {loc : Location} {s : Schema}
    (h : objectSchema root types name node layers loc = .ok s) : ListsProperties node s := by
  obtain ⟨read, additional, target, hread, -, rfl⟩ := objectSchema_parts h
  have hparts : List.Forall₂ (fun m p => p.1.name = m.1 ∧ p.1.required = (requiredNames node).contains m.1 ∧
      p.1.enumValues = m.2.getArr? "enum") (propertyNodes node) read := by
    refine (except_mapM_ok hread).imp fun m p hp => ?_
    obtain ⟨type, -, hp⟩ := except_bind_ok hp
    obtain ⟨names, -, hp⟩ := except_bind_ok hp
    cases hp
    exact ⟨rfl, rfl, rfl⟩
  constructor
  case names =>
    rw [← List.forall₂_eq_eq_eq, List.forall₂_map_left_iff, List.forall₂_map_left_iff, List.forall₂_map_right_iff]
    exact hparts.flip.imp fun _ _ hp => hp.1
  case required =>
    intro p hp
    obtain ⟨q, hq, rfl⟩ := List.mem_map.1 hp
    obtain ⟨m, -, hname, hrequired, -⟩ := forall₂_exists hparts.flip hq
    rw [hrequired, List.contains_iff_mem, mem_requiredNames, hname]
  case enums =>
    unfold hasEnums
    rw [List.any_map, List.any_eq_true]
    constructor
    · rintro ⟨q, hq, hvalues⟩
      obtain ⟨m, hm, -, -, henum⟩ := forall₂_exists hparts.flip hq
      exact ⟨m.1, m.2, hm, (congrArg Option.isSome henum).symm.trans hvalues⟩
    · rintro ⟨property, n, hm, hvalues⟩
      obtain ⟨q, hq, -, -, henum⟩ := forall₂_exists hparts hm
      exact ⟨q, hq, (congrArg Option.isSome henum).trans hvalues⟩

section

variable {components : Members}

/-- Where names tell objects apart, places do. -/
theorem name_eq_of_place
    (hsame : ∀ {p q : Placed}, p ∈ placesOf components → q ∈ placesOf components → p.name = q.name → p = q)
    (straight : StraightArrays components) {place : List String} {name name' : String}
    (h : SchemaAt components place name) (h' : SchemaAt components place name') : name = name' := by
  rcases h with ⟨rfl, -⟩ | ⟨node, layers, h⟩
  · rcases h' with ⟨heq, -⟩ | ⟨node', layers', h'⟩
    · exact List.head_eq_of_cons_eq heq
    · exact h'.name_of_single.symm
  rcases h' with ⟨rfl, -⟩ | ⟨node', layers', h'⟩
  · exact h.name_of_single
  induction h generalizing name' node' layers' with
  | component => exact h'.name_of_single.symm
  | element => exact h'.name_of_single.symm
  | @inline place owner property node n element layers inner outer mem ends ih =>
    cases h' with
    | component => exact absurd rfl outer.place_ne_nil
    | element => exact absurd rfl outer.place_ne_nil
    | @inline _ owner' _ node' _ _ layers' _ outer' _ _ =>
      -- the owners have one name, hence are one
      have howner := hsame (mem_placesOf straight outer) (mem_placesOf straight outer') (ih _ _ outer')
      cases howner
      rfl

/-- Flattening gives the schemas of the places in the components. -/
theorem flattened_of_straight {schemas : SortedMap Schema} (straight : StraightArrays components)
    (h : flatten root types components = .ok schemas) : Flattened components schemas := by
  have hreg := flatten_registered h
  have hnames := names_placesOf fun e he => (hreg.entry e he).imp fun _ hs => hs.1
  have hdistinct : ((placesOf components).map (·.name)).Nodup := by
    rw [hnames]
    exact (names_of_registerAll (flatten_eq root types components ▸ h)).1
  have hsame : ∀ {p q : Placed}, p ∈ placesOf components → q ∈ placesOf components → p.name = q.name → p = q :=
    fun hp hq heq => List.inj_on_of_nodup_map hdistinct hp hq heq
  constructor
  case entry =>
    intro place name hat
    obtain ⟨p, hp, -, rfl⟩ := (schemaAt_iff straight).1 hat
    obtain ⟨e, he, hname⟩ := List.mem_map.1 (hnames ▸ List.mem_map_of_mem hp)
    obtain ⟨s, -, hget⟩ := hreg.entry e he
    exact SortedMap.contains_iff.2 ⟨s, hname ▸ hget⟩
  case source =>
    intro name hcontains
    obtain ⟨s, hget⟩ := SortedMap.contains_iff.1 hcontains
    obtain ⟨e, he, rfl, -⟩ := hreg.get?_iff.1 hget
    obtain ⟨p, hp, hname⟩ := List.mem_map.1 (hnames.symm ▸ List.mem_map_of_mem he)
    exact ⟨p.place, (schemaAt_iff straight).2 ⟨p, hp, rfl, hname⟩⟩
  case unique =>
    intro place place' name name' hat hat'
    constructor
    · rintro rfl
      exact name_eq_of_place hsame straight hat hat'
    · rintro rfl
      obtain ⟨p, hp, rfl, rfl⟩ := (schemaAt_iff straight).1 hat
      obtain ⟨q, hq, rfl, hname⟩ := (schemaAt_iff straight).1 hat'
      rw [hsame hq hp hname]
  case named =>
    intro name s hget
    obtain ⟨e, he, rfl, hs⟩ := hreg.get?_iff.1 hget
    obtain ⟨c, -, he⟩ := List.mem_flatMap.1 he
    exact name_of_componentEntries he hs
  case properties =>
    intro place name node layers object
    obtain ⟨loc, s, hget, hs⟩ := get?_objectNode h (object.objectNode straight)
    exact ⟨s, hget, listsProperties_of_objectSchema hs⟩

end

end

/-- Components with objects below properties and arrays, and an array of arrays of texts. -/
def nested : Members :=
  let object (properties : Members) : Json := .obj [("type", .str "object"), ("properties", .obj properties)]
  let array (items : Json) : Json := .obj [("type", .str "array"), ("items", items)]
  [("Pet", object [("home", array (object [("street", object [])]))]),
    ("Grid", array (array (object [("cell", object [])]))),
    ("Lines", array (array (.obj [("type", .str "string")])))]

/-- A language of texts and arrays. -/
def textWords : TypeTable := ⟨[("string", "string"), ("array", "list"), ("<", "["), (">", "]")]⟩

theorem flattened_nested : ∃ schemas, flatten .null textWords nested = .ok schemas ∧ StraightArrays nested ∧
    Flattened nested schemas ∧
      schemas.keys = ["Grid", "GridInnerInnerCell", "Lines", "Pet", "PetHome", "PetHomeInnerStreet"] := by
  obtain ⟨schemas, hschemas⟩ := except_isOk (x := flatten .null textWords nested) (by decide +kernel)
  have hkeys : (flatten .null textWords nested).toOption.map (·.keys) =
      some ["Grid", "GridInnerInnerCell", "Lines", "Pet", "PetHome", "PetHomeInnerStreet"] := by decide +kernel
  rw [hschemas] at hkeys
  have hstraight : StraightArrays nested := by
    intro name node mem written element layers ⟨ends, plain, type, primitive, typed⟩
    simp only [nested, List.mem_cons, List.not_mem_nil, or_false, Prod.mk.injEq] at mem
    -- two of the components hold objects, the third is primitive
    have notObject : element.getStr? "type" ≠ some "object" := by
      intro object
      rw [object] at typed
      cases typed
      exact absurd primitive (by decide)
    rcases mem with ⟨-, rfl⟩ | ⟨-, rfl⟩ | ⟨-, rfl⟩
    · exact absurd (ends.type_eq (by decide +kernel)) notObject
    · exact absurd (ends.type_eq (by decide +kernel)) notObject
    · exact (itemsTo_of_isPrimitive (by decide +kernel) ends).1
  exact ⟨schemas, hschemas, hstraight, flattened_of_straight hstraight hschemas, Option.some.inj hkeys⟩

/-- An array whose items have both a reference and items of their own. -/
def shadowed : Members := [
  ("X", .obj [("type", .str "array"), ("items", .obj [
    ("type", .str "array"),
    ("$ref", .str "#/components/schemas/Y"),
    ("items", .obj [("type", .str "string"), ("properties", .obj [("a", .obj [("type", .str "object")])])])])]),
  ("Y", .obj [("type", .str "string")])]

/-- Flattening looks through the reference and finds an object below a text, where there is none. -/
theorem flattened_through_reference : ¬ ∀ (root : Json) (types : TypeTable) (components : Members)
    (schemas : SortedMap Schema), flatten root types components = .ok schemas → Flattened components schemas := by
  intro hall
  let root : Json := .obj [("components", .obj [("schemas", .obj shadowed)])]
  obtain ⟨schemas, hschemas⟩ := except_isOk (x := flatten root textWords shadowed) (by decide +kernel)
  have hextra : (flatten root textWords shadowed).toOption.map (·.contains "XInnerInnerA") = some true := by
    decide +kernel
  rw [hschemas] at hextra
  obtain ⟨place, hat⟩ := (hall root textWords shadowed schemas hschemas).source (Option.some.inj hextra)
  have hnone : ∀ {place name node layers}, ¬ ObjectAt shadowed place name node layers := by
    intro place name node layers object
    induction object with
    | component mem written object =>
      simp only [shadowed, List.mem_cons, List.not_mem_nil, or_false, Prod.mk.injEq] at mem
      rcases mem with ⟨-, rfl⟩ | ⟨-, rfl⟩
      · exact absurd object (by decide)
      · exact absurd object (by decide)
    | element mem written array ends plain compound =>
      simp only [shadowed, List.mem_cons, List.not_mem_nil, or_false, Prod.mk.injEq] at mem
      rcases mem with ⟨-, rfl⟩ | ⟨-, rfl⟩
      · exact compound "string" (by decide) (ends.type_eq (by decide +kernel))
      · exact absurd array (by decide)
    | inline _ _ _ ih => exact ih
  rcases hat with ⟨-, node, mem⟩ | ⟨node, layers, object⟩
  · simp [shadowed] at mem
  · exact hnone object

end ApiScaffold.Schema
