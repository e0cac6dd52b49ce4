/-
What schemas depend on: `ObjectPointsTo` says which references of an object node count, `Promotes` which objects
are written inside it, and `SchemasPointTo` which references of all components count. The dependencies of the
schemas of a document are exactly the names of their targets and of the objects written inside.
-/
import ApiScaffold.Proofs.Schema.Registry

namespace ApiScaffold.Schema

/-! ## Objects -/

/-- The references that the properties of an object node point to, and its additional properties. -/
inductive ObjectPointsTo (node : Json) : Reference → Prop
  | property {property : String} {n : Json} {r : Reference} (mem : (property, n) ∈ propertyNodes node)
      (points : PointsTo n r) : ObjectPointsTo node r
  | additional {ms : Members} {r : Reference} (described : node.get? "additionalProperties" = some (.obj ms))
      (points : PointsTo (.obj ms) r) : ObjectPointsTo node r

/-- The names of the objects written inside the properties of an object node. -/
def Promotes (name : String) (layers : Nat) (node : Json) (child : String) : Prop :=
  ∃ property n, (property, n) ∈ propertyNodes node ∧ (∃ element inner, HasInline n element inner) ∧
    child = inlineName name layers property

section

variable {root : Json} {types : TypeTable}

theorem propertyDependencies_ok {n : Json} {hint : String} {loc : Location} {names : List String}
    (h : propertyDependencies root n hint loc = .ok names) (d : String) :
    d ∈ names ↔ (∃ r, PointsTo n r ∧ r.name = d) ∨ (∃ element inner, HasInline n element inner) ∧ d = hint := by
  obtain ⟨target, htarget, h⟩ := except_bind_ok h
  cases h
  have hinline : d ∈ ((inlineObject? n).map fun _ => hint).toList ↔
      (∃ element inner, HasInline n element inner) ∧ d = hint := by
    simp only [← inlineObject?_eq_some]
    rcases inlineObject? n with _ | ⟨element, inner⟩ <;> simp
  rw [List.mem_append, hinline, Option.mem_toList, ← chainTarget_ok htarget]

theorem readProperty_ok {owner property : String} {layers : Nat} {required : List String} {loc : Location} {n : Json}
    {read : Property × List String} (h : readProperty root types owner layers required loc property n = .ok read)
    (d : String) : d ∈ read.2 ↔ (∃ r, PointsTo n r ∧ r.name = d) ∨
      (∃ element inner, HasInline n element inner) ∧ d = inlineName owner layers property := by
  obtain ⟨type, -, h⟩ := except_bind_ok h
  obtain ⟨names, hnames, h⟩ := except_bind_ok h
  cases h
  exact propertyDependencies_ok hnames d

theorem readAdditional_ok {node : Json} {loc : Location} {additional target : Option String}
    (h : readAdditional root types node loc = .ok (additional, target)) (d : String) :
    target = some d ↔
      ∃ ms r, node.get? "additionalProperties" = some (.obj ms) ∧ PointsTo (.obj ms) r ∧ r.name = d := by
  unfold readAdditional at h
  split at h
  · rename_i ms described
    obtain ⟨type, -, h⟩ := except_bind_ok h
    obtain ⟨target', htarget, h⟩ := except_bind_ok h
    cases h
    rw [chainTarget_ok htarget, described]
    simp
  · rename_i undescribed
    cases h
    simp only [reduceCtorEq, false_iff, not_exists, not_and]
    exact fun ms _ described => absurd described (undescribed ms)

/-- The schema of an object node with these properties. -/
def schemaWith (root : Json) (types : TypeTable) (name : String) (node : Json) (layers : Nat) (loc : Location)
    (properties : Members) : Except ResolveError Schema := do
  let read ← properties.mapM fun m => readProperty root types name layers (requiredNames node) loc m.1 m.2
  let additional ← readAdditional root types node loc
  return { ofNode name node with
    properties := read.map (·.1)
    dependencies := (NameSet.ofList (read.flatMap (·.2))).insert? additional.2
    additionalProperties := additional.1 }

/-- An object schema has the properties of its node, if these are a mapping. -/
theorem objectSchema_eq (name : String) (node : Json) (layers : Nat) (loc : Location) :
    objectSchema root types name node layers loc = match node.get? "properties" with
      | none => schemaWith root types name node layers loc []
      | some (.obj ms) => schemaWith root types name node layers loc ms
      | some _ => .error (.malformedSpec (loc ++ ".properties") "`properties` must be a mapping") := by
  unfold objectSchema
  rcases node.get? "properties" with _ | j
  · rfl
  · cases j <;> rfl

/-- An object schema is put together from its properties and its additional properties. -/
theorem objectSchema_parts {name : String} {node : Json} {layers : Nat} {loc : Location} {s : Schema}
    (h : objectSchema root types name node layers loc = .ok s) :
    ∃ read additional target,
      (propertyNodes node).mapM (fun m => readProperty root types name layers (requiredNames node) loc m.1 m.2) =
        .ok read ∧
      readAdditional root types node loc = .ok (additional, target) ∧
      s = { ofNode name node with
        properties := read.map (·.1)
        dependencies := (NameSet.ofList (read.flatMap (·.2))).insert? target
        additionalProperties := additional } := by
  have hwith : schemaWith root types name node layers loc (propertyNodes node) = .ok s := by
    rw [objectSchema_eq] at h
    unfold propertyNodes Json.getObj?
    split at h
    · rename_i absent
      rwa [absent]
    · rename_i ms given
      rwa [given]
    · cases h
  obtain ⟨read, hread, hwith⟩ := except_bind_ok hwith
  obtain ⟨⟨additional, target⟩, hadditional, hwith⟩ := except_bind_ok hwith
  cases hwith
  exact ⟨read, additional, target, hread, hadditional, rfl⟩

/-- An object schema depends on what its properties and additional properties point to, and on the objects
written inside its properties. -/
theorem objectSchema_ok {name : String} {node : Json} {layers : Nat} {loc : Location} {s : Schema}
    (h : objectSchema root types name node layers loc = .ok s) (d : String) :
    d ∈ s.dependencies ↔ (∃ r, ObjectPointsTo node r ∧ r.name = d) ∨ Promotes name layers node d := by
  obtain ⟨read, additional, target, hread, hadditional, rfl⟩ := objectSchema_parts h
  rw [NameSet.mem_insert?, NameSet.mem_ofList, List.mem_flatMap, readAdditional_ok hadditional]
  constructor
  · rintro (⟨ms, r, described, points, hd⟩ | ⟨p, hp, hd⟩)
    · exact .inl ⟨r, .additional described points, hd⟩
    · obtain ⟨⟨property, n⟩, hmem, hp⟩ := (except_mapM_mem hread).1 hp
      rcases (readProperty_ok hp d).1 hd with ⟨r, points, hd⟩ | ⟨hinline, hd⟩
      · exact .inl ⟨r, .property hmem points, hd⟩
      · exact .inr ⟨property, n, hmem, hinline, hd⟩
  · rintro (⟨r, hr, hd⟩ | ⟨property, n, hmem, hinline, hd⟩)
    · cases hr with
      | property mem points =>
        obtain ⟨p, hp, hok⟩ := except_mapM_exists hread mem
        exact .inr ⟨p, hp, (readProperty_ok hok d).2 (.inl ⟨r, points, hd⟩)⟩
      | additional described points => exact .inl ⟨_, r, described, points, hd⟩
    · obtain ⟨p, hp, hok⟩ := except_mapM_exists hread hmem
      exact .inr ⟨p, hp, (readProperty_ok hok d).2 (.inr ⟨hinline, hd⟩)⟩

/-- The targets of what an object points to are there. -/
theorem objectSchema_found {name : String} {node : Json} {layers : Nat} {loc : Location} {s : Schema}
    (h : objectSchema root types name node layers loc = .ok s) {r : Reference} (points : ObjectPointsTo node r) :
    ∃ v, r.find? root = some v := by
  obtain ⟨read, additional, target, hread, hadditional, -⟩ := objectSchema_parts h
  cases points with
  | property mem points =>
    obtain ⟨p, -, hp⟩ := except_mapM_exists hread mem
    obtain ⟨type, -, hp⟩ := except_bind_ok hp
    obtain ⟨names, hnames, -⟩ := except_bind_ok hp
    obtain ⟨target, htarget, -⟩ := except_bind_ok hnames
    exact chainTarget_found htarget points
  | additional described points =>
    unfold readAdditional at hadditional
    simp only [described] at hadditional
    obtain ⟨type, -, hadditional⟩ := except_bind_ok hadditional
    obtain ⟨target, htarget, -⟩ := except_bind_ok hadditional
    exact chainTarget_found htarget points

/-! ## The schemas of a document -/

/-- The references that make schemas depend on their targets. -/
inductive SchemasPointTo (components : Members) : Reference → Prop
  | object {name : String} {node : Json} {layers : Nat} {r : Reference}
      (object : ObjectNode components name node layers) (points : ObjectPointsTo node r) : SchemasPointTo components r
  | component {name : String} {node : Json} {r : Reference} (mem : (name, node) ∈ components)
      (points : ComponentPointsTo node r) : SchemasPointTo components r

section

variable {components : Members} {schemas : SortedMap Schema} (h : flatten root types components = .ok schemas)

include h

theorem contains_component {name : String} {node : Json} (mem : (name, node) ∈ components) :
    schemas.contains name = true := by
  obtain ⟨e, he, rfl⟩ := exists_entry root types name node
  obtain ⟨s, -, hget⟩ := (flatten_registered h).entry e (List.mem_flatMap.2 ⟨_, mem, he⟩)
  exact SortedMap.contains_iff.2 ⟨s, hget⟩

theorem get?_objectNode {name : String} {node : Json} {layers : Nat} (object : ObjectNode components name node layers) :
    ∃ loc s, schemas.get? name = some s ∧ objectSchema root types name node layers loc = .ok s := by
  have hreg := flatten_registered h
  obtain ⟨loc, hsub⟩ := exists_objectEntries (fun e he => (hreg.entry e he).imp fun _ hs => hs.1) object
  obtain ⟨s, hs, hget⟩ := hreg.entry _ (hsub (objectEntries_self ..))
  exact ⟨loc, s, hget, hs⟩

/-- The objects written inside an object have schemas of their own. -/
theorem contains_promotes {name : String} {node : Json} {layers : Nat} (object : ObjectNode components name node layers)
    {child : String} (promotes : Promotes name layers node child) : schemas.contains child = true := by
  obtain ⟨property, n, mem, ⟨element, inner, ends⟩, rfl⟩ := promotes
  obtain ⟨loc, s, hget, -⟩ := get?_objectNode h (object.inline mem ends)
  exact SortedMap.contains_iff.2 ⟨s, hget⟩

theorem get?_component {name : String} {node : Json} (mem : (name, node) ∈ components) {r : Reference}
    (points : ComponentPointsTo node r) : ∃ s, schemas.get? name = some s ∧ DependsOnTarget root node s := by
  obtain ⟨e, he, rfl, hdeps⟩ := exists_entry_of_pointsTo root types name points
  obtain ⟨s, hs, hget⟩ := (flatten_registered h).entry e (List.mem_flatMap.2 ⟨_, mem, he⟩)
  exact ⟨s, hget, hdeps s hs⟩

/-- A component that is a reference depends on its target. -/
theorem get?_reference {name text : String} {node : Json} (mem : (name, node) ∈ components)
    (written : Reference.ofNode? node = some text) : ∃ s r, schemas.get? name = some s ∧
      Reference.parse text = some r ∧ ∀ d, d ∈ s.dependencies ↔ d = r.name := by
  have hmem : ⟨name, componentLocation name, aliasSchema root name node text (componentLocation name)⟩ ∈
      entriesOf root types components := by
    refine List.mem_flatMap.2 ⟨_, mem, ?_⟩
    rw [componentEntries_alias written]
    exact List.mem_singleton_self _
  obtain ⟨s, hs, hget⟩ := (flatten_registered h).entry _ hmem
  obtain ⟨target, htarget, hs⟩ := except_bind_ok hs
  cases hs
  obtain ⟨r, -, hparse, -, rfl⟩ := Reference.targetName_ok.1 htarget
  refine ⟨_, r, hget, hparse, fun d => ?_⟩
  rw [NameSet.mem_insert, or_iff_left NameSet.not_mem_empty]

/-- A schema comes from an object node, or depends on what its component refers to. -/
theorem schema_cases {name : String} {s : Schema} (hget : schemas.get? name = some s) :
    (∃ node layers loc, ObjectNode components name node layers ∧ objectSchema root types name node layers loc = .ok s) ∨
      ∃ node, (name, node) ∈ components ∧ DependsOnTarget root node s := by
  rcases (flatten_registered h).source hget with hnone | ⟨e, he, rfl, hs⟩
  · cases hnone
  · obtain ⟨⟨c, node⟩, mem, he⟩ := List.mem_flatMap.1 he
    rcases entry_cases mem he with ⟨n, layers, object, hschema⟩ | ⟨hname, hdeps⟩
    · exact .inl ⟨n, layers, e.location, object, hschema ▸ hs⟩
    · exact .inr ⟨node, hname ▸ mem, hdeps s hs⟩

/-- What schemas depend on is what their nodes refer to, and the objects written inside them. -/
theorem mem_schema_dependencies (d : String) :
    (∃ s ∈ schemas.values, d ∈ s.dependencies) ↔ (∃ r, SchemasPointTo components r ∧ r.name = d) ∨
      ∃ name node layers, ObjectNode components name node layers ∧ Promotes name layers node d := by
  constructor
  · rintro ⟨s, hs, hd⟩
    obtain ⟨name, hget⟩ := SortedMap.mem_values.1 hs
    rcases schema_cases h hget with ⟨node, layers, loc, object, hschema⟩ | ⟨node, mem, hdeps⟩
    · rcases (objectSchema_ok hschema d).1 hd with ⟨r, points, hr⟩ | promotes
      · exact .inl ⟨r, .object object points, hr⟩
      · exact .inr ⟨name, node, layers, object, promotes⟩
    · rcases (hdeps.mem d).1 hd with hnone | ⟨r, points, hr⟩
      · exact absurd hnone NameSet.not_mem_empty
      · exact .inl ⟨r, .component mem points, hr⟩
  · rintro (⟨r, hr, hd⟩ | ⟨name, node, layers, object, promotes⟩)
    · cases hr with
      | object object points =>
        obtain ⟨loc, s, hget, hschema⟩ := get?_objectNode h object
        exact ⟨s, SortedMap.mem_values.2 ⟨_, hget⟩, (objectSchema_ok hschema d).2 (.inl ⟨r, points, hd⟩)⟩
      | component mem points =>
        obtain ⟨s, hget, hdeps⟩ := get?_component h mem points
        exact ⟨s, SortedMap.mem_values.2 ⟨_, hget⟩, (hdeps.mem d).2 (.inr ⟨r, points, hd⟩)⟩
    · obtain ⟨loc, s, hget, hschema⟩ := get?_objectNode h object
      exact ⟨s, SortedMap.mem_values.2 ⟨_, hget⟩, (objectSchema_ok hschema d).2 (.inr promotes)⟩

theorem schemasPointTo_found {r : Reference} (hr : SchemasPointTo components r) : ∃ v, r.find? root = some v := by
  cases hr with
  | object object points =>
    obtain ⟨loc, s, -, hschema⟩ := get?_objectNode h object
    exact objectSchema_found hschema points
  | component mem points =>
    obtain ⟨s, -, hdeps⟩ := get?_component h mem points
    exact hdeps.found points

end

end

end ApiScaffold.Schema
