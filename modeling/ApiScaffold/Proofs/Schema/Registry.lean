/-
The schemas that come of the components of a document. Registering is a fold over entries, and when it
succeeds the registry holds the schema of every entry under its name and nothing else (`Registered`). Which
entries there are is said without the walk that lists them: `ObjectNode` gives the object nodes that schemas
are registered from, each with its name, and `ComponentPointsTo` what a component that is no object refers to.
-/
import ApiScaffold.Proofs.Schema.Chain

namespace ApiScaffold.Schema

/-! ## Registering -/

/-- What registering entries comes to when it succeeds. -/
structure Registered (before : SortedMap Schema) (es : List Entry) (after : SortedMap Schema) : Prop where
  entry : ∀ e ∈ es, ∃ s, e.schema = .ok s ∧ after.get? e.name = some s
  source : ∀ {name s}, after.get? name = some s →
    before.get? name = some s ∨ ∃ e ∈ es, e.name = name ∧ e.schema = .ok s
  kept : ∀ {name s}, before.get? name = some s → after.get? name = some s

theorem Registered.refl (m : SortedMap Schema) : Registered m [] m where
  entry := fun _ h => by cases h
  source := .inl
  kept := id

theorem Registered.trans {a b c : SortedMap Schema} {es fs : List Entry} (h : Registered a es b)
    (h' : Registered b fs c) : Registered a (es ++ fs) c where
  entry := fun e he => by
    rcases List.mem_append.1 he with he | he
    · obtain ⟨s, hs, hget⟩ := h.entry e he
      exact ⟨s, hs, h'.kept hget⟩
    · exact h'.entry e he
  source := fun hget => by
    rcases h'.source hget with hb | ⟨e, he, hname⟩
    · rcases h.source hb with ha | ⟨e, he, hname⟩
      · exact .inl ha
      · exact .inr ⟨e, List.mem_append_left _ he, hname⟩
    · exact .inr ⟨e, List.mem_append_right _ he, hname⟩
  kept := fun hget => h'.kept (h.kept hget)

/-- A schema under a name that was free. -/
theorem Registered.insert {m : SortedMap Schema} {e : Entry} {s : Schema} (hs : e.schema = .ok s)
    (free : m.contains e.name = false) : Registered m [e] (m.insert e.name s) where
  entry := by
    rintro e' he
    cases List.mem_singleton.1 he
    exact ⟨s, hs, (m.get?_insert ..).trans (if_pos rfl)⟩
  source := fun {name s'} hget => by
    rw [m.get?_insert] at hget
    split at hget
    · rename_i hname
      cases hget
      exact .inr ⟨e, List.mem_singleton_self _, hname.symm, hs⟩
    · exact .inl hget
  kept := fun {name s'} hget => by
    rw [m.get?_insert]
    split
    · rename_i hname
      rw [hname] at hget
      exact absurd hget (SortedMap.get?_ne_of_free free)
    · exact hget

theorem register_ok : ∀ {es : List Entry} {before after : SortedMap Schema},
    register before es = (after, .ok ()) → Registered before es after
  | [], before, after, h => by
    cases h
    exact .refl before
  | e :: es, before, after, h => by
    unfold register at h
    rcases hs : e.schema with err | s <;> rw [hs] at h
    · cases h
    · simp only at h
      split at h
      · cases h
      · rename_i free
        exact (Registered.insert hs (Bool.not_eq_true _ ▸ free)).trans (register_ok h)

/-- Registering entries as a computation that fails with the first fault. -/
def registerAll (schemas : SortedMap Schema) (es : List Entry) : Except ResolveError (SortedMap Schema) :=
  match register schemas es with
  | (schemas, .ok ()) => .ok schemas
  | (_, .error e) => .error e

theorem registerAll_cons (m : SortedMap Schema) (e : Entry) (es : List Entry) :
    registerAll m (e :: es) = e.schema.bind fun s =>
      if m.contains e.name then .error (.duplicateSchema e.name e.location) else registerAll (m.insert e.name s) es := by
  unfold registerAll
  rw [register]
  rcases e.schema with err | s
  · rfl
  · by_cases htaken : m.contains e.name = true <;> simp [htaken, Except.bind]

theorem registerAll_append :
    ∀ (es fs : List Entry) (m : SortedMap Schema),
      registerAll m (es ++ fs) = (registerAll m es).bind fun m' => registerAll m' fs
  | [], fs, m => rfl
  | e :: es, fs, m => by
    rw [List.cons_append, registerAll_cons, registerAll_cons]
    rcases e.schema with err | s
    · rfl
    · by_cases htaken : m.contains e.name = true
      · simp [htaken, Except.bind]
      · simpa [htaken, Except.bind] using registerAll_append es fs (m.insert e.name s)

theorem registerAll_registered {es : List Entry} {before after : SortedMap Schema}
    (h : registerAll before es = .ok after) : Registered before es after := by
  unfold registerAll at h
  rcases hreg : register before es with ⟨m, err | ⟨⟩⟩ <;> rw [hreg] at h <;> cases h
  exact register_ok hreg

/-- The entries of components, one component after the other. -/
def entriesOf (root : Json) (types : TypeTable) (components : Members) : List Entry :=
  components.flatMap fun c => componentEntries root types c.1 c.2

/-- The schemas of components are registered from all their entries in order. -/
theorem flatten_eq (root : Json) (types : TypeTable) (components : Members) :
    flatten root types components = registerAll .empty (entriesOf root types components) := by
  have hfold : ∀ (components : Members) (m : SortedMap Schema),
      components.foldlM (fun m c => registerAll m (componentEntries root types c.1 c.2)) m =
        registerAll m (entriesOf root types components) := by
    intro components
    induction components with
    | nil => exact fun _ => rfl
    | cons c components ih =>
      intro m
      unfold entriesOf at ih ⊢
      rw [List.flatMap_cons, registerAll_append, List.foldlM_cons]
      exact congrArg _ (funext ih)
  exact hfold components .empty

/-- The schemas of components are those of their entries. -/
theorem flatten_registered {root : Json} {types : TypeTable} {components : Members} {schemas : SortedMap Schema}
    (h : flatten root types components = .ok schemas) :
    Registered .empty (entriesOf root types components) schemas :=
  registerAll_registered (flatten_eq root types components ▸ h)

/-! ## Object nodes -/

/-- The object nodes that schemas are registered from, with their names and the number of arrays around them:
component objects, the elements of array components, and the objects written inside others. -/
inductive ObjectNode (components : Members) : String → Json → Nat → Prop
  | component {name : String} {node : Json} (mem : (name, node) ∈ components)
      (written : Reference.ofNode? node = none) (object : node.getStr? "type" = some "object") :
      ObjectNode components name node 0
  | element {name : String} {node element : Json} {layers : Nat} (mem : (name, node) ∈ components)
      (written : Reference.ofNode? node = none) (array : node.getStr? "type" = some "array")
      (compound : isPrimitive node = false) (ends : ArrayEnd node element layers)
      (inner : Reference.ofNode? element = none) : ObjectNode components name element layers
  | inline {owner property : String} {node n element : Json} {layers inner : Nat}
      (outer : ObjectNode components owner node layers) (mem : (property, n) ∈ propertyNodes node)
      (ends : HasInline n element inner) : ObjectNode components (inlineName owner layers property) element inner

section

variable {root : Json} {types : TypeTable} {components : Members}

theorem objectEntries_eq (name : String) (node : Json) (layers : Nat) (loc : Location) :
    objectEntries root types name node layers loc =
      ⟨name, loc, objectSchema root types name node layers loc⟩ ::
        (inlineObjects name node layers loc).flatMap fun i =>
          objectEntries root types i.name i.node i.layers i.location := by
  rw [objectEntries]
  simp

theorem mem_inlineObjects {name : String} {node : Json} {layers : Nat} {loc : Location} {i : Inline} :
    i ∈ inlineObjects name node layers loc ↔ ∃ property n, (property, n) ∈ propertyNodes node ∧
      HasInline n i.node i.layers ∧ i.name = inlineName name layers property ∧
        i.location = propertyLocation loc property := by
  unfold inlineObjects
  simp only [List.mem_filterMap, Option.map_eq_some_iff, Prod.exists, inlineObject?_eq_some]
  constructor
  · rintro ⟨property, n, hmem, element, inner, hends, rfl⟩
    exact ⟨property, n, hmem, hends, rfl, rfl⟩
  · rintro ⟨property, n, hmem, hends, hname, hloc⟩
    refine ⟨property, n, hmem, i.node, i.layers, hends, ?_⟩
    rw [← hname, ← hloc]

theorem objectEntries_self (name : String) (node : Json) (layers : Nat) (loc : Location) :
    ⟨name, loc, objectSchema root types name node layers loc⟩ ∈ objectEntries root types name node layers loc := by
  rw [objectEntries_eq]
  exact List.mem_cons_self ..

/-- The entries of an inline object are among those of its owner. -/
theorem objectEntries_subset {name : String} {node : Json} {layers : Nat} {loc : Location} {i : Inline}
    (h : i ∈ inlineObjects name node layers loc) :
    objectEntries root types i.name i.node i.layers i.location ⊆ objectEntries root types name node layers loc := by
  intro e he
  rw [objectEntries_eq name]
  exact List.mem_cons_of_mem _ (List.mem_flatMap.2 ⟨i, h, he⟩)

theorem compound_of_object {node : Json} (written : Reference.ofNode? node = none)
    (object : node.getStr? "type" = some "object") : isPrimitive node = false := by
  unfold isPrimitive
  simp [written, object, primitiveTypes]

theorem componentEntries_object {name : String} {node : Json} (written : Reference.ofNode? node = none)
    (object : node.getStr? "type" = some "object") :
    componentEntries root types name node = objectEntries root types name node 0 (componentLocation name) := by
  unfold componentEntries
  simp only [isObj_of_getStr? object, written, compound_of_object written object, object, Bool.not_true,
    Bool.false_eq_true, if_false]

theorem componentEntries_array {name : String} {node : Json} (written : Reference.ofNode? node = none)
    (array : node.getStr? "type" = some "array") (compound : isPrimitive node = false) :
    componentEntries root types name node = arrayEntries root types name node := by
  unfold componentEntries
  simp only [isObj_of_getStr? array, written, compound, array, Bool.not_true, Bool.false_eq_true, if_false]

/-- An array whose element is no reference stands for the entries of its element, unless that has no type. -/
theorem arrayEntries_element (root : Json) (types : TypeTable) {name : String} {node element : Json} {layers : Nat}
    {inner : Location} (hinner : innermost node (componentLocation name) = .ok (element, layers, inner))
    (plain : Reference.ofNode? element = none) :
    (∃ err, arrayEntries root types name node = [⟨name, componentLocation name, .error err⟩]) ∨
      arrayEntries root types name node = objectEntries root types name element layers inner := by
  unfold arrayEntries
  simp only [hinner, plain, Option.isSome_none, Bool.false_eq_true, if_false]
  rcases typeToken root types element name 0 inner with err | token
  · exact .inl ⟨err, rfl⟩
  · exact .inr rfl

/-- An array component has the entries of its element, or one entry that is at fault. -/
theorem componentEntries_element_cases (root : Json) (types : TypeTable) (name : String) {node element : Json}
    {layers : Nat} (written : Reference.ofNode? node = none) (array : node.getStr? "type" = some "array")
    (compound : isPrimitive node = false) (ends : ArrayEnd node element layers)
    (plain : Reference.ofNode? element = none) :
    (∃ err, componentEntries root types name node = [⟨name, componentLocation name, .error err⟩]) ∨
      ∃ loc, componentEntries root types name node = objectEntries root types name element layers loc := by
  obtain ⟨inner, hinner⟩ := innermost_of_arrayEnd ends (componentLocation name)
  rw [componentEntries_array written array compound]
  exact (arrayEntries_element root types hinner plain).imp_right fun hentries => ⟨inner, hentries⟩

/-- An array component without faults has the entries of its element. -/
theorem componentEntries_element {name : String} {node element : Json} {layers : Nat}
    (ok : ∀ e ∈ componentEntries root types name node, ∃ s, e.schema = .ok s) (written : Reference.ofNode? node = none)
    (array : node.getStr? "type" = some "array") (compound : isPrimitive node = false)
    (ends : ArrayEnd node element layers) (plain : Reference.ofNode? element = none) :
    ∃ loc, componentEntries root types name node = objectEntries root types name element layers loc := by
  refine (componentEntries_element_cases root types name written array compound ends plain).resolve_left ?_
  -- an element without a type would have been an entry at fault
  rintro ⟨err, herr⟩
  rw [herr] at ok
  obtain ⟨s, hs⟩ := ok _ (List.mem_singleton_self _)
  cases hs

/-- Where registering succeeded, the entries of every object node are among those of the components. -/
theorem exists_objectEntries (ok : ∀ e ∈ entriesOf root types components, ∃ s, e.schema = .ok s) {name : String}
    {node : Json} {layers : Nat} (h : ObjectNode components name node layers) :
    ∃ loc, objectEntries root types name node layers loc ⊆ entriesOf root types components := by
  have among : ∀ {name node}, (name, node) ∈ components →
      componentEntries root types name node ⊆ entriesOf root types components :=
    fun mem _ he => List.mem_flatMap.2 ⟨_, mem, he⟩
  induction h with
  | @component name node mem written object =>
    refine ⟨componentLocation name, ?_⟩
    rw [← componentEntries_object written object]
    exact among mem
  | @element name node element layers mem written array compound ends plain =>
    obtain ⟨loc, hentries⟩ :=
      componentEntries_element (fun e he => ok e (among mem he)) written array compound ends plain
    exact ⟨loc, hentries ▸ among mem⟩
  | @inline owner property node n element layers inner _ mem ends ih =>
    obtain ⟨loc, ih⟩ := ih
    have hi : ⟨inlineName owner layers property, element, inner, propertyLocation loc property⟩ ∈
        inlineObjects owner node layers loc := mem_inlineObjects.2 ⟨property, n, mem, ends, rfl, rfl⟩
    exact ⟨propertyLocation loc property, fun e he => ih (objectEntries_subset hi he)⟩

/-- The entries of an object node are those of object nodes. -/
theorem objectNode_of_mem {name : String} {node : Json} {layers : Nat} {loc : Location} {e : Entry}
    (h : ObjectNode components name node layers) (he : e ∈ objectEntries root types name node layers loc) :
    ∃ n inner, ObjectNode components e.name n inner ∧ e.schema = objectSchema root types e.name n inner e.location := by
  induction name, node, layers, loc using objectEntries.induct with
  | case1 name node layers loc ih =>
    rw [objectEntries_eq] at he
    rcases List.mem_cons.1 he with rfl | he
    · exact ⟨node, layers, h, rfl⟩
    · obtain ⟨i, hi, he⟩ := List.mem_flatMap.1 he
      obtain ⟨property, n, hmem, hends, hname, -⟩ := mem_inlineObjects.1 hi
      exact ih i hi (hname ▸ h.inline hmem hends) he

/-! ## Other components -/

/-- What a component that stands for no object refers to: it is a reference itself, or an array of references. -/
inductive ComponentPointsTo (node : Json) : Reference → Prop
  | reference {text : String} {r : Reference} (written : Reference.ofNode? node = some text)
      (parsed : Reference.parse text = some r) : ComponentPointsTo node r
  | references {element : Json} {layers : Nat} {text : String} {r : Reference} (written : Reference.ofNode? node = none)
      (array : node.getStr? "type" = some "array") (ends : ArrayEnd node element layers)
      (inner : Reference.ofNode? element = some text) (points : PointsTo node r) : ComponentPointsTo node r

/-- A schema that depends on what its component refers to, and on nothing else. -/
def DependsOnTarget (root node : Json) (s : Schema) : Prop := Adds root (ComponentPointsTo node) .empty s.dependencies

theorem dependsOnTarget_alias {name text : String} {node : Json} {loc : Location} {s : Schema}
    (written : Reference.ofNode? node = some text) (h : aliasSchema root name node text loc = .ok s) :
    DependsOnTarget root node s := by
  obtain ⟨target, htarget, h⟩ := except_bind_ok h
  cases h
  obtain ⟨r, v, hparse, hfind, rfl⟩ := Reference.targetName_ok.1 htarget
  refine .one (fun r' => ⟨fun hr' => ?_, fun heq => heq ▸ .reference written hparse⟩) hfind .empty
  cases hr' with
  | reference written' hparse' =>
    rw [written] at written'
    cases written'
    rw [hparse] at hparse'
    cases hparse'
    rfl
  | references written' => rw [written] at written'; cases written'

theorem dependsOnTarget_referenceArray {name text : String} {node element : Json} {layers : Nat} {loc : Location}
    {s : Schema} (written : Reference.ofNode? node = none) (array : node.getStr? "type" = some "array")
    (ends : ArrayEnd node element layers) (inner : Reference.ofNode? element = some text)
    (h : referenceArraySchema root name node loc = .ok s) : DependsOnTarget root node s := by
  obtain ⟨target, htarget, h⟩ := except_bind_ok h
  cases h
  refine (chainTarget_adds htarget .empty).congr fun r => ⟨fun hr => ?_, .references written array ends inner⟩
  cases hr with
  | reference written' => rw [written] at written'; cases written'
  | references _ _ _ _ points => exact points

theorem componentEntries_alias {name text : String} {node : Json} (written : Reference.ofNode? node = some text) :
    componentEntries root types name node =
      [⟨name, componentLocation name, aliasSchema root name node text (componentLocation name)⟩] := by
  unfold componentEntries
  simp only [isObj_of_getStr? written, written, Bool.not_true, Bool.false_eq_true, if_false]

theorem arrayEntries_references {name text : String} {node element : Json} {layers : Nat} {loc : Location}
    (hinner : innermost node (componentLocation name) = .ok (element, layers, loc))
    (inner : Reference.ofNode? element = some text) : arrayEntries root types name node =
      [⟨name, componentLocation name, referenceArraySchema root name node (componentLocation name)⟩] := by
  unfold arrayEntries
  simp only [hinner, inner, Option.isSome_some, if_true]

/-- An entry of a component comes from an object node, or depends on what the component refers to. -/
theorem entry_cases {name : String} {node : Json} (mem : (name, node) ∈ components) {e : Entry}
    (he : e ∈ componentEntries root types name node) :
    (∃ n layers, ObjectNode components e.name n layers ∧
      e.schema = objectSchema root types e.name n layers e.location) ∨
    e.name = name ∧ ∀ s, e.schema = .ok s → DependsOnTarget root node s := by
  have fault : ∀ {err : ResolveError}, e ∈ [⟨name, componentLocation name, .error err⟩] →
      e.name = name ∧ ∀ s, e.schema = .ok s → DependsOnTarget root node s := by
    intro err he
    cases List.mem_singleton.1 he
    exact ⟨rfl, fun s hs => by cases hs⟩
  rcases written : Reference.ofNode? node with _ | text
  swap
  · rw [componentEntries_alias written] at he
    cases List.mem_singleton.1 he
    exact .inr ⟨rfl, fun s => dependsOnTarget_alias written⟩
  -- what is no reference and no array refers to nothing
  have plain : (isPrimitive node = false → node.getStr? "type" ≠ some "array") → ∀ r, ¬ ComponentPointsTo node r := by
    intro hplain r hr
    cases hr with
    | reference written' => rw [written] at written'; cases written'
    | references _ array _ _ points => exact hplain (compound_of_pointsTo points) array
  unfold componentEntries at he
  simp only [written] at he
  split at he
  · exact .inr (fault he)
  split at he
  · rename_i primitive
    cases List.mem_singleton.1 he
    refine .inr ⟨rfl, fun s hs => ?_⟩
    cases hs
    exact Adds.none (plain fun compound => absurd (primitive.symm.trans compound) (by decide)) .empty
  rename_i compound
  rw [Bool.not_eq_true] at compound
  split at he
  · rename_i array
    rcases hinner : innermost node (componentLocation name) with err | ⟨element, layers, loc⟩
    · unfold arrayEntries at he
      simp only [hinner] at he
      exact .inr (fault he)
    -- the element takes the place of the component, unless it is a reference
    have ends := arrayEnd_of_innermost hinner
    rcases inner : Reference.ofNode? element with _ | text
    · rcases arrayEntries_element root types hinner inner with ⟨err, herr⟩ | hentries
      · rw [herr] at he
        exact .inr (fault he)
      · rw [hentries] at he
        exact .inl (objectNode_of_mem (.element mem written array compound ends inner) he)
    · rw [arrayEntries_references hinner inner] at he
      cases List.mem_singleton.1 he
      exact .inr ⟨rfl, fun s => dependsOnTarget_referenceArray written array ends inner⟩
  · rename_i object
    exact .inl (objectNode_of_mem (.component mem written object) he)
  · rename_i notArray notObject
    cases List.mem_singleton.1 he
    refine .inr ⟨rfl, fun s hs => ?_⟩
    obtain ⟨token, -, rfl⟩ := except_map_ok hs
    exact Adds.none (plain fun _ array => absurd array notArray) .empty

/-- A component that refers to something has one entry, and that depends on what the component refers to. -/
theorem exists_entry_of_pointsTo (root : Json) (types : TypeTable) (name : String) {node : Json} {r : Reference}
    (h : ComponentPointsTo node r) : ∃ e ∈ componentEntries root types name node,
      e.name = name ∧ ∀ s, e.schema = .ok s → DependsOnTarget root node s := by
  cases h with
  | reference written =>
    rw [componentEntries_alias written]
    exact ⟨_, List.mem_singleton_self _, rfl, fun s => dependsOnTarget_alias written⟩
  | references written array ends inner points =>
    obtain ⟨loc, hinner⟩ := innermost_of_arrayEnd ends (componentLocation name)
    rw [componentEntries_array written array (compound_of_pointsTo points), arrayEntries_references hinner inner]
    exact ⟨_, List.mem_singleton_self _, rfl, fun s =>
      dependsOnTarget_referenceArray written array ends inner⟩

/-- A component has an entry under its own name. -/
theorem exists_entry (root : Json) (types : TypeTable) (name : String) (node : Json) :
    ∃ e ∈ componentEntries root types name node, e.name = name := by
  have first : ∀ schema, ∃ e ∈ [(⟨name, componentLocation name, schema⟩ : Entry)], e.name = name :=
    fun _ => ⟨_, List.mem_singleton_self _, rfl⟩
  have object : ∀ n layers loc, ∃ e ∈ objectEntries root types name n layers loc, e.name = name :=
    fun _ _ _ => ⟨_, objectEntries_self .., rfl⟩
  unfold componentEntries arrayEntries
  simp only
  repeat' split
  all_goals first | exact first _ | exact object ..

end

end ApiScaffold.Schema
