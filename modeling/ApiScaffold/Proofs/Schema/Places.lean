/-
Where schemas are written. `ObjectAt` gives the objects of components by their places, a place being the properties
that lead to the object, the innermost first, and the component at the end; `SchemaAt` adds the components that are
no objects. `placesOf` lists the places in the order of the entries that are registered, name by name.
-/
import ApiScaffold.Proofs.Schema.Dependency
import ApiScaffold.Proofs.Schema.Registration

namespace ApiScaffold.Schema

/-! ## Places -/

/-- The objects of components at their places, with their names and the number of arrays around them: component
objects, the elements of array components that are neither references nor primitive, and the objects written inside
the properties of others. -/
inductive ObjectAt (components : Members) : List String → String → Json → Nat → Prop
  | component {name : String} {node : Json} (mem : (name, node) ∈ components)
      (written : Reference.ofNode? node = none) (object : node.getStr? "type" = some "object") :
      ObjectAt components [name] name node 0
  | element {name : String} {node element : Json} {layers : Nat} (mem : (name, node) ∈ components)
      (written : Reference.ofNode? node = none) (array : node.getStr? "type" = some "array")
      (ends : ArrayEnd node element layers) (inner : Reference.ofNode? element = none)
      (compound : ∀ type ∈ primitiveTypes, element.getStr? "type" ≠ some type) :
      ObjectAt components [name] name element layers
  | inline {place : List String} {owner property : String} {node n element : Json} {layers inner : Nat}
      (outer : ObjectAt components place owner node layers) (mem : (property, n) ∈ propertyNodes node)
      (ends : HasInline n element inner) :
      ObjectAt components (property :: place) (inlineName owner layers property) element inner

/-- The places of schemas with their names: every component, and every object. -/
def SchemaAt (components : Members) (place : List String) (name : String) : Prop :=
  (place = [name] ∧ ∃ node, (name, node) ∈ components) ∨ ∃ node layers, ObjectAt components place name node layers

/-- The element at the end of array items is primitive. -/
def PrimitiveEnd (node element : Json) (layers : Nat) : Prop :=
  ArrayEnd node element layers ∧ Reference.ofNode? element = none ∧
    ∃ type ∈ primitiveTypes, element.getStr? "type" = some type

/-- An array of primitive elements has no reference on the way to them. -/
def Straight (node : Json) : Prop := ∀ {element layers}, PrimitiveEnd node element layers → ItemsTo node element layers

/-- No array component has a reference on the way to primitive elements. -/
def StraightArrays (components : Members) : Prop :=
  ∀ {name node}, (name, node) ∈ components → Reference.ofNode? node = none → Straight node

theorem ObjectAt.place_ne_nil {components : Members} {place : List String} {name : String} {node : Json} {layers : Nat}
    (h : ObjectAt components place name node layers) : place ≠ [] := by
  cases h <;> exact List.cons_ne_nil _ _

theorem ObjectAt.name_of_single {components : Members} {c name : String} {node : Json} {layers : Nat}
    (h : ObjectAt components [c] name node layers) : name = c := by
  cases h with
  | component => rfl
  | element => rfl
  | inline outer => exact absurd rfl outer.place_ne_nil

/-! ## Places in order -/

/-- An object or component at its place. -/
structure Placed where
  place : List String
  name : String
  node : Json
  layers : Nat

/-- An object written inside a property of another. -/
def Placed.inside (p : Placed) (property : String) (i : Json × Nat) : Placed :=
  ⟨property :: p.place, inlineName p.name p.layers property, i.1, i.2⟩

/-- The objects written directly inside the properties of an object, in order. -/
def placedInside (p : Placed) : List Placed :=
  (propertyNodes p.node).filterMap fun m => (inlineObject? m.2).map (p.inside m.1)

theorem mem_placedInside {p q : Placed} : q ∈ placedInside p ↔ ∃ property n, (property, n) ∈ propertyNodes p.node ∧
    HasInline n q.node q.layers ∧ q.place = property :: p.place ∧ q.name = inlineName p.name p.layers property := by
  unfold placedInside Placed.inside
  simp only [List.mem_filterMap, Option.map_eq_some_iff, Prod.exists, inlineObject?_eq_some]
  constructor
  · rintro ⟨property, n, hmem, element, inner, hends, rfl⟩
    exact ⟨property, n, hmem, hends, rfl, rfl⟩
  · rintro ⟨property, n, hmem, hends, hplace, hname⟩
    refine ⟨property, n, hmem, q.node, q.layers, hends, ?_⟩
    rw [← hplace, ← hname]

theorem sizeOf_placedInside_lt {p q : Placed} (h : q ∈ placedInside p) : sizeOf q.node < sizeOf p.node := by
  obtain ⟨property, n, hmem, hends, -, -⟩ := mem_placedInside.1 h
  exact sizeOf_inlineObjects_lt (mem_inlineObjects (i := ⟨inlineName p.name p.layers property, q.node, q.layers,
    propertyLocation "" property⟩).2 ⟨property, n, hmem, hends, rfl, rfl⟩)

/-- An object and the objects inside it, in preorder. -/
def placesFrom (p : Placed) : List Placed :=
  p :: (placedInside p).attach.flatMap fun ⟨q, _⟩ => placesFrom q
termination_by sizeOf p.node
decreasing_by exact sizeOf_placedInside_lt (by assumption)

theorem placesFrom_eq (p : Placed) : placesFrom p = p :: (placedInside p).flatMap placesFrom := by
  rw [placesFrom]
  simp

theorem mem_placesFrom_self (p : Placed) : p ∈ placesFrom p := by
  rw [placesFrom_eq]
  exact List.mem_cons_self ..

theorem mem_placesFrom_inside {p q r : Placed} (hq : q ∈ placesFrom p) (hr : r ∈ placedInside q) :
    r ∈ placesFrom p := by
  induction p using placesFrom.induct with
  | case1 p ih =>
    rw [placesFrom_eq] at hq ⊢
    refine List.mem_cons_of_mem _ (List.mem_flatMap.2 ?_)
    rcases List.mem_cons.1 hq with rfl | hq
    · exact ⟨r, hr, mem_placesFrom_self r⟩
    · obtain ⟨p', hp', hq⟩ := List.mem_flatMap.1 hq
      exact ⟨p', hp', ih p' hp' hq⟩

section

variable {root : Json} {types : TypeTable}

/-- The places of an object and of those inside it have the names of its entries, one by one. -/
theorem names_placesFrom (p : Placed) (loc : Location) :
    (placesFrom p).map (·.name) = (objectEntries root types p.name p.node p.layers loc).map (·.name) := by
  induction p using placesFrom.induct generalizing loc with
  | case1 p ih =>
    rw [placesFrom_eq, objectEntries_eq, List.map_cons, List.map_cons, List.map_flatMap, List.map_flatMap]
    refine congrArg (p.name :: ·) ?_
    -- both lists go through the properties, and take something where an object is written inside
    let written (m : String × Json) (i : Json × Nat) : Inline :=
      ⟨inlineName p.name p.layers m.1, i.1, i.2, propertyLocation loc m.1⟩
    have hplaced : placedInside p =
        (propertyNodes p.node).flatMap fun m => ((inlineObject? m.2).map (p.inside m.1)).toList :=
      List.filterMap_eq_flatMap_toList ..
    have hwritten : inlineObjects p.name p.node p.layers loc =
        (propertyNodes p.node).flatMap fun m => ((inlineObject? m.2).map (written m)).toList :=
      List.filterMap_eq_flatMap_toList ..
    rw [hplaced, hwritten, List.flatMap_assoc, List.flatMap_assoc]
    refine List.flatMap_congr fun m hm => ?_
    rcases hi : inlineObject? m.2 with _ | i
    · rfl
    · have hinside : p.inside m.1 i ∈ placedInside p :=
        mem_placedInside.2 ⟨m.1, m.2, hm, inlineObject?_eq_some.1 hi, rfl, rfl⟩
      simp only [Option.map_some, Option.toList_some, List.flatMap_singleton]
      exact ih _ hinside (propertyLocation loc m.1)

/-! ## The objects that components stand for -/

/-- What is flattened as an array is an array of elements that are not primitive. -/
theorem compound_iff {node element : Json} {layers : Nat} (straight : Straight node)
    (ends : ArrayEnd node element layers) (plain : Reference.ofNode? element = none) :
    isPrimitive node = false ↔ ∀ type ∈ primitiveTypes, element.getStr? "type" ≠ some type := by
  constructor
  · intro compound type primitive typed
    have hchain := straight ⟨ends, plain, type, primitive, typed⟩
    rw [isPrimitive_of_itemsTo hchain plain typed primitive] at compound
    cases compound
  · intro compound
    rw [← Bool.not_eq_true]
    intro primitive
    obtain ⟨-, type, htype, typed⟩ := itemsTo_of_isPrimitive primitive ends
    exact compound type htype typed

/-- The object that a component stands for, with the number of arrays around it. -/
def componentObject? (node : Json) : Option (Json × Nat) :=
  if (Reference.ofNode? node).isSome || isPrimitive node then none
  else match node.getStr? "type" with
    | some "object" => some (node, 0)
    | some "array" =>
      match innermost node "" with
      | .ok (element, layers, _) => if (Reference.ofNode? element).isSome then none else some (element, layers)
      | .error _ => none
    | _ => none

theorem componentObject?_eq_some {node element : Json} {layers : Nat} :
    componentObject? node = some (element, layers) ↔ Reference.ofNode? node = none ∧ isPrimitive node = false ∧
      (node.getStr? "type" = some "object" ∧ node = element ∧ 0 = layers ∨
        node.getStr? "type" = some "array" ∧ ArrayEnd node element layers ∧ Reference.ofNode? element = none) := by
  unfold componentObject?
  rcases written : Reference.ofNode? node with _ | text
  swap
  · simp
  rcases primitive : isPrimitive node
  swap
  · simp
  simp only [Option.isSome_none, Bool.or_self, Bool.false_eq_true, if_false, true_and]
  split
  · rename_i object
    simp [object]
  · rename_i array
    simp only [array, Option.some.injEq, String.reduceEq, false_and, true_and, false_or]
    constructor
    · intro h
      split at h
      · rename_i hinner
        split at h
        · cases h
        · rename_i plain
          cases h
          exact ⟨arrayEnd_of_innermost hinner, Option.not_isSome_iff_eq_none.1 plain⟩
      · cases h
    · rintro ⟨ends, plain⟩
      obtain ⟨loc, hinner⟩ := innermost_of_arrayEnd ends ""
      simp [hinner, plain]
  · rename_i notObject notArray
    refine iff_of_false (by simp) ?_
    rintro (⟨object, -⟩ | ⟨array, -⟩)
    · exact notObject object
    · exact notArray array

theorem componentObject?_of_object {node : Json} (written : Reference.ofNode? node = none)
    (object : node.getStr? "type" = some "object") : componentObject? node = some (node, 0) :=
  componentObject?_eq_some.2 ⟨written, compound_of_object written object, .inl ⟨object, rfl, rfl⟩⟩

/-- A component that stands for an object has the entries of that. -/
theorem componentEntries_of_object {name : String} {node element : Json} {layers : Nat}
    (ok : ∀ e ∈ componentEntries root types name node, ∃ s, e.schema = .ok s)
    (h : componentObject? node = some (element, layers)) :
    ∃ loc, componentEntries root types name node = objectEntries root types name element layers loc := by
  obtain ⟨written, compound, ⟨object, rfl, rfl⟩ | ⟨array, ends, plain⟩⟩ := componentObject?_eq_some.1 h
  · exact ⟨_, componentEntries_object written object⟩
  · exact componentEntries_element ok written array compound ends plain

/-- Any other component has one entry. -/
theorem componentEntries_of_bare {name : String} {node : Json} (h : componentObject? node = none) :
    (componentEntries root types name node).map (·.name) = [name] := by
  have bare : ∀ {element layers}, componentObject? node ≠ some (element, layers) := fun hsome => by
    rw [h] at hsome
    cases hsome
  rcases written : Reference.ofNode? node with _ | text
  swap
  · rw [componentEntries_alias written]
    rfl
  unfold componentEntries
  simp only [written]
  split
  · rfl
  split
  · rfl
  rename_i compound
  rw [Bool.not_eq_true] at compound
  split
  · rename_i array
    unfold arrayEntries
    simp only
    split
    · rfl
    · rename_i hinner
      split
      · rfl
      · rename_i plain
        exact absurd (componentObject?_eq_some.2 ⟨written, compound, .inr ⟨array, arrayEnd_of_innermost hinner,
          Option.not_isSome_iff_eq_none.1 plain⟩⟩) bare
  · rename_i object
    exact absurd (componentObject?_eq_some.2 ⟨written, compound, .inl ⟨object, rfl, rfl⟩⟩) bare
  · rfl

/-- The place of a component, and of the objects inside it. -/
def componentPlaces (name : String) (node : Json) : List Placed :=
  match componentObject? node with
  | some (element, layers) => placesFrom ⟨[name], name, element, layers⟩
  | none => [⟨[name], name, node, 0⟩]

/-- The places of all components, in order. -/
def placesOf (components : Members) : List Placed := components.flatMap fun c => componentPlaces c.1 c.2

theorem names_placesOf {components : Members}
    (ok : ∀ e ∈ entriesOf root types components, ∃ s, e.schema = .ok s) :
    (placesOf components).map (·.name) = (entriesOf root types components).map (·.name) := by
  unfold placesOf entriesOf at *
  rw [List.map_flatMap, List.map_flatMap]
  refine List.flatMap_congr fun c hc => ?_
  have hok : ∀ e ∈ componentEntries root types c.1 c.2, ∃ s, e.schema = .ok s :=
    fun e he => ok e (List.mem_flatMap.2 ⟨c, hc, he⟩)
  unfold componentPlaces
  rcases hobject : componentObject? c.2 with _ | ⟨element, layers⟩
  · exact (componentEntries_of_bare hobject).symm
  · obtain ⟨loc, hentries⟩ := componentEntries_of_object hok hobject
    rw [hentries]
    exact names_placesFrom ⟨[c.1], c.1, element, layers⟩ loc

section

variable {components : Members} (straight : StraightArrays components)

include straight

theorem objectAt_of_componentObject? {name : String} {node element : Json} {layers : Nat}
    (mem : (name, node) ∈ components) (h : componentObject? node = some (element, layers)) :
    ObjectAt components [name] name element layers := by
  obtain ⟨written, compound, ⟨object, rfl, rfl⟩ | ⟨array, ends, plain⟩⟩ := componentObject?_eq_some.1 h
  · exact .component mem written object
  · exact .element mem written array ends plain ((compound_iff (straight mem written) ends plain).1 compound)

/-- Every object is below a component that stands for one. -/
theorem exists_componentObject {place : List String} {name : String} {node : Json} {layers : Nat}
    (h : ObjectAt components place name node layers) : ∃ c ∈ components, ∃ element l,
      componentObject? c.2 = some (element, l) ∧ ⟨place, name, node, layers⟩ ∈ placesFrom ⟨[c.1], c.1, element, l⟩ := by
  induction h with
  | @component name node mem written object =>
    exact ⟨_, mem, node, 0, componentObject?_of_object written object, mem_placesFrom_self _⟩
  | @element name node element layers mem written array ends plain compound =>
    have hcompound := (compound_iff (straight mem written) ends plain).2 compound
    exact ⟨_, mem, element, layers, componentObject?_eq_some.2 ⟨written, hcompound, .inr ⟨array, ends, plain⟩⟩,
      mem_placesFrom_self _⟩
  | inline _ mem ends ih =>
    obtain ⟨c, hc, element, l, hobject, hplace⟩ := ih
    exact ⟨c, hc, element, l, hobject,
      mem_placesFrom_inside hplace (mem_placedInside.2 ⟨_, _, mem, ends, rfl, rfl⟩)⟩

theorem mem_placesOf {place : List String} {name : String} {node : Json} {layers : Nat}
    (h : ObjectAt components place name node layers) : ⟨place, name, node, layers⟩ ∈ placesOf components := by
  obtain ⟨c, hc, element, l, hobject, hplace⟩ := exists_componentObject straight h
  refine List.mem_flatMap.2 ⟨c, hc, ?_⟩
  unfold componentPlaces
  rw [hobject]
  exact hplace

omit straight in
theorem objectAt_of_mem {p q : Placed} (hp : ObjectAt components p.place p.name p.node p.layers)
    (hq : q ∈ placesFrom p) : ObjectAt components q.place q.name q.node q.layers := by
  induction p using placesFrom.induct with
  | case1 p ih =>
    rw [placesFrom_eq] at hq
    rcases List.mem_cons.1 hq with rfl | hq
    · exact hp
    · obtain ⟨r, hr, hq⟩ := List.mem_flatMap.1 hq
      obtain ⟨property, n, hmem, hends, hplace, hname⟩ := mem_placedInside.1 hr
      refine ih r hr ?_ hq
      rw [hplace, hname]
      exact hp.inline hmem hends

/-- The places that were listed are those of schemas. -/
theorem schemaAt_iff {place : List String} {name : String} :
    SchemaAt components place name ↔ ∃ p ∈ placesOf components, p.place = place ∧ p.name = name := by
  constructor
  · rintro (⟨rfl, node, mem⟩ | ⟨node, layers, object⟩)
    · have hfirst : ∃ p ∈ componentPlaces name node, p.place = [name] ∧ p.name = name := by
        unfold componentPlaces
        rcases componentObject? node with _ | ⟨element, layers⟩
        · exact ⟨_, List.mem_singleton_self _, rfl, rfl⟩
        · exact ⟨_, mem_placesFrom_self _, rfl, rfl⟩
      obtain ⟨p, hp, hplace⟩ := hfirst
      exact ⟨p, List.mem_flatMap.2 ⟨_, mem, hp⟩, hplace⟩
    · exact ⟨_, mem_placesOf straight object, rfl, rfl⟩
  · rintro ⟨p, hp, rfl, rfl⟩
    obtain ⟨c, hc, hp⟩ := List.mem_flatMap.1 hp
    unfold componentPlaces at hp
    rcases hobject : componentObject? c.2 with _ | ⟨element, layers⟩ <;> rw [hobject] at hp
    · cases List.mem_singleton.1 hp
      exact .inl ⟨rfl, c.2, hc⟩
    · exact .inr ⟨p.node, p.layers, objectAt_of_mem (objectAt_of_componentObject? straight hc hobject) hp⟩

theorem ObjectAt.objectNode {place : List String} {name : String} {node : Json} {layers : Nat}
    (h : ObjectAt components place name node layers) : ObjectNode components name node layers := by
  induction h with
  | component mem written object => exact .component mem written object
  | element mem written array ends plain compound =>
    exact .element mem written array ((compound_iff (straight mem written) ends plain).2 compound) ends plain
  | inline _ mem ends ih => exact ih.inline mem ends

end

end

end ApiScaffold.Schema
