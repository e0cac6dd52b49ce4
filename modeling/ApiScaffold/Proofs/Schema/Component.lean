/-
What registering one component comes to, whether or not it succeeds. The component and the objects inside it are
registered in preorder up to the first that is at fault. So what was registered before stays, and the new names are the
first of those in preorder, all of them just when it succeeds (`addComponent_effect`).
-/
import ApiScaffold.Proofs.Schema.Places

namespace ApiScaffold.Schema

/-! ## Registering up to a fault -/

/-- An entry that cannot be registered, with the error that this gives. -/
inductive Faulty (schemas : SortedMap Schema) (e : Entry) : ResolveError → Prop
  | schema {err : ResolveError} (h : e.schema = .error err) : Faulty schemas e err
  | taken {s : Schema} (h : e.schema = .ok s) (taken : schemas.contains e.name = true) :
      Faulty schemas e (.duplicateSchema e.name e.location)

/-- What registering entries does: all of them are registered, or those before one that is at fault. -/
inductive RegisterSpec (before : SortedMap Schema) (es : List Entry) :
    SortedMap Schema × Except ResolveError Unit → Prop
  | all {after : SortedMap Schema} (h : registerAll before es = .ok after) : RegisterSpec before es (after, .ok ())
  | part {done rest : List Entry} {e : Entry} {after : SortedMap Schema} {err : ResolveError}
      (split : es = done ++ e :: rest) (h : registerAll before done = .ok after) (fault : Faulty after e err) :
      RegisterSpec before es (after, .error err)

theorem register_spec : ∀ (es : List Entry) (before : SortedMap Schema), RegisterSpec before es (register before es)
  | [], _ => .all rfl
  | e :: es, before => by
    unfold register
    rcases hs : e.schema with err | s
    · exact .part (List.nil_append _).symm rfl (.schema hs)
    simp only
    by_cases htaken : before.contains e.name = true
    · rw [if_pos htaken]
      exact .part (List.nil_append _).symm rfl (.taken hs htaken)
    rw [if_neg htaken]
    have hfirst : ∀ {done : List Entry} {after : SortedMap Schema},
        registerAll (before.insert e.name s) done = .ok after → registerAll before (e :: done) = .ok after := by
      intro done after h
      rw [registerAll_cons, hs]
      exact (if_neg htaken).trans h
    have ih := register_spec es (before.insert e.name s)
    generalize register (before.insert e.name s) es = r at ih ⊢
    cases ih with
    | all h => exact .all (hfirst h)
    | part split h fault =>
      subst split
      exact .part (List.cons_append ..).symm (hfirst h) fault

/-- A name that is in the second registry only. -/
def NewName (before after : SortedMap Schema) (name : String) : Prop :=
  after.contains name = true ∧ before.contains name = false

/-- The new names are those of the entries that were registered. -/
theorem newName_iff {es : List Entry} {before after : SortedMap Schema} (h : registerAll before es = .ok after)
    {name : String} : NewName before after name ↔ name ∈ es.map (·.name) := by
  have hreg := registerAll_registered h
  constructor
  · rintro ⟨hafter, hbefore⟩
    obtain ⟨s, hs⟩ := SortedMap.contains_iff.1 hafter
    rcases hreg.source hs with hold | ⟨e, he, rfl, -⟩
    · exact absurd hold (SortedMap.get?_ne_of_free hbefore)
    · exact List.mem_map_of_mem he
  · intro hname
    obtain ⟨e, he, rfl⟩ := List.mem_map.1 hname
    obtain ⟨s, -, hget⟩ := hreg.entry e he
    exact ⟨SortedMap.contains_iff.2 ⟨s, hget⟩, (names_of_registerAll h).2 e he⟩

/-! ## One component -/

/-- The names of a component and of the objects inside it, in preorder: each object comes before those written inside
its properties, and these come in the order of the properties. -/
def componentNames (name : String) (node : Json) : List String := (componentPlaces name node).map (·.name)

section

variable {root : Json} {types : TypeTable} {name : String} {node : Json}

theorem head_componentNames (name : String) (node : Json) : (componentNames name node)[0]? = some name := by
  unfold componentNames componentPlaces
  rcases componentObject? node with _ | ⟨element, layers⟩
  · rfl
  · simp only [placesFrom_eq]
    rfl

/-- The objects inside an object node of a component are object nodes. -/
theorem objectNode_of_mem_placesFrom {components : Members} {p q : Placed}
    (hp : ObjectNode components p.name p.node p.layers) (hq : q ∈ placesFrom p) :
    ObjectNode components q.name q.node q.layers := by
  induction p using placesFrom.induct with
  | case1 p ih =>
    rw [placesFrom_eq] at hq
    rcases List.mem_cons.1 hq with rfl | hq
    · exact hp
    · obtain ⟨r, hr, hq⟩ := List.mem_flatMap.1 hq
      obtain ⟨property, n, hmem, hends, -, hname⟩ := mem_placedInside.1 hr
      exact ih r hr (hname ▸ hp.inline hmem hends) hq

/-- What is reached from a component is inside the object that it stands for. -/
theorem exists_place {n : String} {inner : Json} {layers : Nat} (h : ObjectNode [(name, node)] n inner layers) :
    ∃ element l, componentObject? node = some (element, l) ∧
      ∃ place, ⟨place, n, inner, layers⟩ ∈ placesFrom ⟨[name], name, element, l⟩ := by
  induction h with
  | component mem written object =>
    cases List.mem_singleton.1 mem
    exact ⟨node, 0, componentObject?_of_object written object, _, mem_placesFrom_self _⟩
  | @element _ _ element layers mem written array compound ends plain =>
    cases List.mem_singleton.1 mem
    exact ⟨element, layers, componentObject?_eq_some.2 ⟨written, compound, .inr ⟨array, ends, plain⟩⟩, _,
      mem_placesFrom_self _⟩
  | @inline owner property outer n element layers inner _ mem ends ih =>
    obtain ⟨start, l, hobject, place, hplace⟩ := ih
    exact ⟨start, l, hobject, _, mem_placesFrom_inside hplace (mem_placedInside.2 ⟨property, n, mem, ends, rfl, rfl⟩)⟩

/-- The names are that of the component and those of the objects that are reached from it. -/
theorem mem_componentNames {n : String} :
    n ∈ componentNames name node ↔ n = name ∨ ∃ inner layers, ObjectNode [(name, node)] n inner layers := by
  unfold componentNames
  rw [List.mem_map]
  constructor
  · rintro ⟨p, hp, rfl⟩
    unfold componentPlaces at hp
    rcases hobject : componentObject? node with _ | ⟨element, layers⟩ <;> rw [hobject] at hp
    · cases List.mem_singleton.1 hp
      exact .inl rfl
    · have hstart : ObjectNode [(name, node)] name element layers := by
        obtain ⟨written, compound, ⟨object, rfl, rfl⟩ | ⟨array, ends, plain⟩⟩ := componentObject?_eq_some.1 hobject
        · exact .component (List.mem_singleton_self _) written object
        · exact .element (List.mem_singleton_self _) written array compound ends plain
      exact .inr ⟨p.node, p.layers, objectNode_of_mem_placesFrom (p := ⟨[name], name, element, layers⟩) hstart hp⟩
  · rintro (rfl | ⟨inner, layers, hreached⟩)
    · obtain ⟨p, hp, hname⟩ := List.mem_map.1 (List.mem_of_getElem? (head_componentNames n node))
      exact ⟨p, hp, hname⟩
    · obtain ⟨element, l, hobject, place, hplace⟩ := exists_place hreached
      unfold componentPlaces
      rw [hobject]
      exact ⟨_, hplace, rfl⟩

/-- The entries of a component have these names, unless the component itself is at fault. -/
theorem names_componentEntries (root : Json) (types : TypeTable) (name : String) (node : Json) :
    (componentEntries root types name node).map (·.name) = componentNames name node ∨
      ∃ err, componentEntries root types name node = [⟨name, componentLocation name, .error err⟩] := by
  unfold componentNames componentPlaces
  rcases hobject : componentObject? node with _ | ⟨element, layers⟩
  · exact .inl (componentEntries_of_bare hobject)
  · obtain ⟨written, compound, ⟨object, rfl, rfl⟩ | ⟨array, ends, plain⟩⟩ := componentObject?_eq_some.1 hobject
    · rw [componentEntries_object written object]
      exact .inl (names_placesFrom ⟨[name], name, node, 0⟩ _).symm
    · have hcases := componentEntries_element_cases root types name written array compound ends plain
      rcases hcases with herr | ⟨loc, hentries⟩
      · exact .inr herr
      · rw [hentries]
        exact .inl (names_placesFrom ⟨[name], name, element, layers⟩ loc).symm

/-- The names of the first entries are the first names. -/
theorem names_split {done rest : List Entry} {e : Entry}
    (split : componentEntries root types name node = done ++ e :: rest) :
    (componentNames name node).take done.length = done.map (·.name) ∧
      (componentNames name node)[done.length]? = some e.name := by
  rcases names_componentEntries root types name node with hnames | ⟨err, herr⟩
  · rw [← hnames, split]
    simp
  · -- a component that is at fault itself has no other entry
    rw [herr] at split
    cases done with
    | nil =>
      obtain rfl : _ = e := (List.cons.inj split).1
      exact ⟨rfl, head_componentNames name node⟩
    | cons _ done => simp at split

/-- What adding a component does to the schemas. -/
structure ComponentEffect (root : Json) (types : TypeTable) (before : SortedMap Schema) (name : String) (node : Json)
    (after : SortedMap Schema) (result : Except ResolveError Unit) : Prop where
  /-- The names to be registered are those of the component and of the objects that are reached from it. -/
  names : ∀ n, n ∈ componentNames name node ↔ n = name ∨ ∃ inner layers, ObjectNode [(name, node)] n inner layers
  kept : ∀ {n s}, before.get? n = some s → after.get? n = some s
  /-- Each new name has the schema of an entry of the component. -/
  entry : ∀ {n}, NewName before after n →
    ∃ e ∈ componentEntries root types name node, e.name = n ∧ ∃ s, e.schema = .ok s ∧ after.get? n = some s
  all : result = .ok () → (componentNames name node).Nodup ∧
    ∀ n, NewName before after n ↔ n ∈ componentNames name node
  /-- On a failure the new names are those before the name of the entry at fault. -/
  part : ∀ {err}, result = .error err → ∃ k < (componentNames name node).length,
    ((componentNames name node).take k).Nodup ∧
    (∀ n, NewName before after n ↔ n ∈ (componentNames name node).take k) ∧
    ∃ e, (componentEntries root types name node)[k]? = some e ∧ (componentNames name node)[k]? = some e.name ∧
      Faulty after e err

/-- A component is added in preorder, up to the first object that is at fault. -/
theorem addComponent_effect (root : Json) (types : TypeTable) (before : SortedMap Schema) (name : String)
    (node : Json) : ComponentEffect root types before name node (addComponent root types before name node).1
      (addComponent root types before name node).2 := by
  have entry : ∀ {done : List Entry} {after : SortedMap Schema}, registerAll before done = .ok after →
      done ⊆ componentEntries root types name node → ∀ {n}, NewName before after n →
      ∃ e ∈ componentEntries root types name node, e.name = n ∧ ∃ s, e.schema = .ok s ∧ after.get? n = some s := by
    intro done after h hsub n hnew
    obtain ⟨e, he, rfl⟩ := List.mem_map.1 ((newName_iff h).1 hnew)
    exact ⟨e, hsub he, rfl, (registerAll_registered h).entry e he⟩
  unfold addComponent
  have hs := register_spec (componentEntries root types name node) before
  generalize register before (componentEntries root types name node) = r at hs ⊢
  cases hs with
  | @all after h =>
    refine ⟨fun _ => mem_componentNames, (registerAll_registered h).kept, entry h (List.Subset.refl _), fun _ => ?_,
      fun hr => by cases hr⟩
    rcases names_componentEntries root types name node with hnames | ⟨err, herr⟩
    · rw [← hnames]
      exact ⟨(names_of_registerAll h).1, fun n => newName_iff h⟩
    · rw [herr, registerAll_cons] at h
      cases h
  | @part done rest e after err split h fault =>
    have hsub : done ⊆ componentEntries root types name node := by
      rw [split]
      exact List.subset_append_left ..
    refine ⟨fun _ => mem_componentNames, (registerAll_registered h).kept, entry h hsub, (fun hr => by cases hr),
      fun hr => ?_⟩
    cases hr
    -- as many names are new as entries were registered
    obtain ⟨hfirst, hnext⟩ := names_split split
    have hentry : (componentEntries root types name node)[done.length]? = some e := by
      rw [split, List.getElem?_append_right (Nat.le_refl _), Nat.sub_self, List.getElem?_cons_zero]
    refine ⟨done.length, (List.getElem?_eq_some_iff.1 hnext).1, ?_, ?_, e, hentry, hnext, fault⟩
    · rw [hfirst]
      exact (names_of_registerAll h).1
    · rw [hfirst]
      exact fun n => newName_iff h

/-- The properties of the second object inside this one are no mapping, so the third is not registered either. -/
example :
    let object (properties : Json) : Json := .obj [("type", .str "object"), ("properties", properties)]
    let pet := object (.obj [("home", object (.obj [])), ("owner", object .null), ("vet", object (.obj []))])
    componentNames "Pet" pet = ["Pet", "PetHome", "PetOwner", "PetVet"] ∧
      (addComponent .null ⟨[]⟩ .empty "Pet" pet).1.keys = ["Pet", "PetHome"] := by
  decide +kernel

end

end ApiScaffold.Schema
