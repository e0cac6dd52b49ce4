/-
Schemas read twice: from two roots in which references name the same nodes, in the words of two languages that are
alike up to a change of words. Both readings fail alike, and what they give differs in that change only (`reworded`).
-/
import ApiScaffold.Proofs.Schema.Dependency
import ApiScaffold.Proofs.Schema.Targets

namespace ApiScaffold

/-! ## Words -/

namespace TypeTable

/-- Two languages with words for the same keys, that are the same once changed by `f`, as are the words put together
from them. -/
structure Alike (f : String → String) (t u : TypeTable) : Prop where
  words : ∀ key, (t.word? key).map f = (u.word? key).map f
  append : ∀ {a a' b b' : String}, f a = f a' → f b = f b' → f (a ++ b) = f (a' ++ b')

theorem Alike.refl (t : TypeTable) : Alike id t t where
  words := fun _ => rfl
  append := fun ha hb => congrArg₂ (· ++ ·) ha hb

/-- Two languages that know the same keys. -/
def SameKeys (t u : TypeTable) : Prop := ∀ key, key ∈ t.keys ↔ key ∈ u.keys

theorem word?_eq_none {t : TypeTable} {key : String} : t.word? key = none ↔ key ∉ t.keys := by
  unfold word? keys
  rw [List.lookup_eq_none_iff, List.mem_map, not_exists]
  refine forall_congr' fun e => ?_
  rw [not_and, bne_iff_ne, ne_comm]

/-- Languages that know the same keys are alike once their words are blotted out. -/
theorem SameKeys.alike {t u : TypeTable} (same : t.SameKeys u) : Alike (fun _ => "") t u where
  words := fun key => by
    have hnone : t.word? key = none ↔ u.word? key = none := by rw [word?_eq_none, word?_eq_none, same key]
    rcases ht : t.word? key with _ | w
    · rw [hnone.1 ht]
    · rcases hu : u.word? key with _ | w'
      · rw [hnone.2 hu] at ht
        cases ht
      · rfl
  append := fun _ _ => rfl

section

variable {f : String → String} {t u : TypeTable} (alike : Alike f t u)

include alike

/-- Both have a word for a key, or neither has one. -/
theorem Alike.word?_cases (key : String) :
    (t.word? key = none ∧ u.word? key = none) ∨ ∃ w w', t.word? key = some w ∧ u.word? key = some w' ∧ f w = f w' := by
  have hwords := alike.words key
  rcases ht : t.word? key with _ | w <;> rcases hu : u.word? key with _ | w' <;> rw [ht, hu] at hwords
  · exact .inl ⟨rfl, rfl⟩
  · cases hwords
  · cases hwords
  · exact .inr ⟨w, w', rfl, rfl, Option.some.inj hwords⟩

theorem Alike.require (key : String) (loc : Location) : AgreeOn f (t.require key loc) (u.require key loc) := by
  unfold TypeTable.require
  obtain ⟨ht, hu⟩ | ⟨w, w', ht, hu, hw⟩ := alike.word?_cases key
  · rw [ht, hu]
    rfl
  · rw [ht, hu]
    exact .ok hw

theorem Alike.arrayOpen (loc : Location) : AgreeOn f (t.arrayOpen loc) (u.arrayOpen loc) :=
  (alike.require "array" loc).bind fun _ _ hname => (alike.require "<" loc).bind fun _ _ hopening =>
    .ok (alike.append hname hopening)

theorem Alike.repeated {w w' : String} (h : f w = f w') (n : Nat) : f (Text.repeated n w) = f (Text.repeated n w') := by
  induction n with
  | zero => rfl
  | succ n ih =>
    rw [Text.repeated_succ, Text.repeated_succ]
    exact alike.append h ih

theorem Alike.closers (depth : Nat) (loc : Location) : AgreeOn f (t.closers depth loc) (u.closers depth loc) := by
  unfold TypeTable.closers
  split
  · rfl
  · exact (alike.require ">" loc).map fun _ _ h => alike.repeated h depth

end

end TypeTable

/-! ## Types of nodes -/

namespace Schema

section

variable {f : String → String} {t u : TypeTable} (alike : t.Alike f u) {root root' : Json}
  (same : root.SameTargets root')

include alike

theorem leafToken_agree (node : Json) (type hint : String) (loc : Location) :
    AgreeOn f (leafToken t node type hint loc) (leafToken u node type hint loc) := by
  unfold leafToken
  split
  · split
    · exact alike.require "object" loc
    · rfl
  rcases node.getStr? "format" with _ | format
  · exact alike.require type loc
  · rw [Option.bind_some, Option.bind_some]
    obtain ⟨ht, hu⟩ | ⟨w, w', ht, hu, hw⟩ := alike.word?_cases format
    · rw [ht, hu]
      exact alike.require type loc
    · rw [ht, hu]
      exact .ok hw

include same

theorem typeToken_agree (node : Json) (hint : String) (depth : Nat) (loc : Location) :
    AgreeOn f (typeToken root t node hint depth loc) (typeToken root' u node hint depth loc) := by
  -- the node is no mapping, a reference, or has a type of its own
  fun_induction typeToken root t node hint depth loc with
  | case1 node depth loc shape =>
    rw [typeToken, if_pos shape]
    rfl
  | case2 node depth loc shape text written =>
    rw [typeToken, if_neg shape, written, Reference.targetName_congr same]
    exact AgreeOn.bind_same fun name => (alike.closers depth loc).bind fun _ _ h => .ok (alike.append rfl h)
  | case3 node depth loc shape written ih =>
    rw [typeToken, if_neg shape, written]
    refine AgreeOn.bind_same fun type => ?_
    split
    · split
      · rfl
      · rename_i items hitems
        exact (ih items hitems).bind fun _ _ hinner => (alike.arrayOpen loc).bind fun _ _ hopening =>
          .ok (alike.append hopening hinner)
    · exact (leafToken_agree alike node type hint loc).bind fun _ _ hword =>
        (alike.closers depth loc).bind fun _ _ h => .ok (alike.append hword h)

theorem schemaToken_agree (entry : Json) (loc : Location) :
    AgreeOn (Option.map f) (schemaToken root t entry loc) (schemaToken root' u entry loc) := by
  unfold schemaToken
  split
  · rfl
  · exact (typeToken_agree alike same ..).map fun _ _ h => congrArg some h

end

end Schema

/-! ## Schemas -/

/-- A property with another word for its type. -/
def Property.reworded (f : String → String) (p : Property) : Property := { p with type := f p.type }

namespace Schema

/-- A schema with other words for types. -/
def reworded (f : String → String) (s : Schema) : Schema :=
  { s with
    properties := s.properties.map (·.reworded f)
    additionalProperties := s.additionalProperties.map f }

theorem reworded_id : reworded id = id := by
  funext s
  unfold reworded Property.reworded
  simp

/-- An entry with other words for types. -/
def Entry.reworded (f : String → String) (e : Entry) : Entry := { e with schema := e.schema.map (·.reworded f) }

/-- Registering takes the words as they come. -/
theorem registerAll_reworded (f : String → String) :
    ∀ (es : List Entry) (m : SortedMap Schema), (registerAll m es).map (·.mapValues (·.reworded f)) =
      registerAll (m.mapValues (·.reworded f)) (es.map (·.reworded f))
  | [], m => rfl
  | e :: es, m => by
    rw [List.map_cons, registerAll_cons, registerAll_cons]
    rcases hs : e.schema with err | s
    · have hreworded : (e.reworded f).schema = .error err := congrArg (Except.map (Schema.reworded f)) hs
      rw [hreworded]
      rfl
    · have hreworded : (e.reworded f).schema = .ok (s.reworded f) := congrArg (Except.map (Schema.reworded f)) hs
      rw [hreworded]
      show Except.map _ (if m.contains e.name = true then _ else _) =
        if (m.mapValues (·.reworded f)).contains e.name = true then _ else _
      -- a name is taken in both maps or in neither
      rw [SortedMap.contains_mapValues]
      split
      · rfl
      · rw [registerAll_reworded f es, SortedMap.mapValues_insert]
        rfl

section

variable {f : String → String} {t u : TypeTable} (alike : t.Alike f u) {root root' : Json}
  (same : root.SameTargets root')

include alike same

theorem readProperty_agree (owner : String) (layers : Nat) (required : List String) (loc : Location)
    (property : String) (n : Json) :
    AgreeOn (fun read => (read.1.reworded f, read.2)) (readProperty root t owner layers required loc property n)
      (readProperty root' u owner layers required loc property n) := by
  refine (typeToken_agree alike same ..).bind fun type type' htype => ?_
  rw [propertyDependencies_congr same]
  refine AgreeOn.bind_same fun names => .ok ?_
  unfold Property.reworded
  simp only [htype]

theorem readAdditional_agree (node : Json) (loc : Location) :
    AgreeOn (fun read => (read.1.map f, read.2)) (readAdditional root t node loc) (readAdditional root' u node loc) := by
  unfold readAdditional
  split
  · refine (typeToken_agree alike same ..).bind fun type type' htype => ?_
    rw [chainTarget_congr same]
    refine AgreeOn.bind_same fun target => .ok ?_
    simp only [Option.map_some, htype]
  · rfl

theorem schemaWith_agree (name : String) (node : Json) (layers : Nat) (loc : Location) (properties : Members) :
    AgreeOn (·.reworded f) (schemaWith root t name node layers loc properties)
      (schemaWith root' u name node layers loc properties) := by
  refine (agreeOn_mapM (fun m => readProperty_agree alike same ..) properties).bind fun read read' hread => ?_
  refine (readAdditional_agree alike same node loc).bind fun a a' ha => .ok ?_
  obtain ⟨hadditional, htarget⟩ := Prod.mk.inj ha
  have hproperties : (read.map (·.1)).map (·.reworded f) = (read'.map (·.1)).map (·.reworded f) := by
    simpa only [List.map_map, Function.comp_def] using congrArg (List.map Prod.fst) hread
  have hnames : read.flatMap (·.2) = read'.flatMap (·.2) := by
    simpa only [List.flatMap_map] using congrArg (List.flatMap Prod.snd) hread
  unfold Schema.reworded
  rw [hproperties, hadditional, hnames, htarget]

theorem objectSchema_agree (name : String) (node : Json) (layers : Nat) (loc : Location) :
    AgreeOn (·.reworded f) (objectSchema root t name node layers loc) (objectSchema root' u name node layers loc) := by
  rw [objectSchema_eq, objectSchema_eq]
  split
  · exact schemaWith_agree alike same ..
  · exact schemaWith_agree alike same ..
  · rfl

theorem reworded_objectEntries (name : String) (node : Json) (layers : Nat) (loc : Location) :
    (objectEntries root t name node layers loc).map (·.reworded f) =
      (objectEntries root' u name node layers loc).map (·.reworded f) := by
  induction name, node, layers, loc using objectEntries.induct with
  | case1 name node layers loc ih =>
    rw [objectEntries_eq, objectEntries_eq, List.map_cons, List.map_cons, List.map_flatMap, List.map_flatMap,
      List.flatMap_congr ih]
    exact congrArg (· :: _) (congrArg (Entry.mk name loc) (objectSchema_agree alike same name node layers loc))

theorem reworded_arrayEntries (name : String) (node : Json) :
    (arrayEntries root t name node).map (·.reworded f) = (arrayEntries root' u name node).map (·.reworded f) := by
  unfold arrayEntries
  simp only
  split
  · rfl
  · rename_i element layers inner _
    split
    · rw [referenceArraySchema_congr same]
    obtain ⟨e, ht, hu⟩ | ⟨token, token', ht, hu, -⟩ := (typeToken_agree alike same element name 0 inner).cases
    · rw [ht, hu]
    · rw [ht, hu]
      exact reworded_objectEntries alike same ..

theorem reworded_componentEntries (name : String) (node : Json) :
    (componentEntries root t name node).map (·.reworded f) =
      (componentEntries root' u name node).map (·.reworded f) := by
  unfold componentEntries
  simp only
  split
  · rfl
  split
  · rw [aliasSchema_congr same]
  split
  · rfl
  split
  · exact reworded_arrayEntries alike same ..
  · exact reworded_objectEntries alike same ..
  · have htype := (typeToken_agree alike same node "" 0 (componentLocation name)).map (k := fun _ => ofNode name node)
      (l := fun _ => ofNode name node) (g := reworded f) fun _ _ _ => rfl
    exact congrArg (fun schema => [Entry.mk name (componentLocation name) schema]) htype

/-- The schemas of components are the same but for the words. -/
theorem flatten_agree (components : Members) :
    AgreeOn (·.mapValues (·.reworded f)) (flatten root t components) (flatten root' u components) := by
  have hentries : (entriesOf root t components).map (·.reworded f) =
      (entriesOf root' u components).map (·.reworded f) := by
    unfold entriesOf
    rw [List.map_flatMap, List.map_flatMap]
    exact List.flatMap_congr fun c _ => reworded_componentEntries alike same c.1 c.2
  unfold AgreeOn
  rw [flatten_eq, flatten_eq, registerAll_reworded, registerAll_reworded, hentries]

omit alike in
/-- In one language the schemas are the same. -/
theorem flatten_congr : flatten root t = flatten root' t := by
  funext components
  refine (flatten_agree (.refl t) same components).eq (funext fun schemas => ?_)
  show schemas.mapValues (reworded id) = schemas
  rw [reworded_id, SortedMap.mapValues_id]

end

end Schema

end ApiScaffold
