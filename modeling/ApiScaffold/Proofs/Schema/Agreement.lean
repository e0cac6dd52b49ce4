/-
Three walks go down the same chain: for the type of a node, for the schema that it depends on, and for an object that
is written there. They end at the same leaf and agree on what they find there (`Agree`). So a property has the type of
a schema that its owner depends on, or of the object written inside it under the name that the object is registered
under, or a word of the language.
-/
import ApiScaffold.Proofs.Schema.Flattening
import ApiScaffold.Proofs.Schema.Token

namespace ApiScaffold.Schema

/-! ## One chain, one leaf -/

section

variable {node leaf : Json} {layers : Nat}

/-- The walk for a dependency looks at the leaf. -/
theorem chainTarget_of_endsIn (root : Json) (ends : EndsIn node leaf layers) (loc : Location) :
    chainTarget root node loc =
    match Reference.ofNode? leaf with
    | some text => (Reference.targetName root text loc).map some
    | none => .ok none := by
  rcases chainTarget_cases root node loc with ⟨text, only, heq⟩ | ⟨never, heq⟩
  · rw [heq, (refers_of_endsIn ends).1 ((only text).2 rfl)]
  · rcases written : Reference.ofNode? leaf with _ | text
    · exact heq
    · exact absurd ((refers_of_endsIn ends).2 written) (never text)

/-- The walk for an inline object looks at the leaf. -/
theorem inlineObject?_of_endsIn (ends : EndsIn node leaf layers) : inlineObject? node =
    if Reference.ofNode? leaf = none ∧ leaf.getStr? "type" = some "object" then some (leaf, layers) else none := by
  refine Option.ext fun ⟨element, inner⟩ => ?_
  rw [inlineObject?_eq_some, hasInline_of_endsIn ends]
  split
  · rename_i object
    simp [object]
  · rename_i notObject
    simp [notObject]

end

/-! ## What is found there -/

/-- What the walks find at the leaf of a node that has this type: the schema that the node depends on, and the object
that is written there. -/
inductive Agree (root : Json) (types : TypeTable) (hint : String) (node : Json) (token : String) :
    Option String → Option (Json × Nat) → Prop
  | reference {leaf v : Json} {layers : Nat} {text : String} {r : Reference} (ends : EndsIn node leaf layers)
      (written : Reference.ofNode? leaf = some text) (parsed : Reference.parse text = some r)
      (found : r.find? root = some v) (wrapped : types.Wrapped layers 0 r.name token) :
      Agree root types hint node token (some r.name) none
  | inline {leaf : Json} {layers : Nat} (ends : EndsIn node leaf layers) (written : Reference.ofNode? leaf = none)
      (object : leaf.getStr? "type" = some "object") (wrapped : types.Wrapped layers 0 hint token) :
      Agree root types hint node token none (some (leaf, layers))
  | scalar {leaf : Json} {layers : Nat} {type word : String} (ends : EndsIn node leaf layers)
      (written : Reference.ofNode? leaf = none) (typed : leaf.getStr? "type" = some type) (notObject : type ≠ "object")
      (notArray : type ≠ "array") (known : scalarWord? types leaf type = some word)
      (wrapped : types.Wrapped layers 0 word token) : Agree root types hint node token none none

/-- A node with a type is taken for the same thing by all walks, if what is written there has a name. -/
theorem agree_of_token {root node : Json} {types : TypeTable} {hint token : String} {loc : Location}
    (h : typeToken root types node hint 0 loc = .ok token) (named : hint = "" → inlineObject? node = none) :
    ∃ target, (∀ place, chainTarget root node place = .ok target) ∧
      Agree root types hint node token target (inlineObject? node) := by
  obtain ⟨leaf, layers, ends⟩ := exists_endsIn node
  have hspelled : Spelled root types hint node leaf layers 0 loc _ := spelled_of_endsIn ends 0 loc
  have htarget := chainTarget_of_endsIn root ends
  have hinline := inlineObject?_of_endsIn ends
  rw [h] at hspelled
  cases hspelled with
  | token found wrapped =>
    cases found with
    | @reference text r v written parsed found =>
      refine ⟨some r.name, fun place => ?_, ?_⟩
      · have hname : Reference.targetName root text place = .ok r.name :=
          Reference.targetName_ok.2 ⟨r, v, parsed, found, rfl⟩
        simp only [htarget, written, hname]
        rfl
      · rw [hinline, if_neg fun hno => by rw [hno.1] at written; cases written]
        exact .reference ends written parsed found wrapped
    | hinted written object =>
      refine ⟨none, fun place => by rw [htarget, written], ?_⟩
      rw [hinline, if_pos ⟨written, object⟩]
      exact .inline ends written object wrapped
    | free written object nameless =>
      rw [named nameless, if_pos ⟨written, object⟩] at hinline
      cases hinline
    | @scalar type word written typed notObject notArray known =>
      refine ⟨none, fun place => by rw [htarget, written], ?_⟩
      rw [hinline, if_neg fun hno => notObject (Option.some.inj (typed.symm.trans hno.2))]
      exact .scalar ends written typed notObject notArray known wrapped

/-! ## Properties -/

/-- A property of a registered schema against the node that it was read from. The walks agree on its type, and the
schema depends on what they find. An object that is written there is registered under the name that the type has. -/
structure PropertyAgrees (root : Json) (types : TypeTable) (schemas : SortedMap Schema) (owner : String) (s : Schema)
    (layers : Nat) (m : String × Json) (p : Property) : Prop where
  name : p.name = m.1
  agree : ∃ target, (∀ place, chainTarget root m.2 place = .ok target) ∧
    Agree root types (inlineName owner layers m.1) m.2 p.type target (inlineObject? m.2) ∧
    ∀ d, target = some d → d ∈ s.dependencies
  child : ∀ element inner, inlineObject? m.2 = some (element, inner) → inlineName owner layers m.1 ∈ s.dependencies ∧
    ∃ loc child, schemas.get? (inlineName owner layers m.1) = some child ∧
      objectSchema root types (inlineName owner layers m.1) element inner loc = .ok child

theorem owner_of_inlineName {owner property : String} {layers : Nat} (h : inlineName owner layers property = "") :
    owner = "" := by
  unfold inlineName at h
  rw [String.append_eq_empty_iff, String.append_eq_empty_iff] at h
  exact h.1.1

section

variable {root : Json} {types : TypeTable} {components : Members} {schemas : SortedMap Schema}
  (h : flatten root types components = .ok schemas)

include h

/-- An object that is written inside another has a name that is not empty. -/
theorem inlineObject?_of_nameless {name : String} {node : Json} {layers : Nat} {m : String × Json}
    (object : ObjectNode components name node layers) (mem : m ∈ propertyNodes node)
    (nameless : inlineName name layers m.1 = "") : inlineObject? m.2 = none := by
  rcases hinline : inlineObject? m.2 with _ | ⟨element, inner⟩
  · rfl
  · have hpromotes : Promotes name layers node (inlineName name layers m.1) :=
      ⟨m.1, m.2, mem, ⟨element, inner, inlineObject?_eq_some.1 hinline⟩, rfl⟩
    -- it would have the name of its owner
    refine absurd ?_ (promotes_ne h object hpromotes)
    rw [nameless, owner_of_inlineName nameless]

theorem propertyAgrees {name : String} {node : Json} {layers : Nat} {loc : Location} {s : Schema} {m : String × Json}
    {read : Property × List String} (object : ObjectNode components name node layers)
    (hschema : objectSchema root types name node layers loc = .ok s) (mem : m ∈ propertyNodes node)
    (hread : readProperty root types name layers (requiredNames node) loc m.1 m.2 = .ok read) :
    PropertyAgrees root types schemas name s layers m read.1 := by
  obtain ⟨type, htype, hread⟩ := except_bind_ok hread
  obtain ⟨names, -, hread⟩ := except_bind_ok hread
  cases hread
  have hnamed := inlineObject?_of_nameless h object mem
  obtain ⟨target, htarget, hagree⟩ := agree_of_token htype hnamed
  refine ⟨rfl, ⟨target, htarget, hagree, fun d hd => ?_⟩, fun element inner hinline => ?_⟩
  · obtain ⟨r, points, hr⟩ := (chainTarget_ok (htarget loc) d).1 hd
    exact (objectSchema_ok hschema d).2 (.inl ⟨r, .property mem points, hr⟩)
  · have hends := inlineObject?_eq_some.1 hinline
    have hchild := get?_objectNode h (object.inline mem hends)
    exact ⟨(objectSchema_ok hschema _).2 (.inr ⟨m.1, m.2, mem, ⟨element, inner, hends⟩, rfl⟩), hchild⟩

end

/-- The walks for a type, for a dependency and for an inline object agree on every node that has a type. So all
properties of all schemas have types that their schemas depend on, or that are words of the language. -/
theorem walks_agree (root : Json) (types : TypeTable) :
    (∀ node hint loc token, hint ≠ "" → typeToken root types node hint 0 loc = .ok token →
      ∃ target, chainTarget root node loc = .ok target ∧
        Agree root types hint node token target (inlineObject? node)) ∧
    ∀ components schemas, flatten root types components = .ok schemas →
      ∀ name node layers, ObjectNode components name node layers → ∃ s, schemas.get? name = some s ∧
        List.Forall₂ (PropertyAgrees root types schemas name s layers) (propertyNodes node) s.properties := by
  constructor
  · intro node hint loc token named h
    obtain ⟨target, htarget, hagree⟩ := agree_of_token h fun nameless => absurd nameless named
    exact ⟨target, htarget loc, hagree⟩
  · intro components schemas h name node layers object
    obtain ⟨loc, s, hget, hschema⟩ := get?_objectNode h object
    refine ⟨s, hget, ?_⟩
    obtain ⟨read, additional, target, hread, -, hs⟩ := objectSchema_parts hschema
    have hproperties : s.properties = read.map (·.1) := by rw [hs]
    rw [hproperties, List.forall₂_map_right_iff]
    have hparts := (List.forall₂_and_left (propertyNodes node) read).2 ⟨fun m mem => mem, except_mapM_ok hread⟩
    exact hparts.imp fun m p hp => propertyAgrees h object hschema hp.1 hp.2

/-- A shelf with books that are components and sections that are written inside it. -/
def shelf : Json :=
  let array (items : Json) : Json := .obj [("type", .str "array"), ("items", items)]
  .obj [("type", .str "object"), ("properties", .obj [
    ("label", .obj [("type", .str "string")]),
    ("books", array (.obj [("$ref", .str "#/components/schemas/Book")])),
    ("sections", array (.obj [("type", .str "object")]))])]

theorem walks_agree_shelf : let components := [("Shelf", shelf), ("Book", .obj [("type", .str "object")])]
    let root : Json := .obj [("components", .obj [("schemas", .obj components)])]
    ∃ schemas s, flatten root textWords components = .ok schemas ∧ schemas.get? "Shelf" = some s ∧
      s.properties.map (·.type) = ["string", "list[Book]", "list[ShelfSections]"] ∧
      List.Forall₂ (PropertyAgrees root textWords schemas "Shelf" s 0) (propertyNodes shelf) s.properties ∧
      ∃ target, chainTarget root shelf "" = .ok target ∧
        Agree root textWords "Shelf" shelf "Shelf" target (inlineObject? shelf) := by
  intro components root
  have htypes : (flatten root textWords components).toOption.map (fun schemas =>
      (schemas.get? "Shelf").map (·.properties.map (·.type))) =
        some (some ["string", "list[Book]", "list[ShelfSections]"]) := by decide +kernel
  obtain ⟨schemas, hschemas, htypes⟩ := except_toOption_map htypes
  have hshelf : ObjectNode components "Shelf" shelf 0 := .component (List.mem_cons_self ..) rfl rfl
  obtain ⟨s, hget, hall⟩ := (walks_agree root textWords).2 components schemas hschemas "Shelf" shelf 0 hshelf
  have htoken : typeToken root textWords shelf "Shelf" 0 "" = .ok "Shelf" := by decide +kernel
  rw [hget] at htypes
  exact ⟨schemas, s, hschemas, hget, Option.some.inj htypes, hall,
    (walks_agree root textWords).1 shelf "Shelf" "" "Shelf" (by decide) htoken⟩

end ApiScaffold.Schema
