/-
Chains of array items. `ItemsTo` says where the chain of a node leads without looking through a reference;
`PointsTo` and `HasInline` name the two ends that matter, a reference and an object written there. What
`chainTarget` and `inlineObject?` compute is said in these terms, and so is what counts as primitive.
-/
import ApiScaffold.Schema.Flatten
import ApiScaffold.Proofs.Except
import ApiScaffold.Proofs.SortedMap

namespace ApiScaffold

/-! ## References -/

namespace Reference

theorem resolve_ok {root node : Json} {text : String} {loc : Location} :
    resolve root text loc = .ok node ↔ ∃ r, parse text = some r ∧ r.find? root = some node := by
  unfold resolve
  rcases parse text with _ | r
  · simp
  · simp only [Option.some.injEq, exists_eq_left']
    rcases r.find? root with _ | v <;> simp

/-- A target has a name exactly if it is there. -/
theorem targetName_ok {root : Json} {text name : String} {loc : Location} :
    targetName root text loc = .ok name ↔
      ∃ r node, parse text = some r ∧ r.find? root = some node ∧ r.name = name := by
  unfold targetName nameOf
  constructor
  · intro h
    obtain ⟨node, hnode, h⟩ := except_bind_ok h
    obtain ⟨r, hr, hfind⟩ := resolve_ok.1 hnode
    rw [hr] at h
    cases h
    exact ⟨r, node, hr, hfind, rfl⟩
  · rintro ⟨r, node, hr, hfind, rfl⟩
    rw [resolve_ok.2 ⟨r, hr, hfind⟩, hr]
    rfl

/-- From a node that may be a reference to the node that is meant, in one hop at most. -/
inductive Leads (root : Json) : Json → Json → Prop
  | inline {node : Json} (written : ofNode? node = none) : Leads root node node
  | hop {node target : Json} {text : String} {r : Reference} (written : ofNode? node = some text)
      (parsed : parse text = some r) (found : r.find? root = some target) : Leads root node target

theorem deref_ok {root node target : Json} {loc : Location} :
    deref root node loc = .ok target ↔ Leads root node target := by
  unfold deref
  rcases hw : ofNode? node with _ | text
  · constructor
    · intro h; cases h; exact .inline hw
    · intro h
      cases h with
      | inline _ => rfl
      | hop written _ _ => rw [hw] at written; cases written
  · simp only [resolve_ok]
    constructor
    · rintro ⟨r, hr, hfind⟩
      exact .hop hw hr hfind
    · intro h
      cases h with
      | inline written => rw [hw] at written; cases written
      | hop written parsed found =>
        rw [hw] at written
        cases written
        exact ⟨_, parsed, found⟩

theorem Leads.unique {root node target target' : Json} (h : Leads root node target) (h' : Leads root node target') :
    target = target' := by
  have hderef : deref root node "" = .ok target := deref_ok.2 h
  exact Except.ok.inj (hderef.symm.trans (deref_ok.2 h'))

end Reference

namespace Schema

/-! ## Where a chain leads -/

/-- From a node down its chain of array items, so many arrays deep; only the last node may be a reference. -/
inductive ItemsTo : Json → Json → Nat → Prop
  | here (node : Json) : ItemsTo node node 0
  | items {node next element : Json} {layers : Nat} (written : Reference.ofNode? node = none)
      (array : node.getStr? "type" = some "array") (items : node.get? "items" = some next)
      (rest : ItemsTo next element layers) : ItemsTo node element (layers + 1)

/-- The chain of a node ends in a reference with this text. -/
def Refers (node : Json) (text : String) : Prop :=
  ∃ element layers, ItemsTo node element layers ∧ Reference.ofNode? element = some text

/-- The chain of a node ends in this reference, well formed. -/
def PointsTo (node : Json) (r : Reference) : Prop := ∃ text, Refers node text ∧ Reference.parse text = some r

/-- The chain of a node ends in an object that is written there, inside so many arrays. -/
def HasInline (node element : Json) (layers : Nat) : Prop :=
  ItemsTo node element layers ∧ Reference.ofNode? element = none ∧ element.getStr? "type" = some "object"

section

variable {node next element root : Json} {text : String} {layers : Nat} {loc : Location}

theorem refers_of_reference (h : Reference.ofNode? node = some text) {other : String} :
    Refers node other ↔ other = text := by
  constructor
  · rintro ⟨element, layers, hto, hother⟩
    cases hto with
    | here => rw [h] at hother; cases hother; rfl
    | items written => rw [h] at written; cases written
  · rintro rfl
    exact ⟨node, 0, .here node, h⟩

theorem refers_of_array (written : Reference.ofNode? node = none) (array : node.getStr? "type" = some "array")
    (items : node.get? "items" = some next) : Refers node text ↔ Refers next text := by
  constructor
  · rintro ⟨element, layers, hto, htext⟩
    cases hto with
    | here => rw [written] at htext; cases htext
    | items _ _ items' rest =>
      rw [items] at items'
      cases items'
      exact ⟨element, _, rest, htext⟩
  · rintro ⟨element, layers, hto, htext⟩
    exact ⟨element, layers + 1, .items written array items hto, htext⟩

/-- A node that is no reference and has no items to go on with refers to nothing. -/
theorem not_refers_of_end (written : Reference.ofNode? node = none)
    (ends : node.getStr? "type" = some "array" → node.get? "items" = none) : ¬ Refers node text := by
  rintro ⟨element, layers, hto, htext⟩
  cases hto with
  | here => rw [written] at htext; cases htext
  | items _ array items _ => rw [ends array] at items; cases items

/-- A chain that stops at once ends in an inline object if its node is one. -/
theorem hasInline_of_end
    (ends : Reference.ofNode? node = none → node.getStr? "type" = some "array" → node.get? "items" = none) :
    HasInline node element layers ↔
      (node = element ∧ 0 = layers) ∧ Reference.ofNode? node = none ∧ node.getStr? "type" = some "object" := by
  constructor
  · rintro ⟨hto, hend⟩
    cases hto with
    | here => exact ⟨⟨rfl, rfl⟩, hend⟩
    | items written array items _ => rw [ends written array] at items; cases items
  · rintro ⟨⟨rfl, rfl⟩, hend⟩
    exact ⟨.here _, hend⟩

theorem hasInline_of_array (written : Reference.ofNode? node = none) (array : node.getStr? "type" = some "array")
    (items : node.get? "items" = some next) :
    HasInline node element layers ↔ ∃ inner, HasInline next element inner ∧ inner + 1 = layers := by
  constructor
  · rintro ⟨hto, hend⟩
    cases hto with
    | here => exact absurd (array.symm.trans hend.2) (by decide)
    | items _ _ items' rest =>
      rw [items] at items'
      cases items'
      exact ⟨_, ⟨rest, hend⟩, rfl⟩
  · rintro ⟨inner, ⟨hto, hend⟩, rfl⟩
    exact ⟨.items written array items hto, hend⟩

end

theorem isObj_of_getStr? {node : Json} {key text : String} (h : node.getStr? key = some text) : node.isObj = true := by
  cases node with
  | obj ms => rfl
  | _ => cases h

/-! ## The walks down a chain -/

/-- The walk for a dependency resolves the reference at the end of the chain, if there is one. -/
theorem chainTarget_cases (root node : Json) (loc : Location) :
    (∃ text, (∀ other, Refers node other ↔ other = text) ∧
      chainTarget root node loc = (Reference.targetName root text loc).map some) ∨
      (∀ text, ¬ Refers node text) ∧ chainTarget root node loc = .ok none := by
  fun_induction chainTarget root node loc with
  | case1 node text h => exact .inl ⟨text, fun _ => refers_of_reference h, rfl⟩
  | case2 node written array items => exact .inr ⟨fun _ => not_refers_of_end written fun _ => items, rfl⟩
  | case3 node written array next items ih => simpa only [refers_of_array written array items] using ih
  | case4 node written leaf => exact .inr ⟨fun _ => not_refers_of_end written fun h => absurd h leaf, rfl⟩

/-- The target that is found is that of the reference to which the node points. -/
theorem chainTarget_ok {root node : Json} {loc : Location} {target : Option String}
    (h : chainTarget root node loc = .ok target) (name : String) :
    target = some name ↔ ∃ r, PointsTo node r ∧ r.name = name := by
  rcases chainTarget_cases root node loc with ⟨text, hrefers, heq⟩ | ⟨hnone, heq⟩
  · rw [heq] at h
    obtain ⟨found, hfound, rfl⟩ := except_map_ok h
    obtain ⟨r, v, hparse, -, rfl⟩ := Reference.targetName_ok.1 hfound
    rw [Option.some.injEq]
    constructor
    · intro hname
      exact ⟨r, ⟨text, (hrefers text).2 rfl, hparse⟩, hname⟩
    · rintro ⟨r', ⟨text', hrefers', hparse'⟩, rfl⟩
      rw [(hrefers text').1 hrefers', hparse] at hparse'
      cases hparse'
      rfl
  · rw [heq] at h
    cases h
    simp only [reduceCtorEq, false_iff, not_exists, not_and]
    rintro r ⟨text, hrefers, -⟩
    exact absurd hrefers (hnone text)

/-- Where the walk succeeds, the target of the reference at the end of the chain is there. -/
theorem chainTarget_found {root node : Json} {loc : Location} {target : Option String}
    (h : chainTarget root node loc = .ok target) {r : Reference} (points : PointsTo node r) :
    ∃ v, r.find? root = some v := by
  obtain ⟨text, hrefers, hparse⟩ := points
  rcases chainTarget_cases root node loc with ⟨text', honly, heq⟩ | ⟨hnone, -⟩
  · rw [heq] at h
    obtain ⟨found, hfound, -⟩ := except_map_ok h
    obtain ⟨r', v, hparse', hfind, -⟩ := Reference.targetName_ok.1 hfound
    rw [← (honly text).1 hrefers, hparse] at hparse'
    cases hparse'
    exact ⟨v, hfind⟩
  · exact absurd hrefers (hnone text)

/-- A set of names that grew by the targets of some references, all of which are there. -/
structure Adds (root : Json) (points : Reference → Prop) (before after : NameSet) : Prop where
  mem : ∀ d, d ∈ after ↔ d ∈ before ∨ ∃ r, points r ∧ r.name = d
  found : ∀ {r}, points r → ∃ v, r.find? root = some v

theorem Adds.none {root : Json} {points : Reference → Prop} (h : ∀ r, ¬ points r) (names : NameSet) :
    Adds root points names names where
  mem := fun _ => (or_iff_left fun ⟨r, hr, _⟩ => h r hr).symm
  found := fun hr => absurd hr (h _)

theorem Adds.one {root : Json} {points : Reference → Prop} {r : Reference} (only : ∀ r', points r' ↔ r' = r)
    {v : Json} (found : r.find? root = some v) (names : NameSet) : Adds root points names (names.insert r.name) where
  mem := fun d => by
    rw [NameSet.mem_insert, or_comm, @eq_comm _ d]
    simp only [only, exists_eq_left]
  found := fun hr => ⟨v, (only _).1 hr ▸ found⟩

theorem Adds.trans {root : Json} {p q pq : Reference → Prop} {a b c : NameSet} (h : Adds root p a b)
    (h' : Adds root q b c) (both : ∀ r, pq r ↔ p r ∨ q r) : Adds root pq a c where
  mem := fun d => by
    rw [h'.mem, h.mem, or_assoc, ← exists_or]
    simp only [both, or_and_right]
  found := fun hr => ((both _).1 hr).elim h.found h'.found

theorem Adds.congr {root : Json} {p q : Reference → Prop} {a b : NameSet} (h : Adds root p a b)
    (same : ∀ r, q r ↔ p r) : Adds root q a b where
  mem := fun d => by simp only [h.mem, same]
  found := fun hr => h.found ((same _).1 hr)

theorem chainTarget_adds {root node : Json} {loc : Location} {target : Option String}
    (h : chainTarget root node loc = .ok target) (names : NameSet) :
    Adds root (PointsTo node) names (names.insert? target) where
  mem := fun d => by rw [NameSet.mem_insert?, chainTarget_ok h, or_comm]
  found := chainTarget_found h

/-- The walk for an inline object finds the object at the end of the chain. -/
theorem inlineObject?_eq_some {node element : Json} {layers : Nat} :
    inlineObject? node = some (element, layers) ↔ HasInline node element layers := by
  fun_induction inlineObject? node generalizing element layers with
  | case1 node reference =>
    rw [hasInline_of_end fun written => by rw [written] at reference; cases reference]
    simp [Option.isSome_iff_ne_none.1 reference]
  | case2 node written typeless =>
    rw [hasInline_of_end fun _ array => by rw [typeless] at array; cases array]
    simp [typeless]
  | case3 node written object =>
    rw [hasInline_of_end fun _ array => absurd (object.symm.trans array) (by decide)]
    simp [object, Option.not_isSome_iff_eq_none.1 written]
  | case4 node written bare array =>
    rw [hasInline_of_end fun _ _ => bare]
    simp [array]
  | case5 node written next items array _ ih =>
    rw [hasInline_of_array (Option.not_isSome_iff_eq_none.1 written) array items]
    simp [Option.map_eq_some_iff, ← ih]
  | case6 node written type typed notObject notArray =>
    rw [hasInline_of_end fun _ array => by rw [typed] at array; cases array; exact absurd rfl notArray]
    simp [typed, notObject]

/-! ## Components -/

/-- A chain that is primitive ends in no reference. -/
theorem not_refers_of_isPrimitive {node : Json} {text : String} (h : isPrimitive node = true) : ¬ Refers node text := by
  fun_induction isPrimitive node with
  | case1 node reference => cases h
  | case2 node written typeless => cases h
  | case3 node written bare array => cases h
  | case4 node written next items array ih =>
    rw [refers_of_array (Option.not_isSome_iff_eq_none.1 written) array items]
    exact ih h
  | case5 node written type typed notArray =>
    refine not_refers_of_end (Option.not_isSome_iff_eq_none.1 written) fun array => ?_
    rw [typed] at array
    cases array
    exact absurd rfl notArray

theorem compound_of_pointsTo {node : Json} {r : Reference} (h : PointsTo node r) : isPrimitive node = false := by
  obtain ⟨text, hrefers, -⟩ := h
  rw [← Bool.not_eq_true]
  exact fun primitive => not_refers_of_isPrimitive primitive hrefers

/-- From a node down all its array items, references or not, to the first that is no array. -/
inductive ArrayEnd : Json → Json → Nat → Prop
  | here {node : Json} (stops : node.getStr? "type" ≠ some "array") : ArrayEnd node node 0
  | items {node next element : Json} {layers : Nat} (array : node.getStr? "type" = some "array")
      (items : node.get? "items" = some next) (rest : ArrayEnd next element layers) : ArrayEnd node element (layers + 1)

theorem ArrayEnd.stops {node element : Json} {layers : Nat} (ends : ArrayEnd node element layers) :
    element.getStr? "type" ≠ some "array" := by
  induction ends with
  | here stops => exact stops
  | items _ _ _ ih => exact ih

/-- The walk for the element of an array component goes to the end of the arrays. -/
theorem innermost_eq {node element : Json} {layers : Nat} (ends : ArrayEnd node element layers) (loc : Location) :
    innermost node loc = .ok (element, layers, loc ++ Text.repeated layers ".items") := by
  induction ends generalizing loc with
  | here stops =>
    unfold innermost
    rw [if_neg stops, Text.repeated_zero, String.append_empty]
  | @items node next element layers array items _ ih =>
    unfold innermost
    rw [if_pos array]
    split
    · rename_i bare; rw [items] at bare; cases bare
    · rename_i next' items'
      rw [items] at items'
      cases items'
      rw [ih, Text.repeated_succ, ← String.append_assoc]
      rfl

theorem innermost_of_arrayEnd {node element : Json} {layers : Nat} (h : ArrayEnd node element layers) (loc : Location) :
    ∃ inner, innermost node loc = .ok (element, layers, inner) := ⟨_, innermost_eq h loc⟩

theorem ArrayEnd.unique {node element element' : Json} {layers layers' : Nat} (ends : ArrayEnd node element layers)
    (ends' : ArrayEnd node element' layers') : element = element' ∧ layers = layers' := by
  have heq := (innermost_eq ends "").symm.trans (innermost_eq ends' "")
  simp only [Except.ok.injEq, Prod.mk.injEq] at heq
  exact ⟨heq.1, heq.2.1⟩

theorem arrayEnd_of_innermost {node element : Json} {layers : Nat} {loc inner : Location}
    (h : innermost node loc = .ok (element, layers, inner)) : ArrayEnd node element layers := by
  fun_induction innermost node loc generalizing element layers with
  | case1 node loc array bare => cases h
  | case2 node loc array next items ih =>
    obtain ⟨⟨element', layers', inner'⟩, hrest, heq⟩ := except_map_ok h
    cases heq
    exact .items array items (ih hrest)
  | case3 node loc stops =>
    cases h
    exact .here stops

/-- The type of the element that the walk down the arrays finds. -/
theorem ArrayEnd.type_eq {node element : Json} {layers : Nat} (ends : ArrayEnd node element layers)
    {type : Option String} (h : (innermost node "").toOption.map (·.1.getStr? "type") = some type) :
    element.getStr? "type" = type := by
  obtain ⟨inner, hinner⟩ := innermost_of_arrayEnd ends ""
  rw [hinner] at h
  exact Option.some.inj h

theorem isPrimitive_of_itemsTo {node element : Json} {layers : Nat} (chain : ItemsTo node element layers)
    (plain : Reference.ofNode? element = none) {type : String} (typed : element.getStr? "type" = some type)
    (primitive : type ∈ primitiveTypes) : isPrimitive node = true := by
  have notArray : type ≠ "array" := fun heq => absurd (heq ▸ primitive) (by decide)
  induction chain with
  | here node =>
    unfold isPrimitive
    simp [plain, typed, notArray, primitive]
  | @items node next _ _ written array items _ ih =>
    unfold isPrimitive
    simp only [written, array, Option.isSome_none, Bool.false_eq_true, if_false, if_true]
    split
    · rename_i bare; rw [items] at bare; cases bare
    · rename_i next' items'
      rw [items] at items'
      cases items'
      exact ih plain typed

/-- The elements of what counts as primitive are, and no reference is on the way to them. -/
theorem itemsTo_of_isPrimitive {node element : Json} {layers : Nat} (h : isPrimitive node = true)
    (ends : ArrayEnd node element layers) :
    ItemsTo node element layers ∧ ∃ type ∈ primitiveTypes, element.getStr? "type" = some type := by
  induction ends with
  | @here node stops =>
    refine ⟨.here node, ?_⟩
    unfold isPrimitive at h
    split at h
    · cases h
    split at h
    · cases h
    rename_i type typed
    split at h
    · rename_i array
      exact absurd (array ▸ typed) stops
    · exact ⟨type, List.contains_iff_mem.1 h, typed⟩
  | @items node next _ _ array items _ ih =>
    unfold isPrimitive at h
    split at h
    · cases h
    rename_i written
    simp only [array, if_true] at h
    split at h
    · cases h
    rename_i next' items'
    rw [items] at items'
    cases items'
    obtain ⟨hchain, hprimitive⟩ := ih h
    exact ⟨.items (Option.not_isSome_iff_eq_none.1 written) array items hchain, hprimitive⟩

end Schema

end ApiScaffold
