/-
Array components. What is registered for one depends on the node at the end of all its items, references or not: an
array of primitive elements or of references is registered as it is, and any other element takes the place of the
component, if it has a type (`ArrayAdded`). An element has a type if it is an object, but also if the language has a
word for its type or format.
-/
import ApiScaffold.Backend.Choice
import ApiScaffold.Proofs.Schema.Component
import ApiScaffold.Proofs.Schema.Leaf

namespace ApiScaffold.Schema

/-! ## Registering from the first entry -/

section

variable {schemas : SortedMap Schema} {name : String} {loc : Location} {es : List Entry} {s : Schema}

theorem register_cons (free : schemas.contains name = false) :
    register schemas (⟨name, loc, .ok s⟩ :: es) = register (schemas.insert name s) es := by
  rw [register]
  simp only [free, Bool.false_eq_true, if_false]

theorem register_kept (h : schemas.get? name = some s) : (register schemas es).1.get? name = some s := by
  have hspec := register_spec es schemas
  generalize register schemas es = r at hspec ⊢
  cases hspec with
  | all hall => exact (registerAll_registered hall).kept h
  | part _ hpart _ => exact (registerAll_registered hpart).kept h

theorem get?_register_cons (free : schemas.contains name = false) :
    (register schemas (⟨name, loc, .ok s⟩ :: es)).1.get? name = some s := by
  rw [register_cons free]
  exact register_kept ((schemas.get?_insert ..).trans (if_pos rfl))

end

/-! ## The element of an array component -/

/-- The language has a word for the type of a node, or for its format. -/
def Worded (types : TypeTable) (node : Json) : Prop :=
  ∃ type word, node.getStr? "type" = some type ∧ scalarWord? types node type = some word

/-- The place of the element of an array component. -/
def elementLocation (name : String) (layers : Nat) : Location :=
  componentLocation name ++ Text.repeated layers ".items"

section

variable {root : Json} {types : TypeTable} {schemas : SortedMap Schema} {name : String} {node element : Json}
  {layers : Nat}

theorem ArrayEnd.not_goesOn (ends : ArrayEnd node element layers) : ¬ GoesOn element := fun goes => ends.stops goes.2.1

/-- What has a word and is no reference is an object, or the language has a word for its type or format. -/
theorem LeafWord.object_or_worded {hint word : String} (h : LeafWord root types hint node word)
    (plain : Reference.ofNode? node = none) : node.getStr? "type" = some "object" ∨ Worded types node := by
  cases h with
  | reference written => rw [plain] at written; cases written
  | hinted _ object => exact .inl object
  | free _ object => exact .inl object
  | scalar _ typed _ _ known => exact .inr ⟨_, _, typed, known⟩

theorem Worded.leafWord (h : Worded types node) (plain : Reference.ofNode? node = none)
    (notObject : node.getStr? "type" ≠ some "object") (notArray : node.getStr? "type" ≠ some "array") (root : Json)
    (hint : String) : ∃ word, LeafWord root types hint node word := by
  obtain ⟨type, word, typed, known⟩ := h
  refine ⟨word, .scalar plain typed ?_ ?_ known⟩
  · rintro rfl
    exact notObject typed
  · rintro rfl
    exact notArray typed

/-- What is registered for an array component under a free name, if anything. -/
inductive ArrayAdded (root : Json) (types : TypeTable) (schemas : SortedMap Schema) (name : String) (node : Json) :
    SortedMap Schema × Except ResolveError Unit → Prop
  | refused {err : ResolveError} : ArrayAdded root types schemas name node (schemas, .error err)
  | primitive (primitive : isPrimitive node = true) :
      ArrayAdded root types schemas name node (schemas.insert name (ofNode name node), .ok ())
  | references {element : Json} {layers : Nat} {text : String} {s : Schema} (ends : ArrayEnd node element layers)
      (written : Reference.ofNode? element = some text)
      (schema : referenceArraySchema root name node (componentLocation name) = .ok s) :
      ArrayAdded root types schemas name node (schemas.insert name s, .ok ())
  | element {element : Json} {layers : Nat} {s : Schema} {after : SortedMap Schema} {result : Except ResolveError Unit}
      (ends : ArrayEnd node element layers) (plain : Reference.ofNode? element = none)
      (known : ∃ word, LeafWord root types name element word)
      (schema : objectSchema root types name element layers (elementLocation name layers) = .ok s)
      (get : after.get? name = some s) : ArrayAdded root types schemas name node (after, result)

theorem type_of_objectSchema {loc : Location} {s : Schema}
    (h : objectSchema root types name element layers loc = .ok s) : s.type = element.getStr? "type" := by
  obtain ⟨read, additional, target, -, -, rfl⟩ := objectSchema_parts h
  rfl

section

variable (written : Reference.ofNode? node = none) (array : node.getStr? "type" = some "array")

include written array

/-- An array component whose element is neither a reference nor primitive has the entries of its element, if that has
a type. -/
theorem addComponent_element (root : Json) (types : TypeTable) (schemas : SortedMap Schema) (name : String)
    (compound : isPrimitive node = false) (ends : ArrayEnd node element layers)
    (plain : Reference.ofNode? element = none) : addComponent root types schemas name node =
      match typeToken root types element name 0 (elementLocation name layers) with
      | .error err => (schemas, .error err)
      | .ok _ => register schemas (objectEntries root types name element layers (elementLocation name layers)) := by
  unfold addComponent
  rw [componentEntries_array written array compound]
  unfold arrayEntries
  simp only [innermost_eq ends, plain, Option.isSome_none, Bool.false_eq_true, if_false]
  unfold elementLocation
  rcases typeToken root types element name 0 (componentLocation name ++ Text.repeated layers ".items") with err | token
  · rfl
  · rfl

theorem addComponent_array (root : Json) (types : TypeTable) (free : schemas.contains name = false) :
    ArrayAdded root types schemas name node (addComponent root types schemas name node) := by
  rcases primitive : isPrimitive node with _ | _
  swap
  · have hprimitive : addComponent root types schemas name node =
        register schemas [⟨name, componentLocation name, .ok (ofNode name node)⟩] := by
      unfold addComponent componentEntries
      simp only [isObj_of_getStr? array, written, primitive, Bool.not_true, Bool.false_eq_true, if_false, if_true]
    rw [hprimitive, register_cons free]
    exact .primitive primitive
  rcases hinner : innermost node (componentLocation name) with err | ⟨element, layers, loc⟩
  · unfold addComponent
    rw [componentEntries_array written array primitive]
    unfold arrayEntries
    simp only [hinner]
    exact .refused
  have ends := arrayEnd_of_innermost hinner
  rcases plain : Reference.ofNode? element with _ | text
  · rw [addComponent_element written array root types schemas name primitive ends plain]
    rcases htoken : typeToken root types element name 0 (elementLocation name layers) with err | token
    · exact .refused
    have hword := (exists_typeToken_iff ends.not_goesOn).1 ⟨token, htoken⟩
    dsimp only
    rw [objectEntries_eq]
    rcases hschema : objectSchema root types name element layers (elementLocation name layers) with err | s
    · exact .refused
    · exact .element ends plain hword hschema (get?_register_cons free)
  · unfold addComponent
    rw [componentEntries_array written array primitive, arrayEntries_references hinner plain]
    rcases hschema : referenceArraySchema root name node (componentLocation name) with err | s
    · exact .refused
    · rw [register_cons free]
      exact .references ends plain hschema

end

/-! ## Arrays of references -/

/-- The schema of an array component that is a chain to a reference depends on the target and on nothing else. -/
theorem referenceArraySchema_of_pointsTo {loc : Location} {r : Reference} {v : Json}
    (array : node.getStr? "type" = some "array") (points : PointsTo node r) (found : r.find? root = some v) :
    ∃ s, referenceArraySchema root name node loc = .ok s ∧ s.type = some "array" ∧
      ∀ d, d ∈ s.dependencies ↔ d = r.name := by
  obtain ⟨text, refers, parsed⟩ := points
  have htarget : chainTarget root node loc = .ok (some r.name) := by
    rcases chainTarget_cases root node loc with ⟨text', only, heq⟩ | ⟨never, -⟩
    · rw [heq, ← (only text).1 refers, Reference.targetName_ok.2 ⟨r, v, parsed, found, rfl⟩]
      rfl
    · exact absurd refers (never text)
  unfold referenceArraySchema
  rw [htarget]
  refine ⟨_, rfl, array, fun d => ?_⟩
  exact (NameSet.mem_insert ..).trans (or_iff_left NameSet.not_mem_empty)

/-- An array component whose items lead to a reference is registered as an array that depends on the target of the
reference, and on nothing else, exactly if there is a reference at the end of all items as well: the walk for the
element goes on below a reference that is also an array. -/
theorem references_registered_iff {r : Reference} {v : Json} (written : Reference.ofNode? node = none)
    (array : node.getStr? "type" = some "array") (free : schemas.contains name = false) (points : PointsTo node r)
    (found : r.find? root = some v) :
    (∃ s, addComponent root types schemas name node = (schemas.insert name s, .ok ()) ∧ s.type = some "array" ∧
      ∀ d, d ∈ s.dependencies ↔ d = r.name) ↔
    ∃ element layers text, ArrayEnd node element layers ∧ Reference.ofNode? element = some text := by
  have compound := compound_of_pointsTo points
  constructor
  · rintro ⟨s, hadd, htype, -⟩
    have hadded := addComponent_array written array root types free
    generalize addComponent root types schemas name node = r at hadd hadded
    cases hadded with
    | refused => exact absurd (congrArg Prod.snd hadd) (by simp)
    | primitive primitive => rw [compound] at primitive; cases primitive
    | references ends written' => exact ⟨_, _, _, ends, written'⟩
    | element ends plain known schema get =>
      -- an element is no array, so it is not what was registered
      obtain ⟨rfl, -⟩ := Prod.mk.inj hadd
      rw [schemas.get?_insert, if_pos rfl] at get
      cases get
      exact absurd ((type_of_objectSchema schema).symm.trans htype) ends.stops
  · rintro ⟨element, layers, text, ends, written'⟩
    obtain ⟨s, hschema, htype, hdeps⟩ := referenceArraySchema_of_pointsTo array points found
    refine ⟨s, ?_, htype, hdeps⟩
    unfold addComponent
    rw [componentEntries_array written array compound, arrayEntries_references (innermost_eq ends _) written', hschema]
    exact register_cons free

/-- A document with a text that is named Y. -/
def textNamedY : Json :=
  .obj [("components", .obj [("schemas", .obj [("Y", .obj [("type", .str "string")])])])]

theorem references_registered_iff_matrix : let matrix : Json := .obj [("type", .str "array"), ("items", .obj [
      ("type", .str "array"), ("items", .obj [("$ref", .str "#/components/schemas/Y")])])]
    ∃ s, addComponent textNamedY Backend.pythonWords .empty "Matrix" matrix =
        (SortedMap.empty.insert "Matrix" s, .ok ()) ∧
      s.type = some "array" ∧ ∀ d, d ∈ s.dependencies ↔ d = "Y" := by
  intro matrix
  have chain : ItemsTo matrix (.obj [("$ref", .str "#/components/schemas/Y")]) 2 :=
    .items rfl rfl rfl (.items rfl rfl rfl (.here _))
  have points : PointsTo matrix ⟨"components", "schemas", "Y"⟩ := ⟨_, ⟨_, _, chain, rfl⟩, by decide +kernel⟩
  exact (references_registered_iff rfl rfl rfl points rfl).2
    ⟨_, _, _, .items rfl rfl (.items rfl rfl (.here (by decide))), rfl⟩

/-- An array of a reference that is an array of objects as well: an object is registered. -/
theorem reference_looked_through : ¬ ∀ (root : Json) (types : TypeTable) (schemas : SortedMap Schema) (name : String)
    (node : Json) (r : Reference) (v : Json), Reference.ofNode? node = none → node.getStr? "type" = some "array" →
    schemas.contains name = false → PointsTo node r → r.find? root = some v →
    ∃ s, addComponent root types schemas name node = (schemas.insert name s, .ok ()) ∧ s.type = some "array" ∧
      ∀ d, d ∈ s.dependencies ↔ d = r.name := by
  intro hall
  let node : Json := .obj [("type", .str "array"), ("items", .obj [("type", .str "array"),
    ("$ref", .str "#/components/schemas/Y"), ("items", .obj [("type", .str "object")])])]
  have points : PointsTo node ⟨"components", "schemas", "Y"⟩ :=
    ⟨_, ⟨_, _, .items rfl rfl rfl (.here _), rfl⟩, by decide +kernel⟩
  obtain ⟨s, hadd, htype, -⟩ := hall textNamedY Backend.pythonWords .empty "X" node _ _ rfl rfl rfl points rfl
  have hobject : ((addComponent textNamedY Backend.pythonWords .empty "X" node).1.get? "X").map (·.type) =
      some (some "object") := by decide +kernel
  rw [hadd, SortedMap.get?_insert, if_pos rfl, Option.map_some, htype] at hobject
  exact absurd (Option.some.inj hobject) (by decide)

/-! ## Other elements -/

section

variable (written : Reference.ofNode? node = none) (array : node.getStr? "type" = some "array")
  (free : schemas.contains name = false)

include written array free

/-- An element that has a word, and that a schema can be made of, is registered. -/
theorem addComponent_worded (compound : isPrimitive node = false) (ends : ArrayEnd node element layers)
    (plain : Reference.ofNode? element = none) (notObject : element.getStr? "type" ≠ some "object")
    (worded : Worded types element) {s : Schema}
    (schema : objectSchema root types name element layers (elementLocation name layers) = .ok s) :
    (addComponent root types schemas name node).1.get? name = some s := by
  have hword := worded.leafWord plain notObject ends.stops root name
  obtain ⟨token, htoken⟩ := (exists_typeToken_iff ends.not_goesOn).2 hword
  rw [addComponent_element written array root types schemas name compound ends plain, htoken]
  dsimp only
  rw [objectEntries_eq, schema]
  exact get?_register_cons free

theorem addComponent_refused_iff (root : Json) (types : TypeTable) (ends : ArrayEnd node element layers)
    (plain : Reference.ofNode? element = none) (compound : isPrimitive node = false)
    (notObject : element.getStr? "type" ≠ some "object") :
    (∃ err, addComponent root types schemas name node = (schemas, .error err)) ↔
      ¬ (Worded types element ∧
        ∃ s, objectSchema root types name element layers (elementLocation name layers) = .ok s) := by
  constructor
  · rintro ⟨err, hadd⟩ ⟨worded, s, schema⟩
    have hget := addComponent_worded written array free compound ends plain notObject worded schema
    rw [hadd] at hget
    exact SortedMap.get?_ne_of_free free hget
  · intro hno
    have hadded := addComponent_array written array root types free
    generalize addComponent root types schemas name node = r at hadded ⊢
    cases hadded with
    | refused => exact ⟨_, rfl⟩
    | primitive primitive => rw [compound] at primitive; cases primitive
    | references ends' written' =>
      obtain ⟨rfl, -⟩ := ends.unique ends'
      rw [plain] at written'
      cases written'
    | element ends' _ known schema =>
      obtain ⟨rfl, rfl⟩ := ends.unique ends'
      obtain ⟨word, hword⟩ := known
      have hworded := (hword.object_or_worded plain).resolve_left notObject
      exact absurd ⟨hworded, _, schema⟩ hno

/-- What is registered for an array component and is no array is the element of the component. -/
theorem element_of_addComponent {s : Schema} (get : (addComponent root types schemas name node).1.get? name = some s)
    (notArray : s.type ≠ some "array") : ∃ element layers, ArrayEnd node element layers ∧
      Reference.ofNode? element = none ∧ s.type = element.getStr? "type" ∧
        (s.type = some "object" ∨ Worded types element) := by
  have hadded := addComponent_array written array root types free
  generalize addComponent root types schemas name node = r at hadded get
  cases hadded with
  | refused => exact absurd get (SortedMap.get?_ne_of_free free)
  | primitive =>
    rw [schemas.get?_insert, if_pos rfl] at get
    cases get
    exact absurd array notArray
  | references _ _ schema =>
    rw [schemas.get?_insert, if_pos rfl] at get
    cases get
    obtain ⟨target, -, h⟩ := except_bind_ok schema
    cases h
    exact absurd array notArray
  | element ends plain known schema get' =>
    rw [get'] at get
    cases get
    obtain ⟨word, hword⟩ := known
    have htype := type_of_objectSchema schema
    refine ⟨_, _, ends, plain, htype, ?_⟩
    rw [htype]
    exact hword.object_or_worded plain

end

/-- An array component whose element is neither a reference, nor primitive, nor an object is refused, and nothing is
registered, unless the language has a word for the element and a schema can be made of it. So what takes the place of
an array component is an object, or something that the language has a word for. -/
theorem elements_refused_iff (root : Json) (types : TypeTable) (written : Reference.ofNode? node = none)
    (array : node.getStr? "type" = some "array") (free : schemas.contains name = false) :
    (∀ element layers, ArrayEnd node element layers → Reference.ofNode? element = none →
      (∀ type ∈ primitiveTypes, element.getStr? "type" ≠ some type) → element.getStr? "type" ≠ some "object" →
      ((∃ err, addComponent root types schemas name node = (schemas, .error err)) ↔
        ¬ (Worded types element ∧
          ∃ s, objectSchema root types name element layers (elementLocation name layers) = .ok s))) ∧
    ∀ s, (addComponent root types schemas name node).1.get? name = some s → s.type ≠ some "array" →
      ∃ element layers, ArrayEnd node element layers ∧ Reference.ofNode? element = none ∧
        s.type = element.getStr? "type" ∧ (s.type = some "object" ∨ Worded types element) := by
  constructor
  · intro element layers ends plain notPrimitive notObject
    have compound : isPrimitive node = false := by
      rw [← Bool.not_eq_true]
      intro primitive
      obtain ⟨-, type, htype, typed⟩ := itemsTo_of_isPrimitive primitive ends
      exact notPrimitive type htype typed
    exact addComponent_refused_iff written array free root types ends plain compound notObject
  · exact fun s get notArray => element_of_addComponent written array free get notArray

end

/-- An array whose elements are given by their type. -/
def arrayOfType (type : String) : Json := .obj [("type", .str "array"), ("items", .obj [("type", .str type)])]

theorem elements_refused_iff_files :
    (∃ err, addComponent .null Backend.pythonWords .empty "Files" (arrayOfType "file") = (.empty, .error err)) ∧
      ∃ s, (addComponent .null Backend.pythonWords .empty "Days" (arrayOfType "date")).1.get? "Days" = some s ∧
        ∃ element layers, ArrayEnd (arrayOfType "date") element layers ∧ Reference.ofNode? element = none ∧
          s.type = element.getStr? "type" ∧ (s.type = some "object" ∨ Worded Backend.pythonWords element) := by
  constructor
  · have ends : ArrayEnd (arrayOfType "file") (.obj [("type", .str "file")]) 1 := .items rfl rfl (.here (by decide))
    refine ((elements_refused_iff .null Backend.pythonWords rfl rfl rfl).1 _ _ ends rfl (by decide) (by decide)).2 ?_
    rintro ⟨⟨type, word, typed, known⟩, -⟩
    obtain rfl : "file" = type := Option.some.inj typed
    have unknown : scalarWord? Backend.pythonWords (.obj [("type", .str "file")]) "file" = none := by decide
    rw [unknown] at known
    cases known
  · have htype : ((addComponent .null Backend.pythonWords .empty "Days" (arrayOfType "date")).1.get? "Days").map
        (·.type) = some (some "date") := by decide +kernel
    obtain ⟨s, hget, hdate⟩ := Option.map_eq_some_iff.1 htype
    refine ⟨s, hget, (elements_refused_iff .null Backend.pythonWords rfl rfl rfl).2 s hget ?_⟩
    rw [hdate]
    decide

/-- An array of dates is registered as a date, in either language. -/
theorem dates_registered : ¬ ∃ implementation : Implementation, ∀ (root : Json) (schemas : SortedMap Schema)
    (name : String) (node element : Json) (layers : Nat), Reference.ofNode? node = none →
    node.getStr? "type" = some "array" → schemas.contains name = false → ArrayEnd node element layers →
    Reference.ofNode? element = none → (∀ type ∈ primitiveTypes, element.getStr? "type" ≠ some type) →
    element.getStr? "type" ≠ some "object" →
    ∃ err, addComponent root implementation.backend.words schemas name node = (schemas, .error err) := by
  rintro ⟨implementation, hall⟩
  have ends : ArrayEnd (arrayOfType "date") (.obj [("type", .str "date")]) 1 := .items rfl rfl (.here (by decide))
  obtain ⟨err, hadd⟩ := hall .null .empty "Days" _ _ _ rfl rfl rfl ends rfl (by decide) (by decide)
  have hadded : (addComponent .null implementation.backend.words .empty "Days" (arrayOfType "date")).2.isOk = true := by
    cases implementation <;> decide +kernel
  rw [hadd] at hadded
  cases hadded

end ApiScaffold.Schema
