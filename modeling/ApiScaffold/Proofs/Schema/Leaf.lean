/-
The leaf of a chain of items: the node from which the chain does not go on (`EndsIn`). A leaf has a word (`LeafWord`),
or there is something wrong with it (`Fault`), and on a leaf the walk for a type does no more than to say which. Of an
array with items nothing can be wrong but that the language has no words for arrays.
-/
import ApiScaffold.Proofs.Schema.Chain

namespace ApiScaffold

/-- The place that an error names; of two operations of one name it is that of the second. -/
def ResolveError.location : ResolveError → Location
  | .invalidRef _ loc => loc
  | .referenceNotFound _ loc => loc
  | .missingType loc => loc
  | .missingItems loc => loc
  | .unmappedType _ loc => loc
  | .malformedSpec loc _ => loc
  | .duplicateSchema _ loc => loc
  | .duplicateOperation _ _ loc => loc

namespace TypeTable

section

variable {types : TypeTable} {text : String} {loc : Location} {err : ResolveError}

theorem arrayOpen_ok : types.arrayOpen loc = .ok text ↔
    ∃ array opening, types.word? "array" = some array ∧ types.word? "<" = some opening ∧ array ++ opening = text := by
  unfold arrayOpen require
  rcases types.word? "array" with _ | array
  · simp [bind, Except.bind]
  · rcases types.word? "<" with _ | opening <;> simp [bind, Except.bind, pure, Except.pure]

theorem arrayOpen_error : types.arrayOpen loc = .error err ↔
    types.word? "array" = none ∧ err = .unmappedType "array" loc ∨
      (∃ array, types.word? "array" = some array) ∧ types.word? "<" = none ∧ err = .unmappedType "<" loc := by
  unfold arrayOpen require
  rcases types.word? "array" with _ | array
  · simp [bind, Except.bind, eq_comm]
  · rcases types.word? "<" with _ | opening <;> simp [bind, Except.bind, pure, Except.pure, eq_comm]

theorem closers_ok {depth : Nat} : types.closers depth loc = .ok text ↔
    ∃ closing, (0 < depth → types.word? ">" = some closing) ∧ Text.repeated depth closing = text := by
  unfold closers require
  rcases depth with _ | depth
  · simp [Text.repeated_zero]
  · rcases types.word? ">" with _ | closing <;> simp [Except.map]

theorem closers_error {depth : Nat} : types.closers depth loc = .error err ↔
    0 < depth ∧ types.word? ">" = none ∧ err = .unmappedType ">" loc := by
  unfold closers require
  rcases depth with _ | depth
  · simp
  · rcases types.word? ">" with _ | closing <;> simp [Except.map, eq_comm]

end

end TypeTable

namespace Schema

/-! ## The end of a chain -/

/-- The chain of items goes on from a node: it is an array with items, and no reference. -/
def GoesOn (node : Json) : Prop :=
  Reference.ofNode? node = none ∧ node.getStr? "type" = some "array" ∧ ∃ next, node.get? "items" = some next

/-- The chain of a node ends in this leaf, so many arrays deep. -/
def EndsIn (node leaf : Json) (layers : Nat) : Prop := ItemsTo node leaf layers ∧ ¬ GoesOn leaf

section

variable {node next leaf element : Json} {layers inner k : Nat} {text : String}

theorem ItemsTo.of_end (ends : ¬ GoesOn node) (chain : ItemsTo node element k) : node = element ∧ 0 = k := by
  cases chain with
  | here => exact ⟨rfl, rfl⟩
  | items written array items _ => exact absurd ⟨written, array, _, items⟩ ends

theorem ItemsTo.of_items (items : node.get? "items" = some next) (chain : ItemsTo node element (k + 1)) :
    ItemsTo next element k := by
  cases chain with
  | items _ _ items' rest =>
    rw [items] at items'
    cases items'
    exact rest

theorem exists_endsIn (node : Json) : ∃ leaf layers, EndsIn node leaf layers := by
  fun_induction isPrimitive node with
  | case1 node reference =>
    exact ⟨node, 0, .here node, fun goes => by rw [goes.1] at reference; cases reference⟩
  | case2 node written typeless => exact ⟨node, 0, .here node, fun goes => by rw [goes.2.1] at typeless; cases typeless⟩
  | case3 node written bare array =>
    refine ⟨node, 0, .here node, ?_⟩
    rintro ⟨-, -, next, items⟩
    rw [bare] at items
    cases items
  | case4 node written next items array ih =>
    obtain ⟨leaf, layers, chain, ends⟩ := ih
    exact ⟨leaf, layers + 1, .items (Option.not_isSome_iff_eq_none.1 written) array items chain, ends⟩
  | case5 node written type typed notArray =>
    refine ⟨node, 0, .here node, fun goes => notArray ?_⟩
    rw [goes.2.1] at typed
    exact (Option.some.inj typed).symm

theorem EndsIn.unique (h : EndsIn node leaf layers) (h' : EndsIn node element k) : leaf = element ∧ layers = k := by
  obtain ⟨chain, ends⟩ := h
  obtain ⟨chain', ends'⟩ := h'
  induction chain generalizing k with
  | here node => exact chain'.of_end ends
  | @items node next leaf layers written array items _ ih =>
    cases chain' with
    | here => exact absurd ⟨written, array, _, items⟩ ends'
    | items _ _ items' rest' =>
      rw [items] at items'
      cases items'
      obtain ⟨rfl, rfl⟩ := ih ends rest'
      exact ⟨rfl, rfl⟩

theorem refers_of_endsIn (ends : EndsIn node leaf layers) : Refers node text ↔ Reference.ofNode? leaf = some text := by
  constructor
  · rintro ⟨element, k, chain, written⟩
    have hends : EndsIn node element k := by
      refine ⟨chain, fun goes => ?_⟩
      rw [goes.1] at written
      cases written
    rwa [(ends.unique hends).1]
  · intro written
    exact ⟨leaf, layers, ends.1, written⟩

theorem hasInline_of_endsIn (ends : EndsIn node leaf layers) : HasInline node element inner ↔
    (leaf = element ∧ layers = inner) ∧ Reference.ofNode? leaf = none ∧ leaf.getStr? "type" = some "object" := by
  constructor
  · rintro ⟨chain, written, object⟩
    have hends : EndsIn node element inner := by
      refine ⟨chain, fun goes => ?_⟩
      exact absurd (goes.2.1.symm.trans object) (by decide)
    obtain ⟨rfl, rfl⟩ := ends.unique hends
    exact ⟨⟨rfl, rfl⟩, written, object⟩
  · rintro ⟨⟨rfl, rfl⟩, written, object⟩
    exact ⟨ends.1, written, object⟩

end

/-! ## Words and faults -/

/-- The word for a node that is no object and no array: that for its format if there is one, or else that for its
type. -/
def scalarWord? (types : TypeTable) (node : Json) (type : String) : Option String :=
  ((node.getStr? "format").bind types.word?).or (types.word? type)

section

variable (root : Json) (types : TypeTable) (hint : String)

/-- The word for the leaf of a chain. A reference is named by its target, and an object by the hint, or by the language
if the hint is empty. -/
inductive LeafWord (leaf : Json) : String → Prop
  | reference {text : String} {r : Reference} {v : Json} (written : Reference.ofNode? leaf = some text)
      (parsed : Reference.parse text = some r) (found : r.find? root = some v) : LeafWord leaf r.name
  | hinted (written : Reference.ofNode? leaf = none) (object : leaf.getStr? "type" = some "object")
      (named : hint ≠ "") : LeafWord leaf hint
  | free {word : String} (written : Reference.ofNode? leaf = none) (object : leaf.getStr? "type" = some "object")
      (nameless : hint = "") (known : types.word? "object" = some word) : LeafWord leaf word
  | scalar {type word : String} (written : Reference.ofNode? leaf = none) (typed : leaf.getStr? "type" = some type)
      (notObject : type ≠ "object") (notArray : type ≠ "array") (known : scalarWord? types leaf type = some word) :
      LeafWord leaf word

/-- What is wrong with a node of a chain on its own, with so many arrays around it to be closed. -/
inductive Fault (node : Json) (depth : Nat) (loc : Location) : ResolveError → Prop
  | shape (shape : node.isObj = false) : Fault node depth loc (.malformedSpec loc "schema must be a mapping")
  | invalid {text : String} (written : Reference.ofNode? node = some text) (malformed : Reference.parse text = none) :
      Fault node depth loc (.invalidRef text loc)
  | dangling {text : String} {r : Reference} (written : Reference.ofNode? node = some text)
      (parsed : Reference.parse text = some r) (missing : r.find? root = none) :
      Fault node depth loc (.referenceNotFound text loc)
  | typeless (mapping : node.isObj = true) (written : Reference.ofNode? node = none)
      (typeless : node.get? "type" = none) : Fault node depth loc (.missingType loc)
  | mistyped {v : Json} (written : Reference.ofNode? node = none) (given : node.get? "type" = some v)
      (mistyped : v.str? = none) : Fault node depth loc (.malformedSpec loc "`type` must be a string")
  | itemless (written : Reference.ofNode? node = none) (array : node.getStr? "type" = some "array")
      (bare : node.get? "items" = none) : Fault node depth loc (.missingItems loc)
  | object (written : Reference.ofNode? node = none) (object : node.getStr? "type" = some "object")
      (nameless : hint = "") (unknown : types.word? "object" = none) : Fault node depth loc (.unmappedType "object" loc)
  | scalar {type : String} (written : Reference.ofNode? node = none) (typed : node.getStr? "type" = some type)
      (notObject : type ≠ "object") (notArray : type ≠ "array") (unknown : scalarWord? types node type = none) :
      Fault node depth loc (.unmappedType type loc)
  | closing {word : String} (word : LeafWord root types hint node word) (inside : 0 < depth)
      (unknown : types.word? ">" = none) : Fault node depth loc (.unmappedType ">" loc)
  | container (goes : GoesOn node) (unknown : types.word? "array" = none) :
      Fault node depth loc (.unmappedType "array" loc)
  | opening {word : String} (goes : GoesOn node) (known : types.word? "array" = some word)
      (unknown : types.word? "<" = none) : Fault node depth loc (.unmappedType "<" loc)

end

section

variable {root : Json} {types : TypeTable} {hint : String} {node : Json} {depth : Nat} {loc : Location}
  {err : ResolveError}

theorem Fault.location_eq (fault : Fault root types hint node depth loc err) : err.location = loc := by
  cases fault <;> rfl

theorem declaredType_of_getStr? {type : String} (typed : node.getStr? "type" = some type) (loc : Location) :
    declaredType node loc = .ok type := by
  obtain ⟨v, given, hv⟩ := Option.bind_eq_some_iff.1 typed
  unfold declaredType
  rw [given]
  cases v <;> cases hv
  rfl

theorem leafToken_scalar {type : String} (notObject : type ≠ "object") : leafToken types node type hint loc =
    match scalarWord? types node type with
    | some word => .ok word
    | none => .error (.unmappedType type loc) := by
  unfold leafToken scalarWord?
  rw [if_neg notObject]
  rcases (node.getStr? "format").bind types.word? with _ | word <;> rfl

theorem LeafWord.ends {word : String} (h : LeafWord root types hint node word) : ¬ GoesOn node := by
  rintro ⟨unwritten, array, -⟩
  cases h with
  | reference written => rw [unwritten] at written; cases written
  | hinted _ object => exact absurd (array.symm.trans object) (by decide)
  | free _ object => exact absurd (array.symm.trans object) (by decide)
  | scalar _ typed _ notArray => exact notArray (Option.some.inj (typed.symm.trans array))

/-- A leaf has a word, or there is something wrong with it. -/
theorem leaf_cases (root : Json) (types : TypeTable) (hint : String) (ends : ¬ GoesOn node) :
    (∃ word, LeafWord root types hint node word) ∨ ∀ depth loc, ∃ err, Fault root types hint node depth loc err := by
  rcases written : Reference.ofNode? node with _ | text
  swap
  · rcases parsed : Reference.parse text with _ | r
    · exact .inr fun _ _ => ⟨_, .invalid written parsed⟩
    rcases found : r.find? root with _ | v
    · exact .inr fun _ _ => ⟨_, .dangling written parsed found⟩
    · exact .inl ⟨_, .reference written parsed found⟩
  rcases typed : node.getStr? "type" with _ | type
  · rcases shape : node.isObj with _ | _
    · exact .inr fun _ _ => ⟨_, .shape shape⟩
    rcases given : node.get? "type" with _ | v
    · exact .inr fun _ _ => ⟨_, .typeless shape written given⟩
    · rw [Json.getStr?, given, Option.bind_some] at typed
      exact .inr fun _ _ => ⟨_, .mistyped written given typed⟩
  by_cases array : type = "array"
  · subst array
    rcases items : node.get? "items" with _ | next
    · exact .inr fun _ _ => ⟨_, .itemless written typed items⟩
    · exact absurd ⟨written, typed, next, items⟩ ends
  by_cases object : type = "object"
  · subst object
    by_cases nameless : hint = ""
    · rcases known : types.word? "object" with _ | word
      · exact .inr fun _ _ => ⟨_, .object written typed nameless known⟩
      · exact .inl ⟨word, .free written typed nameless known⟩
    · exact .inl ⟨hint, .hinted written typed nameless⟩
  · rcases known : scalarWord? types node type with _ | word
    · exact .inr fun _ _ => ⟨_, .scalar written typed object array known⟩
    · exact .inl ⟨word, .scalar written typed object array known⟩

end

/-! ## The walk for a type -/

section

variable {root node next : Json} {text type : String} (types : TypeTable) (hint : String) (depth : Nat) (loc : Location)

theorem typeToken_reference (written : Reference.ofNode? node = some text) :
    typeToken root types node hint depth loc =
      (Reference.targetName root text loc).bind fun name => (types.closers depth loc).map (name ++ ·) := by
  rw [typeToken, isObj_of_getStr? written, written]
  rfl

theorem typeToken_typed (written : Reference.ofNode? node = none) (typed : node.getStr? "type" = some type) :
    typeToken root types node hint depth loc =
      if type = "array" then
        match node.get? "items" with
        | none => .error (.missingItems loc)
        | some items => (typeToken root types items hint (depth + 1) (loc ++ ".items")).bind fun inner =>
            (types.arrayOpen loc).map (· ++ inner)
      else (leafToken types node type hint loc).bind fun word => (types.closers depth loc).map (word ++ ·) := by
  rw [typeToken, isObj_of_getStr? typed, written, declaredType_of_getStr? typed loc]
  simp only [Bool.not_true, Bool.false_eq_true, if_false, bind, Except.bind]
  split
  · split
    · rename_i bare
      rw [bare]
    · rename_i next items
      rw [items]
      rfl
  · rfl

theorem typeToken_array (written : Reference.ofNode? node = none) (array : node.getStr? "type" = some "array")
    (items : node.get? "items" = some next) :
    typeToken root types node hint depth loc = (typeToken root types next hint (depth + 1) (loc ++ ".items")).bind
      fun inner => (types.arrayOpen loc).map (· ++ inner) := by
  rw [typeToken_typed types hint depth loc written array, if_pos rfl, items]

end

section

variable {root : Json} {types : TypeTable} {hint : String} {node next leaf : Json} {depth k : Nat} {loc : Location}
  {err : ResolveError}

/-- A leaf that has a word has the type that is made of it, unless the arrays around it cannot be closed. -/
theorem typeToken_of_leafWord {word : String} (h : LeafWord root types hint leaf word) (depth : Nat) (loc : Location) :
    typeToken root types leaf hint depth loc = (types.closers depth loc).map (word ++ ·) := by
  cases h with
  | @reference text r v written parsed found =>
    have hname : Reference.targetName root text loc = .ok r.name :=
      Reference.targetName_ok.2 ⟨r, v, parsed, found, rfl⟩
    rw [typeToken_reference types hint depth loc written, hname]
    rfl
  | hinted written object named =>
    rw [typeToken_typed types hint depth loc written object, if_neg (by decide), leafToken, if_pos rfl, if_neg named]
    rfl
  | free written object nameless known =>
    rw [typeToken_typed types hint depth loc written object, if_neg (by decide), leafToken, if_pos rfl,
      if_pos nameless, TypeTable.require, known]
    rfl
  | scalar written typed notObject notArray known =>
    rw [typeToken_typed types hint depth loc written typed, if_neg notArray, leafToken_scalar notObject, known]
    rfl

/-- A leaf at fault has no type. -/
theorem typeToken_of_fault (ends : ¬ GoesOn leaf) (fault : Fault root types hint leaf depth loc err) :
    typeToken root types leaf hint depth loc = .error err := by
  cases fault with
  | shape shape =>
    rw [typeToken, shape]
    rfl
  | invalid written malformed =>
    rw [typeToken_reference types hint depth loc written, Reference.targetName, Reference.resolve, malformed]
    rfl
  | dangling written parsed missing =>
    rw [typeToken_reference types hint depth loc written, Reference.targetName, Reference.resolve, parsed]
    simp only [missing]
    rfl
  | typeless mapping written typeless =>
    rw [typeToken, mapping, written, declaredType, typeless]
    rfl
  | @mistyped v written given mistyped =>
    have mapping : leaf.isObj = true := by
      cases leaf with
      | obj ms => rfl
      | _ => cases given
    rw [typeToken, mapping, written, declaredType, given]
    cases v with
    | str s => cases mistyped
    | _ => rfl
  | itemless written array bare => rw [typeToken_typed types hint depth loc written array, if_pos rfl, bare]
  | object written object nameless unknown =>
    rw [typeToken_typed types hint depth loc written object, if_neg (by decide), leafToken, if_pos rfl,
      if_pos nameless, TypeTable.require, unknown]
    rfl
  | scalar written typed notObject notArray unknown =>
    rw [typeToken_typed types hint depth loc written typed, if_neg notArray, leafToken_scalar notObject, unknown]
    rfl
  | closing word inside unknown =>
    rw [typeToken_of_leafWord word, TypeTable.closers_error.2 ⟨inside, unknown, rfl⟩]
    rfl
  | container goes => exact absurd goes ends
  | opening goes => exact absurd goes ends

/-- Outside of arrays a leaf has a type exactly if it has a word. -/
theorem exists_typeToken_iff (ends : ¬ GoesOn leaf) : (∃ token, typeToken root types leaf hint 0 loc = .ok token) ↔
    ∃ word, LeafWord root types hint leaf word := by
  constructor
  · rintro ⟨token, h⟩
    rcases leaf_cases root types hint ends with hword | hfault
    · exact hword
    · obtain ⟨err, fault⟩ := hfault 0 loc
      rw [typeToken_of_fault ends fault] at h
      cases h
  · rintro ⟨word, hword⟩
    exact ⟨_, typeToken_of_leafWord hword 0 loc⟩

/-- What can be wrong with an array with items is that it cannot be opened. -/
theorem fault_iff_of_goesOn (goes : GoesOn node) :
    Fault root types hint node depth loc err ↔ types.arrayOpen loc = .error err := by
  obtain ⟨written, array, next, items⟩ := goes
  rw [TypeTable.arrayOpen_error]
  constructor
  · intro fault
    cases fault with
    | shape shape => rw [isObj_of_getStr? array] at shape; cases shape
    | invalid written' => rw [written] at written'; cases written'
    | dangling written' => rw [written] at written'; cases written'
    | typeless _ _ typeless => rw [Json.getStr?, typeless] at array; cases array
    | mistyped _ given mistyped => rw [Json.getStr?, given, Option.bind_some, mistyped] at array; cases array
    | itemless _ _ bare => rw [items] at bare; cases bare
    | object _ object => exact absurd (array.symm.trans object) (by decide)
    | scalar _ typed _ notArray => exact absurd (Option.some.inj (typed.symm.trans array)) notArray
    | closing word => exact absurd ⟨written, array, next, items⟩ word.ends
    | container _ unknown => exact .inl ⟨unknown, rfl⟩
    | opening _ known unknown => exact .inr ⟨⟨_, known⟩, unknown, rfl⟩
  · rintro (⟨unknown, rfl⟩ | ⟨⟨word, known⟩, unknown, rfl⟩)
    · exact .container ⟨written, array, next, items⟩ unknown
    · exact .opening ⟨written, array, next, items⟩ known unknown

end

end Schema

end ApiScaffold
