/-
The type of a schema node, spelled out. A type that is found is the word for the leaf of the node's chain, between the
openings of all arrays and their ends (`Wrapped`). A type that is not found is due to one node of the chain: of the
nodes at fault the deepest is the one that the error names.
-/
import ApiScaffold.Proofs.Schema.Leaf

namespace ApiScaffold

/-! ## Array types -/

namespace TypeTable

/-- A word inside `layers` arrays, with the ends of `depth` more that are open around them. -/
def Wrapped (types : TypeTable) (layers depth : Nat) (word token : String) : Prop :=
  ∃ array opening closing, (0 < layers → types.word? "array" = some array ∧ types.word? "<" = some opening) ∧
    (0 < layers + depth → types.word? ">" = some closing) ∧
    token = Text.repeated layers (array ++ opening) ++ word ++ Text.repeated (layers + depth) closing

theorem Wrapped.leaf {types : TypeTable} {depth : Nat} {loc : Location} {word closing : String}
    (h : types.closers depth loc = .ok closing) : types.Wrapped 0 depth word (word ++ closing) := by
  obtain ⟨closing, hclosing, rfl⟩ := closers_ok.1 h
  refine ⟨"", "", closing, fun inside => absurd inside (Nat.lt_irrefl 0), ?_, ?_⟩
  · rwa [Nat.zero_add]
  · rw [Nat.zero_add, Text.repeated_zero, String.empty_append]

/-- What is inside some arrays with one more around them is inside one more array. -/
theorem Wrapped.array {types : TypeTable} {layers depth : Nat} {loc : Location} {word inner opening : String}
    (h : types.Wrapped layers (depth + 1) word inner) (hopening : types.arrayOpen loc = .ok opening) :
    types.Wrapped (layers + 1) depth word (opening ++ inner) := by
  obtain ⟨array, bracket, harray, hbracket, rfl⟩ := arrayOpen_ok.1 hopening
  obtain ⟨array', bracket', closing, hwords, hclosing, rfl⟩ := h
  have hdepth : layers + (depth + 1) = layers + 1 + depth := by omega
  refine ⟨array, bracket, closing, fun _ => ⟨harray, hbracket⟩, hdepth ▸ hclosing, ?_⟩
  have hrest : Text.repeated layers (array' ++ bracket') = Text.repeated layers (array ++ bracket) := by
    rcases layers with _ | layers
    · rfl
    · obtain ⟨harray', hbracket'⟩ := hwords (Nat.succ_pos layers)
      rw [harray] at harray'
      rw [hbracket] at hbracket'
      cases harray'
      cases hbracket'
      rfl
  rw [hrest, hdepth, Text.repeated_succ]
  simp only [String.append_assoc]

end TypeTable

namespace Schema

/-! ## Faults in a chain -/

section

variable {root : Json} {types : TypeTable} {hint : String} {node next leaf : Json} {depth k : Nat} {loc : Location}
  {err : ResolveError}

/-- What is wrong with the node that is so many arrays down a chain. -/
def FaultAt (root : Json) (types : TypeTable) (hint : String) (node : Json) (depth : Nat) (loc : Location) (k : Nat)
    (err : ResolveError) : Prop :=
  ∃ element, ItemsTo node element k ∧ Fault root types hint element (k + depth) (loc ++ Text.repeated k ".items") err

theorem faultAt_zero : FaultAt root types hint node depth loc 0 err ↔ Fault root types hint node depth loc err := by
  unfold FaultAt
  rw [Nat.zero_add, Text.repeated_zero, String.append_empty]
  constructor
  · rintro ⟨element, chain, fault⟩
    cases chain
    exact fault
  · exact fun fault => ⟨node, .here node, fault⟩

theorem faultAt_succ (written : Reference.ofNode? node = none) (array : node.getStr? "type" = some "array")
    (items : node.get? "items" = some next) : FaultAt root types hint node depth loc (k + 1) err ↔
      FaultAt root types hint next (depth + 1) (loc ++ ".items") k err := by
  have hdepth : k + 1 + depth = k + (depth + 1) := by omega
  have hplace : loc ++ Text.repeated (k + 1) ".items" = loc ++ ".items" ++ Text.repeated k ".items" := by
    rw [Text.repeated_succ, String.append_assoc]
  unfold FaultAt
  rw [hdepth, hplace]
  constructor
  · rintro ⟨element, chain, fault⟩
    exact ⟨element, chain.of_items items, fault⟩
  · rintro ⟨element, chain, fault⟩
    exact ⟨element, .items written array items chain, fault⟩

theorem not_faultAt_of_leaf (ends : ¬ GoesOn node) : ¬ FaultAt root types hint node depth loc (k + 1) err := by
  rintro ⟨element, chain, -⟩
  have := (chain.of_end ends).2
  omega

/-! ## The type of a chain -/

/-- What the walk for a type gives, `layers` arrays above a leaf: the word for the leaf inside all arrays, or what is
wrong with the deepest node that is at fault. -/
inductive Spelled (root : Json) (types : TypeTable) (hint : String) (node leaf : Json) (layers depth : Nat)
    (loc : Location) : Except ResolveError String → Prop
  | token {word token : String} (found : LeafWord root types hint leaf word)
      (wrapped : types.Wrapped layers depth word token)
      (faultless : ∀ k err, ¬ FaultAt root types hint node depth loc k err) :
      Spelled root types hint node leaf layers depth loc (.ok token)
  | fault {k : Nat} {err : ResolveError} (fault : FaultAt root types hint node depth loc k err)
      (deepest : ∀ k' err', k < k' → ¬ FaultAt root types hint node depth loc k' err')
      (located : err.location = loc ++ Text.repeated k ".items") :
      Spelled root types hint node leaf layers depth loc (.error err)

theorem spelled_leaf (ends : ¬ GoesOn leaf) (depth : Nat) (loc : Location) :
    Spelled root types hint leaf leaf 0 depth loc (typeToken root types leaf hint depth loc) := by
  have faulty : ∀ {err}, Fault root types hint leaf depth loc err →
      Spelled root types hint leaf leaf 0 depth loc (typeToken root types leaf hint depth loc) := by
    intro err fault
    rw [typeToken_of_fault ends fault]
    refine .fault (faultAt_zero.2 fault) (fun k' err' hk => ?_) ?_
    · obtain ⟨k, rfl⟩ := Nat.exists_eq_add_of_lt hk
      exact not_faultAt_of_leaf ends
    · rw [fault.location_eq, Text.repeated_zero, String.append_empty]
  rcases leaf_cases root types hint ends with ⟨word, hword⟩ | hfault
  · rcases hclosers : types.closers depth loc with err | closing
    · obtain ⟨inside, unknown, rfl⟩ := TypeTable.closers_error.1 hclosers
      exact faulty (.closing hword inside unknown)
    · have htoken : typeToken root types leaf hint depth loc = .ok (word ++ closing) := by
        rw [typeToken_of_leafWord hword, hclosers]
        rfl
      rw [htoken]
      refine .token hword (.leaf hclosers) fun k err fault => ?_
      rcases k with _ | k
      · rw [typeToken_of_fault ends (faultAt_zero.1 fault)] at htoken
        cases htoken
      · exact not_faultAt_of_leaf ends fault
  · obtain ⟨err, fault⟩ := hfault depth loc
    exact faulty fault

theorem spelled_array (written : Reference.ofNode? node = none) (array : node.getStr? "type" = some "array")
    (items : node.get? "items" = some next) {layers : Nat}
    (h : Spelled root types hint next leaf layers (depth + 1) (loc ++ ".items")
      (typeToken root types next hint (depth + 1) (loc ++ ".items"))) :
    Spelled root types hint node leaf (layers + 1) depth loc (typeToken root types node hint depth loc) := by
  have hgoes : GoesOn node := ⟨written, array, next, items⟩
  rw [typeToken_array types hint depth loc written array items]
  generalize typeToken root types next hint (depth + 1) (loc ++ ".items") = inner at h
  cases h with
  | @token word token found wrapped faultless =>
    -- nothing is wrong further down, so it depends on this array whether there is a type
    have hbelow : ∀ k err, ¬ FaultAt root types hint node depth loc (k + 1) err := fun k err fault =>
      faultless k err ((faultAt_succ written array items).1 fault)
    rcases hopen : types.arrayOpen loc with err | opening
    · have fault : Fault root types hint node depth loc err := (fault_iff_of_goesOn hgoes).2 hopen
      refine .fault (faultAt_zero.2 fault) (fun k' err' hk => ?_) ?_
      · obtain ⟨k, rfl⟩ := Nat.exists_eq_add_of_lt hk
        exact hbelow _ err'
      · rw [fault.location_eq, Text.repeated_zero, String.append_empty]
    · refine .token found (wrapped.array hopen) fun k err fault => ?_
      rcases k with _ | k
      · rw [(fault_iff_of_goesOn hgoes).1 (faultAt_zero.1 fault)] at hopen
        cases hopen
      · exact hbelow k err fault
  | @fault k err fault deepest located =>
    refine .fault (k := k + 1) ((faultAt_succ written array items).2 fault) (fun k' err' hk => ?_) ?_
    · obtain ⟨d, rfl⟩ := Nat.exists_eq_add_of_lt hk
      exact fun hfault => deepest _ err' (by omega) ((faultAt_succ written array items).1 hfault)
    · rw [located, Text.repeated_succ, String.append_assoc]

/-- The walk for a type goes down the whole chain, one array at a time. -/
theorem spelled_of_endsIn {layers : Nat} (h : EndsIn node leaf layers) (depth : Nat) (loc : Location) :
    Spelled root types hint node leaf layers depth loc (typeToken root types node hint depth loc) := by
  obtain ⟨chain, ends⟩ := h
  induction chain generalizing depth loc with
  | here node => exact spelled_leaf ends depth loc
  | items written array items _ ih => exact spelled_array written array items (ih _ _ ends)

/-- The type of a node, spelled out. -/
theorem typeToken_spelled (root : Json) (types : TypeTable) (node : Json) (hint : String) (depth : Nat)
    (loc : Location) : ∃ leaf layers,
      (∀ leaf' layers', EndsIn node leaf' layers' ↔ leaf' = leaf ∧ layers' = layers) ∧
      Spelled root types hint node leaf layers depth loc (typeToken root types node hint depth loc) := by
  obtain ⟨leaf, layers, ends⟩ := exists_endsIn node
  refine ⟨leaf, layers, fun leaf' layers' => ⟨fun h => h.unique ends, ?_⟩, spelled_of_endsIn ends depth loc⟩
  rintro ⟨rfl, rfl⟩
  exact ends

/-- A type does not depend on the place at which it is read. -/
theorem typeToken_relocate {token : String} (h : typeToken root types node hint depth loc = .ok token)
    (loc' : Location) : typeToken root types node hint depth loc' = .ok token := by
  obtain ⟨leaf, layers, chain, ends⟩ := exists_endsIn node
  induction chain generalizing depth loc loc' token with
  | here node =>
    rcases leaf_cases root types hint ends with ⟨word, hword⟩ | hfault
    · rw [typeToken_of_leafWord hword] at h ⊢
      obtain ⟨closing, hclosing, rfl⟩ := except_map_ok h
      rw [TypeTable.closers_ok.2 (TypeTable.closers_ok.1 hclosing)]
      rfl
    · obtain ⟨err, fault⟩ := hfault depth loc
      rw [typeToken_of_fault ends fault] at h
      cases h
  | items written array items _ ih =>
    rw [typeToken_array types hint depth loc written array items] at h
    obtain ⟨inner, hinner, h⟩ := except_bind_ok h
    obtain ⟨opening, hopening, rfl⟩ := except_map_ok h
    rw [typeToken_array types hint depth loc' written array items, ih hinner _ ends, Except.bind,
      TypeTable.arrayOpen_ok.2 (TypeTable.arrayOpen_ok.1 hopening)]
    rfl

theorem schemaToken_relocate {entry : Json} {type : Option String} (h : schemaToken root types entry loc = .ok type)
    (loc' : Location) : schemaToken root types entry loc' = .ok type := by
  unfold schemaToken at h ⊢
  split at h
  · exact h
  · obtain ⟨token, htoken, rfl⟩ := except_map_ok h
    rw [typeToken_relocate htoken]
    rfl

/-- An array of arrays in an open array: the ends of all three are written. -/
example : typeToken .null ⟨[("string", "text"), ("array", "list"), ("<", "["), (">", "]")]⟩
    (.obj [("type", .str "array"), ("items", .obj [("type", .str "array"), ("items", .obj [("type", .str "string")])])])
    "" 1 "x" = .ok "list[list[text]]]" := by decide +kernel

/-- Neither array can be opened, and there is no word for the leaf, which is the deepest of the three. -/
example : typeToken .null ⟨[]⟩
    (.obj [("type", .str "array"), ("items", .obj [("type", .str "array"), ("items", .obj [("type", .str "string")])])])
    "" 0 "x" = .error (.unmappedType "string" "x.items.items") := by decide +kernel

end

end Schema

end ApiScaffold
