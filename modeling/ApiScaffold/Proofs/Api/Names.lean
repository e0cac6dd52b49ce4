/-
The names of operations. Declared names are refused if two are the same, and a derived name gives way to what is taken
(`freeName_not_mem`), so no two operations of a description have the same name (`names_distinct`). The functions that
are written for the operations of a tag have these names in another style, and two names can become one there.
-/
import ApiScaffold.Proofs.Api.Listing
import ApiScaffold.Proofs.Text.Humps

namespace ApiScaffold.Api

/-! ## Free names -/

theorem toString_nat_inj {m n : Nat} (h : toString m = toString n) : m = n := by
  rw [Nat.toString_eq_ofList_toDigits, Nat.toString_eq_ofList_toDigits, String.ofList_inj] at h
  have hdigits := congrArg (fun cs => Nat.ofDigitChars 10 cs 0) h
  simpa only [Nat.ofDigitChars_ten_toDigits] using hdigits

/-- One name with different numbers gives different names. -/
theorem nodup_numbered (name : String) (n k : Nat) : ((List.range k).map fun j => name ++ toString (n + j)).Nodup := by
  refine List.nodup_range.map fun i j hij => ?_
  exact Nat.add_left_cancel (toString_nat_inj ((String.append_right_inj name).1 hij))

/-- The search stops at a free name or at the end, and whatever it passed is taken. -/
theorem freeName_cases (taken : List String) (name : String) (fuel n : Nat) : ∃ k ≤ fuel,
    freeName taken name fuel n = name ++ toString (n + k) ∧ (∀ j < k, name ++ toString (n + j) ∈ taken) ∧
      (k < fuel → name ++ toString (n + k) ∉ taken) := by
  induction fuel generalizing n with
  | zero => exact ⟨0, le_rfl, rfl, by simp, by simp⟩
  | succ fuel ih =>
    unfold freeName
    split
    · rename_i hmem
      obtain ⟨k, hk, heq, htaken, hfree⟩ := ih (n + 1)
      have hnext : ∀ j, n + 1 + j = n + (j + 1) := fun j => by omega
      simp only [hnext] at heq htaken hfree
      refine ⟨k + 1, by omega, heq, fun j hj => ?_, fun hlt => hfree (by omega)⟩
      rcases j with _ | j
      · exact List.contains_iff_mem.1 hmem
      · exact htaken j (by omega)
    · rename_i hfree
      exact ⟨0, Nat.zero_le _, rfl, by simp, fun _ hmem => hfree (List.contains_iff_mem.2 hmem)⟩

/-- Among more numbers than there are taken names one gives a free name. -/
theorem freeName_not_mem (taken : List String) (name : String) (n : Nat) :
    freeName taken name taken.length n ∉ taken := by
  obtain ⟨k, hk, heq, htaken, hfree⟩ := freeName_cases taken name taken.length n
  rw [heq]
  rcases Nat.lt_or_eq_of_le hk with hlt | rfl
  · exact hfree hlt
  intro hmem
  have hnodup := nodup_numbered name n (taken.length + 1)
  have hsub : (List.range (taken.length + 1)).map (fun j => name ++ toString (n + j)) ⊆ taken := by
    intro _ hname
    obtain ⟨j, hj, rfl⟩ := List.mem_map.1 hname
    rcases Nat.lt_or_eq_of_le (Nat.le_of_lt_succ (List.mem_range.1 hj)) with hlt | rfl
    · exact htaken j hlt
    · exact hmem
  have hlength := (List.subperm_of_subset hnodup hsub).length_le
  rw [List.length_map, List.length_range] at hlength
  omega

/-- A name that gives way where it is taken is free. -/
theorem givenName_not_mem (taken : List String) (name : String) :
    (if taken.contains name then freeName taken name taken.length 2 else name) ∉ taken := by
  split
  · exact freeName_not_mem taken name 2
  · rename_i hfree
    exact fun hmem => hfree (List.contains_iff_mem.2 hmem)

/-! ## Giving names -/

/-- The names that the document gives. -/
def declaredNames (routes : List Route) : List String := (routes.filter (·.declared)).map (·.operation.functionName)

theorem declaredNames_cons_of_declared {r : Route} (rest : List Route) (h : r.declared = true) :
    declaredNames (r :: rest) = r.operation.functionName :: declaredNames rest := by
  simp [declaredNames, h]

theorem declaredNames_cons_of_derived {r : Route} (rest : List Route) (h : ¬ r.declared = true) :
    declaredNames (r :: rest) = declaredNames rest := by
  simp [declaredNames, h]

/-- Where the declared names could be taken they are distinct. -/
theorem takeDeclared_ok {taken holders : Holders} {routes : List Route} (h : takeDeclared taken routes = .ok holders)
    (distinct : (taken.map (·.1)).Nodup) :
    holders.map (·.1) = (declaredNames routes).reverse ++ taken.map (·.1) ∧ (holders.map (·.1)).Nodup := by
  induction routes generalizing taken with
  | nil =>
    cases h
    exact ⟨rfl, distinct⟩
  | cons r rest ih =>
    unfold takeDeclared at h
    split at h
    · rename_i declared
      split at h
      · cases h
      rename_i free
      have hfree : r.operation.functionName ∉ taken.map (·.1) := by
        intro hmem
        obtain ⟨holder, hholder, hname⟩ := List.mem_map.1 hmem
        have hne := List.lookup_eq_none_iff.1 free holder hholder
        simp [hname] at hne
      obtain ⟨heq, hnodup⟩ := ih h (List.nodup_cons.2 ⟨hfree, distinct⟩)
      refine ⟨?_, hnodup⟩
      rw [heq, declaredNames_cons_of_declared rest declared]
      simp
    · rename_i derived
      rw [declaredNames_cons_of_derived rest derived]
      exact ih h distinct

/-- Names that are given while some are taken, the declared ones among them: each is declared or was free, and they are
distinct. -/
theorem names_renameDerived {taken : List String} {routes : List Route} (distinct : (declaredNames routes).Nodup)
    (sub : declaredNames routes ⊆ taken) :
    ((renameDerived taken routes).map (·.operation.functionName)).Nodup ∧
      ∀ name ∈ (renameDerived taken routes).map (·.operation.functionName),
        name ∈ declaredNames routes ∨ name ∉ taken := by
  induction routes generalizing taken with
  | nil => exact ⟨List.nodup_nil, fun name h => by cases h⟩
  | cons r rest ih =>
    unfold renameDerived
    split
    · rename_i declared
      rw [declaredNames_cons_of_declared rest declared] at distinct sub ⊢
      obtain ⟨hne, hdistinct⟩ := List.nodup_cons.1 distinct
      obtain ⟨hmem, hsub⟩ := List.cons_subset.1 sub
      obtain ⟨hnodup, hall⟩ := ih hdistinct hsub
      refine ⟨List.nodup_cons.2 ⟨fun hin => ?_, hnodup⟩, fun name hname => ?_⟩
      · exact (hall _ hin).elim hne fun hfree => hfree hmem
      · rcases List.mem_cons.1 hname with rfl | hname
        · exact .inl (List.mem_cons_self ..)
        · exact (hall name hname).imp_left (List.mem_cons_of_mem _)
    · rename_i derived
      rw [declaredNames_cons_of_derived rest derived] at distinct sub ⊢
      simp only
      have hfree := givenName_not_mem taken r.operation.functionName
      generalize (if taken.contains r.operation.functionName = true then
        freeName taken r.operation.functionName taken.length 2 else r.operation.functionName) = given at hfree ⊢
      obtain ⟨hnodup, hall⟩ := ih distinct (List.subset_cons_of_subset given sub)
      refine ⟨List.nodup_cons.2 ⟨fun hin => ?_, hnodup⟩, fun name hname => ?_⟩
      · exact (hall given hin).elim (fun hdeclared => hfree (sub hdeclared)) fun hnot => hnot (List.mem_cons_self ..)
      · rcases List.mem_cons.1 hname with rfl | hname
        · exact .inr hfree
        · exact (hall name hname).imp_right fun hnot hmem => hnot (List.mem_cons_of_mem _ hmem)

theorem names_assignNames {routes named : List Route} (h : assignNames routes = .ok named) :
    (named.map (·.operation.functionName)).Nodup := by
  obtain ⟨holders, hholders, h⟩ := except_bind_ok h
  cases h
  obtain ⟨heq, hnodup⟩ := takeDeclared_ok hholders List.nodup_nil
  rw [List.map_nil, List.append_nil] at heq
  rw [heq] at hnodup ⊢
  exact (names_renameDerived (List.nodup_reverse.1 hnodup) fun _ hname => List.mem_reverse.2 hname).1

/-! ## The names of a description -/

/-- No two operations of a description have the same name. -/
theorem names_distinct {doc : Document} {types : TypeTable} {api : Api} (h : ofDocument doc types = .ok api) :
    (api.operations.map (·.functionName)).Nodup := by
  obtain ⟨-, routes, named, -, hnamed, hpaths⟩ := ofDocument_parts h
  have hnodup : ((named.map (·.operation)).map (·.functionName)).Nodup := by
    rw [List.map_map]
    exact names_assignNames hnamed
  have hperm : api.operations.Perm (named.map (·.operation)) := by
    unfold operations
    rw [hpaths]
    exact groupByTag_perm (hnodup.of_map _)
  exact (hperm.map (·.functionName)).nodup_iff.2 hnodup

/-! ## The functions of a tag -/

open Text (Ascii camelCase humps lowerWords snakeCase)

/-- When the functions that are written for operations have distinct names. -/
structure FunctionNames (ops : List Operation) : Prop where
  /-- The operations themselves do. -/
  distinct : (ops.map (·.functionName)).Nodup
  /-- In lower case with underscores they do if their words differ in more than case. -/
  snake : (ops.map fun op => snakeCase op.functionName).Nodup ↔ (ops.map fun op => lowerWords op.functionName).Nodup
  /-- In camel case ASCII names do if their humps differ. -/
  camel : (∀ op ∈ ops, Ascii op.functionName) →
    ((ops.map fun op => camelCase op.functionName).Nodup ↔ (ops.map fun op => humps op.functionName).Nodup)

/-- Two readings of a list that tell the same elements apart. -/
theorem nodup_map_iff {α β γ : Type} {f : α → β} {g : α → γ} {xs : List α}
    (same : ∀ a ∈ xs, ∀ b ∈ xs, f a = f b ↔ g a = g b) : (xs.map f).Nodup ↔ (xs.map g).Nodup := by
  unfold List.Nodup
  rw [List.pairwise_map, List.pairwise_map]
  exact List.Pairwise.iff_of_mem fun {a b} ha hb => not_congr (same a ha b hb)

/-- The names of the operations of a tag, and of the functions that are written for them. -/
theorem function_names {doc : Document} {types : TypeTable} {api : Api} (h : ofDocument doc types = .ok api)
    {tag : String} {ops : List Operation} (listed : api.paths.get? tag = some ops) : FunctionNames ops where
  distinct := by
    have hmem : ops ∈ api.paths.values := SortedMap.mem_values.2 ⟨tag, listed⟩
    exact (names_distinct h).sublist ((List.sublist_flatten_of_mem hmem).map _)
  snake := nodup_map_iff fun _ _ _ _ => Text.snakeCase_eq_iff
  camel := fun ascii => nodup_map_iff fun a ha b hb => Text.camelCase_eq_iff (ascii a ha) (ascii b hb)

theorem nodup_of_names {α : Type} {ops : List Operation} {names : List String}
    (h : (ops.map (·.functionName)).Perm names) (f : String → α) :
    (ops.map fun op => f op.functionName).Nodup ↔ (names.map f).Nodup := by
  have hperm := h.map f
  rw [List.map_map] at hperm
  exact hperm.nodup_iff

/-- The animals have operations with distinct functions. -/
theorem function_names_zoo : ∃ api ops, ofDocument zoo ⟨[]⟩ = .ok api ∧ api.paths.get? "zoo" = some ops ∧
    FunctionNames ops ∧ (ops.map (·.functionName)).Perm ["listB", "createB", "deleteA"] ∧
    (ops.map fun op => snakeCase op.functionName).Nodup ∧ (ops.map fun op => camelCase op.functionName).Nodup := by
  obtain ⟨api, ops, hapi, hops, hnames⟩ := exists_names zoo ⟨[]⟩ "zoo" ["listB", "createB", "deleteA"]
    (by decide +kernel) (by decide +kernel)
  have hnamed := function_names hapi hops
  refine ⟨api, ops, hapi, hops, hnamed, hnames, hnamed.snake.2 ?_, (hnamed.camel ?_).2 ?_⟩
  · rw [nodup_of_names hnames lowerWords]
    decide +kernel
  · intro op hop
    have hall : ∀ name ∈ ["listB", "createB", "deleteA"], Ascii name := by decide +kernel
    exact hall _ (hnames.mem_iff.1 (List.mem_map_of_mem hop))
  · rw [nodup_of_names hnames humps]
    decide +kernel

/-- Two operations whose names differ in style only. -/
def twins : Document where
  root := .obj [
    ("openapi", .str "3.0.0"),
    ("paths", .obj [
      ("/new", .obj [("get", .obj [("operationId", .str "getPet")])]),
      ("/old", .obj [("get", .obj [("operationId", .str "get_pet")])])])]

/-- The functions of a tag can have the same name. -/
theorem function_names_clash : ∃ api ops, ofDocument twins ⟨[]⟩ = .ok api ∧ api.paths.get? "default" = some ops ∧
    ¬ (ops.map fun op => snakeCase op.functionName).Nodup ∧ ¬ (ops.map fun op => camelCase op.functionName).Nodup := by
  obtain ⟨api, ops, hapi, hops, hnames⟩ := exists_names twins ⟨[]⟩ "default" ["getPet", "get_pet"]
    (by decide +kernel) (by decide +kernel)
  refine ⟨api, ops, hapi, hops, ?_, ?_⟩
  · rw [nodup_of_names hnames snakeCase]
    decide +kernel
  · rw [nodup_of_names hnames camelCase]
    decide +kernel

end ApiScaffold.Api
