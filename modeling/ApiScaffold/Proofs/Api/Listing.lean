/-
The operations of a description as lists. Every method that a path of the document has gives one operation, known by
its address and method (`Operation.endpoint`), and the operations of a tag stand in strict order (`Operation.Before`).
Reading gives the endpoints in the order of the document, naming keeps them, and grouping by tag rearranges them.
-/
import ApiScaffold.Proofs.Api.Operations
import ApiScaffold.Proofs.Json.Names
import ApiScaffold.Proofs.Sorting

namespace ApiScaffold

/-! ## Endpoints and their order -/

theorem HttpMethod.eq_of_rank_eq {a b : HttpMethod} (h : a.rank = b.rank) : a = b := by
  cases a <;> cases b <;> first | rfl | cases h

namespace Operation

/-- The address and method of an operation. -/
def endpoint (op : Operation) : String × HttpMethod := (op.url, op.method)

/-- By address, and at one address in the order of the methods. -/
def Before (a b : Operation) : Prop := a.url < b.url ∨ a.url = b.url ∧ a.method.rank < b.method.rank

end Operation

namespace Api

open Operation (endpoint)

theorem operationLe_iff {a b : Operation} :
    operationLe a b = true ↔ a.url < b.url ∨ a.url = b.url ∧ a.method.rank ≤ b.method.rank := by
  unfold operationLe
  by_cases hurl : a.url = b.url
  · simp [hurl]
  · simp [hurl]

/-- The test by which the operations of a tag are sorted; no endpoint is there twice. -/
theorem operationSorts : Sorts operationLe Operation.Before endpoint where
  trans := fun a b c hab hbc => by
    rw [operationLe_iff] at hab hbc ⊢
    exact lex_trans hab hbc
  total := fun a b => by
    rw [Bool.or_eq_true, operationLe_iff, operationLe_iff]
    exact lex_total ..
  strict := fun {a b} h => by
    rcases operationLe_iff.1 h with hlt | ⟨hurl, hle⟩
    · exact .inl (.inl hlt)
    · rcases Nat.lt_or_eq_of_le hle with hlt | heq
      · exact .inl (.inr ⟨hurl, hlt⟩)
      · exact .inr (Prod.ext hurl (HttpMethod.eq_of_rank_eq heq))
  asymm := lex_asymm

/-! ## Reading -/

/-- The methods that a path item has. -/
def methodsOf (item : Json) : List HttpMethod := HttpMethod.all.filter fun method => (item.get? method.key).isSome

/-- The endpoints of paths in declared order. -/
def endpointsOf (paths : Members) : List (String × HttpMethod) :=
  paths.flatMap fun path => (methodsOf path.2).map fun method => (path.1, method)

section

variable {root : Json} {types : TypeTable}

theorem endpoints_of_methods {url : String} {item : Members} {methods : List HttpMethod} {read : List (Option Route)}
    (h : List.Forall₂ (fun method route => readRoute root types url item method = .ok route) methods read) :
    (read.filterMap id).map (fun r => endpoint r.operation) =
      (methods.filter fun method => ((Json.obj item).get? method.key).isSome).map fun method => (url, method) := by
  induction h with
  | nil => rfl
  | @cons method route methods read hroute _ ih =>
    have hget : (Json.obj item).get? method.key = Members.get? item method.key := rfl
    rcases readRoute_ok hroute with ⟨absent, rfl⟩ | ⟨declared, r, given, rfl, hfrom⟩
    · rw [List.filter_cons_of_neg (by simp [hget, absent]), ← ih]
      rfl
    · rw [List.filter_cons_of_pos (by simp [hget, given]), List.map_cons, ← ih]
      rw [← hfrom.url, ← hfrom.method]
      rfl

theorem endpoints_of_paths {paths : Members} {parts : List (List Route)}
    (h : List.Forall₂ (fun path part => readPath root types path.1 path.2 = .ok part) paths parts) :
    parts.flatten.map (fun r => endpoint r.operation) = endpointsOf paths := by
  induction h with
  | nil => rfl
  | @cons path part paths parts hpath _ ih =>
    obtain ⟨item, hitem, read, hread, rfl⟩ := readPath_ok hpath
    unfold endpointsOf at ih ⊢
    rw [List.flatten_cons, List.map_append, ih, List.flatMap_cons, endpoints_of_methods (except_mapM_ok hread), hitem]
    rfl

/-- Reading gives the endpoints in declared order. -/
theorem readRoutes_endpoints {paths : Members} {routes : List Route} (h : readRoutes root types paths = .ok routes) :
    routes.map (fun r => endpoint r.operation) = endpointsOf paths := by
  obtain ⟨parts, hparts, h⟩ := except_bind_ok h
  cases h
  exact endpoints_of_paths (except_mapM_ok hparts)

end

theorem mem_endpointsOf {paths : Members} {url : String} {method : HttpMethod} :
    (url, method) ∈ endpointsOf paths ↔ ∃ item, (url, item) ∈ paths ∧ (item.get? method.key).isSome = true := by
  unfold endpointsOf methodsOf
  simp only [List.mem_flatMap, List.mem_map, List.mem_filter, Prod.mk.injEq, Prod.exists]
  constructor
  · rintro ⟨_, item, hmem, _, ⟨-, hsome⟩, rfl, rfl⟩
    exact ⟨item, hmem, hsome⟩
  · rintro ⟨item, hmem, hsome⟩
    exact ⟨url, item, hmem, method, ⟨mem_all method, hsome⟩, rfl, rfl⟩

/-- Paths with distinct addresses have distinct endpoints. -/
theorem nodup_endpointsOf {paths : Members} (unique : Members.UniqueNames paths) : (endpointsOf paths).Nodup := by
  unfold endpointsOf methodsOf
  refine List.nodup_flatMap.2 ⟨fun path _ => ?_, ?_⟩
  · have hall : HttpMethod.all.Nodup := by decide
    exact (hall.filter _).map fun _ _ heq => (Prod.mk.inj heq).2
  · refine (List.pairwise_map.1 unique).imp fun {a b} hne => ?_
    simp only [Function.onFun, List.disjoint_left, List.mem_map, not_exists, not_and]
    rintro _ ⟨method, -, rfl⟩ method' - heq
    exact hne (Prod.mk.inj heq).1.symm

/-! ## Naming and grouping -/

theorem endpoints_of_sameButName {ops ops' : List Operation} (h : List.Forall₂ SameButName ops ops') :
    ops'.map endpoint = ops.map endpoint := by
  induction h with
  | nil => rfl
  | cons hsame _ ih =>
    obtain ⟨name, rfl⟩ := hsame
    rw [List.map_cons, List.map_cons, ih]
    rfl

theorem assignNames_endpoints {routes named : List Route} (h : assignNames routes = .ok named) :
    (named.map (·.operation)).map endpoint = (routes.map (·.operation)).map endpoint := by
  obtain ⟨taken, -, h⟩ := except_bind_ok h
  cases h
  exact endpoints_of_sameButName (forall₂_renameDerived ..)

/-- The groups of distinct operations hold each operation once. -/
theorem groupByTag_perm {ops : List Operation} (distinct : ops.Nodup) : (groupByTag ops).values.flatten.Perm ops := by
  refine (List.perm_ext_iff_of_nodup ?_ distinct).2 fun _ => mem_groupByTag
  have hgroup : ∀ e ∈ (groupByTag ops).entries, e.2.Nodup ∧ ∀ op ∈ e.2, op.tag = e.1 := by
    intro e he
    obtain ⟨-, hsorted⟩ := get?_groupByTag.1 ((groupByTag ops).get?_of_mem he)
    rw [← hsorted]
    refine ⟨(List.mergeSort_perm ..).nodup_iff.2 (distinct.filter _), fun op hop => ?_⟩
    exact (mem_tagged.1 (List.mem_mergeSort.1 hop)).2
  refine List.nodup_flatten.2 ⟨?_, List.pairwise_map.2 ?_⟩
  · rintro _ hgroup'
    obtain ⟨e, he, rfl⟩ := List.mem_map.1 hgroup'
    exact (hgroup e he).1
  · -- what two groups share would have both their tags
    refine (groupByTag ops).sorted.imp_of_mem fun {d e} hd he hlt => List.disjoint_left.2 fun op hop hop' => ?_
    have heq : d.1 = e.1 := ((hgroup d hd).2 op hop).symm.trans ((hgroup e he).2 op hop')
    exact String.lt_irrefl _ (heq ▸ hlt)

/-! ## The operations of a description -/

/-- The operations of a description against the paths of its document. -/
structure Listed (doc : Document) (api : Api) : Prop where
  /-- No two operations have the same address and method. -/
  distinct : (api.operations.map endpoint).Nodup
  /-- There is one for every method of every path, and no other. -/
  complete : ∀ url method, (url, method) ∈ api.operations.map endpoint ↔
    ∃ item, (url, item) ∈ doc.paths ∧ (item.get? method.key).isSome = true
  /-- Each is in the list of its tag. -/
  own : ∀ op ∈ api.operations, ∃ ops, api.paths.get? op.tag = some ops ∧ op ∈ ops
  /-- A list holds operations of its tag only, at least one, in strict order. -/
  list : ∀ {tag ops}, api.paths.get? tag = some ops →
    ops ≠ [] ∧ (∀ op ∈ ops, op.tag = tag) ∧ ops.Pairwise Operation.Before

/-- No operation is lost and none is there twice. -/
theorem operations_listed {doc : Document} {types : TypeTable} {api : Api} (h : ofDocument doc types = .ok api)
    (proper : doc.root.Proper) : Listed doc api := by
  obtain ⟨-, routes, named, hroutes, hnamed, hpaths⟩ := ofDocument_parts h
  have hendpoints : (named.map (·.operation)).map endpoint = endpointsOf doc.paths := by
    rw [assignNames_endpoints hnamed, List.map_map]
    exact readRoutes_endpoints hroutes
  have hdistinct : ((named.map (·.operation)).map endpoint).Nodup :=
    hendpoints ▸ nodup_endpointsOf (Document.uniqueNames_paths proper)
  have hperm : api.operations.Perm (named.map (·.operation)) := by
    unfold operations
    rw [hpaths]
    exact groupByTag_perm (hdistinct.of_map _)
  constructor
  case distinct => exact (hperm.map endpoint).nodup_iff.2 hdistinct
  case complete =>
    intro url method
    rw [(hperm.map endpoint).mem_iff, hendpoints, mem_endpointsOf]
  case own =>
    intro op hop
    have htagged := mem_tagged.2 ⟨hperm.mem_iff.1 hop, rfl⟩
    exact ⟨_, hpaths ▸ get?_groupByTag.2 ⟨List.ne_nil_of_mem htagged, rfl⟩, List.mem_mergeSort.2 htagged⟩
  case list =>
    intro tag ops hget
    obtain ⟨hsome, rfl⟩ := get?_groupByTag.1 (hpaths ▸ hget)
    refine ⟨fun hnil => hsome ?_, fun op hop => (mem_tagged.1 (List.mem_mergeSort.1 hop)).2, ?_⟩
    · exact List.eq_nil_iff_forall_not_mem.2 fun op hop =>
        List.not_mem_nil (hnil ▸ List.mem_mergeSort.2 hop)
    · exact operationSorts.pairwise (hdistinct.sublist (List.filter_sublist.map endpoint))

/-- The list of a tag holds the operations of the tag as they were named. -/
theorem perm_tagged {doc : Document} {types : TypeTable} {api : Api} (h : ofDocument doc types = .ok api) {tag : String}
    {ops : List Operation} (listed : api.paths.get? tag = some ops) :
    ∃ named, (readRoutes doc.root types doc.paths).bind assignNames = .ok named ∧
      ops.Perm (tagged tag (named.map (·.operation))) := by
  obtain ⟨-, routes, named, hroutes, hnamed, hpaths⟩ := ofDocument_parts h
  obtain ⟨-, rfl⟩ := get?_groupByTag.1 (hpaths ▸ listed)
  exact ⟨named, by rw [hroutes]; exact hnamed, List.mergeSort_perm ..⟩

/-- The names of the operations of a tag, where they are known in some order. -/
theorem exists_names (doc : Document) (types : TypeTable) (tag : String) (names : List String)
    (named : ((readRoutes doc.root types doc.paths).bind assignNames).toOption.map (fun routes =>
      (tagged tag (routes.map (·.operation))).map (·.functionName)) = some names)
    (resolved : (ofDocument doc types).toOption.map (fun api => (api.paths.get? tag).isSome) = some true) :
    ∃ api ops, ofDocument doc types = .ok api ∧ api.paths.get? tag = some ops ∧
      (ops.map (·.functionName)).Perm names := by
  obtain ⟨api, hapi, hsome⟩ := except_toOption_map resolved
  obtain ⟨ops, hops⟩ := Option.isSome_iff_exists.1 hsome
  obtain ⟨routes, hroutes, hperm⟩ := perm_tagged hapi hops
  rw [hroutes] at named
  exact ⟨api, ops, hapi, hops, Option.some.inj named ▸ hperm.map (·.functionName)⟩

/-- Three paths, two of them with operations of one tag, written in no particular order. -/
def zoo : Document where
  root :=
    let ofTag (tag : String) : Json := .obj [("tags", .arr [.str tag])]
    .obj [
      ("openapi", .str "3.0.0"),
      ("paths", .obj [
        ("/b", .obj [("post", ofTag "zoo"), ("get", ofTag "zoo")]),
        ("/a", .obj [("summary", .str "animals"), ("delete", ofTag "zoo")]),
        ("/c", .obj [("get", .obj [])])])]

theorem operations_listed_zoo : ∃ api, ofDocument zoo ⟨[]⟩ = .ok api ∧ zoo.root.Proper ∧ Listed zoo api ∧
    api.paths.keys = ["default", "zoo"] := by
  have hproper : zoo.root.Proper := Json.proper_canonical zoo.root
  have htags : (ofDocument zoo ⟨[]⟩).toOption.map (·.paths.keys) = some ["default", "zoo"] := by decide +kernel
  obtain ⟨api, hapi, htags⟩ := except_toOption_map htags
  exact ⟨api, hapi, hproper, operations_listed hapi hproper, htags⟩

end Api

end ApiScaffold
