/-
The operations of a resolved description and those that its document declares: each comes from one that is
declared, and each that is declared is there (`Covers`). Giving names changes nothing but names, and grouping by tag
neither loses nor adds an operation.
-/
import ApiScaffold.Api
import ApiScaffold.Proofs.Operation.Dependency

namespace ApiScaffold.Api

/-! ## Reading -/

/-- An operation that was read from its declaration at an address. -/
structure ReadFrom (root : Json) (url : String) (method : HttpMethod) (declared : Members) (op : Operation) : Prop where
  url : op.url = url
  method : op.method = method
  dependencies : Schema.Adds root (Operation.OperationPointsTo root (Members.distinct declared)) .empty op.dependencies

/-- The declaration of an operation in a document's paths. -/
def Declares (paths : Members) (url : String) (method : HttpMethod) (declared : Members) : Prop :=
  ∃ item, (url, .obj item) ∈ paths ∧ Members.get? item method.key = some (.obj declared)

/-- The operations of paths: all that are declared, and no others. -/
structure Covers (root : Json) (paths : Members) (ops : List Operation) : Prop where
  declared : ∀ op ∈ ops, ∃ url method declared, Declares paths url method declared ∧
    ReadFrom root url method declared op
  covered : ∀ {url method declared}, Declares paths url method declared →
    ∃ op ∈ ops, ReadFrom root url method declared op

section

variable {root : Json} {types : TypeTable}

theorem readRoute_ok {url : String} {item : Members} {method : HttpMethod} {route : Option Route}
    (h : readRoute root types url item method = .ok route) :
    (Members.get? item method.key = none ∧ route = none) ∨ ∃ declared r,
      Members.get? item method.key = some (.obj declared) ∧ route = some r ∧
        ReadFrom root url method declared r.operation := by
  unfold readRoute at h
  simp only at h
  split at h
  · rename_i absent
    cases h
    exact .inl ⟨absent, rfl⟩
  · rename_i declared given
    obtain ⟨merged, hmerged, h⟩ := except_bind_ok h
    obtain ⟨built, hbuilt, h⟩ := except_bind_ok h
    cases h
    obtain ⟨hurl, hmethod, -⟩ := Operation.build_ok hbuilt
    exact .inr ⟨declared, _, given, rfl, hurl, hmethod, Operation.build_merge_adds hmerged hbuilt⟩
  · cases h

theorem mem_all (method : HttpMethod) : method ∈ HttpMethod.all := by cases method <;> decide

theorem readPath_ok {url : String} {item : Json} {routes : List Route} (h : readPath root types url item = .ok routes) :
    ∃ ms, item = .obj ms ∧ ∃ read, HttpMethod.all.mapM (readRoute root types url ms) = .ok read ∧
      routes = read.filterMap id := by
  unfold readPath at h
  split at h
  · rename_i ms
    obtain ⟨read, hread, h⟩ := except_bind_ok h
    cases h
    exact ⟨ms, rfl, read, hread, rfl⟩
  · cases h

/-- Reading the paths reads every method of every path item, and gives what is there. -/
theorem readRoutes_ok {paths : Members} {routes : List Route} (h : readRoutes root types paths = .ok routes) :
    (∀ r ∈ routes, ∃ url item method, (url, .obj item) ∈ paths ∧
      readRoute root types url item method = .ok (some r)) ∧
    ∀ {url item method}, (url, .obj item) ∈ paths → ∃ route, readRoute root types url item method = .ok route ∧
      ∀ r, route = some r → r ∈ routes := by
  obtain ⟨parts, hparts, h⟩ := except_bind_ok h
  cases h
  constructor
  · -- from an operation back through the methods of its path item
    intro r hr
    obtain ⟨part, hpart, hr⟩ := List.mem_flatten.1 hr
    obtain ⟨⟨url, item⟩, hmem, hpath⟩ := (except_mapM_mem hparts).1 hpart
    obtain ⟨ms, rfl, read, hread, rfl⟩ := readPath_ok hpath
    obtain ⟨route, hroute, rfl⟩ := List.mem_filterMap.1 hr
    obtain ⟨method, -, hmethod⟩ := (except_mapM_mem hread).1 hroute
    exact ⟨url, ms, method, hmem, hmethod⟩
  · intro url ms method hmem
    obtain ⟨part, hpart, hpath⟩ := except_mapM_exists hparts hmem
    obtain ⟨ms', heq, read, hread, rfl⟩ := readPath_ok hpath
    cases heq
    obtain ⟨route, hroute, hmethod⟩ := except_mapM_exists hread (mem_all method)
    refine ⟨route, hmethod, fun r hr => List.mem_flatten.2 ⟨_, hpart, ?_⟩⟩
    exact List.mem_filterMap.2 ⟨route, hroute, hr⟩

/-- Reading the paths gives the operations that they declare. -/
theorem readRoutes_covers {paths : Members} {routes : List Route} (h : readRoutes root types paths = .ok routes) :
    Covers root paths (routes.map (·.operation)) := by
  obtain ⟨hsource, hread⟩ := readRoutes_ok h
  constructor
  · intro op hop
    obtain ⟨r, hr, rfl⟩ := List.mem_map.1 hop
    obtain ⟨url, ms, method, hmem, hroute⟩ := hsource r hr
    rcases readRoute_ok hroute with ⟨-, hnone⟩ | ⟨declared, r', given, heq, hfrom⟩
    · cases hnone
    · cases heq
      exact ⟨url, method, declared, ⟨ms, hmem, given⟩, hfrom⟩
  · rintro url method declared ⟨ms, hmem, given⟩
    obtain ⟨route, hroute, hmem'⟩ := hread hmem
    rcases readRoute_ok hroute with ⟨absent, -⟩ | ⟨declared', r, given', heq, hfrom⟩
    · rw [given] at absent; cases absent
    · rw [given] at given'
      cases given'
      exact ⟨r.operation, List.mem_map_of_mem (hmem' r heq), hfrom⟩

end

/-! ## Naming -/

/-- Two operations that differ in their names at most. -/
def SameButName (a b : Operation) : Prop := ∃ name, b = { a with functionName := name }

theorem ReadFrom.rename {root : Json} {url : String} {method : HttpMethod} {declared : Members} {a b : Operation}
    (h : ReadFrom root url method declared a) (same : SameButName a b) : ReadFrom root url method declared b := by
  obtain ⟨name, rfl⟩ := same
  exact ⟨h.url, h.method, h.dependencies⟩

theorem forall₂_renameDerived :
    ∀ (taken : List String) (routes : List Route),
      List.Forall₂ SameButName (routes.map (·.operation)) ((renameDerived taken routes).map (·.operation))
  | _, [] => .nil
  | taken, r :: rest => by
    unfold renameDerived
    split
    · exact .cons ⟨_, rfl⟩ (forall₂_renameDerived taken rest)
    · exact .cons ⟨_, rfl⟩ (forall₂_renameDerived _ rest)

/-- Giving names keeps the operations. -/
theorem Covers.rename {root : Json} {paths : Members} {ops ops' : List Operation} (h : Covers root paths ops)
    (same : List.Forall₂ SameButName ops ops') : Covers root paths ops' where
  declared := fun op hop => by
    obtain ⟨op', hop', hsame⟩ := forall₂_exists (R := fun b a => SameButName a b) same.flip hop
    obtain ⟨url, method, declared, hdeclares, hfrom⟩ := h.declared op' hop'
    exact ⟨url, method, declared, hdeclares, hfrom.rename hsame⟩
  covered := fun hdeclares => by
    obtain ⟨op, hop, hfrom⟩ := h.covered hdeclares
    obtain ⟨op', hop', hsame⟩ := forall₂_exists same hop
    exact ⟨op', hop', hfrom.rename hsame⟩

theorem Covers.assignNames {root : Json} {paths : Members} {routes named : List Route}
    (h : Covers root paths (routes.map (·.operation))) (hnamed : assignNames routes = .ok named) :
    Covers root paths (named.map (·.operation)) := by
  obtain ⟨taken, -, hnamed⟩ := except_bind_ok hnamed
  cases hnamed
  exact h.rename (forall₂_renameDerived ..)

/-! ## Grouping -/

/-- The operations of a tag, in the order of a list. -/
def tagged (tag : String) (ops : List Operation) : List Operation := ops.filter fun op => op.tag = tag

theorem mem_tagged {tag : String} {ops : List Operation} {op : Operation} :
    op ∈ tagged tag ops ↔ op ∈ ops ∧ op.tag = tag := by simp [tagged]

theorem get?_foldl_addToTag (tag : String) :
    ∀ (ops : List Operation) (m : SortedMap (List Operation)), (ops.foldl addToTag m).get? tag =
      if tagged tag ops = [] then m.get? tag else some ((m.get? tag).getD [] ++ tagged tag ops)
  | [], m => rfl
  | op :: ops, m => by
    rw [List.foldl_cons, get?_foldl_addToTag tag ops]
    unfold addToTag tagged
    rw [SortedMap.get?_insert, List.filter_cons]
    -- an operation of another tag leaves the group alone
    by_cases htag : tag = op.tag
    · subst htag
      by_cases hrest : (ops.filter fun o => o.tag = op.tag) = [] <;> simp [hrest]
    · have hne : ¬ op.tag = tag := fun h => htag h.symm
      simp [htag, hne]

/-- A tag has a group if some operation has the tag, and the group is these operations in order. -/
theorem get?_groupByTag {tag : String} {ops group : List Operation} :
    (groupByTag ops).get? tag = some group ↔ tagged tag ops ≠ [] ∧ (tagged tag ops).mergeSort operationLe = group := by
  unfold groupByTag
  rw [SortedMap.get?_mapValues, get?_foldl_addToTag]
  split
  · rename_i hnone
    simp only [hnone, ne_eq, not_true_eq_false, false_and, iff_false]
    rintro ⟨⟩
  · rename_i hsome
    simp only [ne_eq, hsome, not_false_eq_true, true_and]
    exact Option.some_inj

/-- The operations of all tags are those that were grouped. -/
theorem mem_groupByTag {ops : List Operation} {op : Operation} : op ∈ (groupByTag ops).values.flatten ↔ op ∈ ops := by
  simp only [List.mem_flatten, SortedMap.mem_values, get?_groupByTag]
  constructor
  · rintro ⟨group, ⟨tag, -, rfl⟩, hop⟩
    exact (mem_tagged.1 (List.mem_mergeSort.1 hop)).1
  · intro hop
    have htagged : op ∈ tagged op.tag ops := mem_tagged.2 ⟨hop, rfl⟩
    exact ⟨_, ⟨op.tag, List.ne_nil_of_mem htagged, rfl⟩, List.mem_mergeSort.2 htagged⟩

/-! ## Resolving a document -/

/-- A document that is resolved is read, and its operations are named and grouped. -/
theorem ofDocument_parts {doc : Document} {types : TypeTable} {api : Api} (h : ofDocument doc types = .ok api) :
    Schema.flatten doc.root types (doc.schemas?.getD []) = .ok api.schemas ∧ ∃ routes named,
      readRoutes doc.root types doc.paths = .ok routes ∧ assignNames routes = .ok named ∧
        api.paths = groupByTag (named.map (·.operation)) := by
  obtain ⟨schemas, hschemas, h⟩ := except_bind_ok h
  obtain ⟨routes, hroutes, h⟩ := except_bind_ok h
  obtain ⟨named, hnamed, h⟩ := except_bind_ok h
  cases h
  exact ⟨hschemas, routes, named, hroutes, hnamed, rfl⟩

/-- What a document that was resolved gives its description. -/
theorem ofDocument_ok {doc : Document} {types : TypeTable} {api : Api} (h : ofDocument doc types = .ok api) :
    Schema.flatten doc.root types (doc.schemas?.getD []) = .ok api.schemas ∧
      Covers doc.root doc.paths api.operations := by
  obtain ⟨hschemas, routes, named, hroutes, hnamed, hpaths⟩ := ofDocument_parts h
  have hcovers := (readRoutes_covers hroutes).assignNames hnamed
  have hmem : ∀ {op}, op ∈ api.operations ↔ op ∈ named.map (·.operation) := by
    unfold operations
    rw [hpaths]
    exact mem_groupByTag
  refine ⟨hschemas, fun op hop => hcovers.declared op (hmem.1 hop), fun hdeclares => ?_⟩
  obtain ⟨op, hop, hfrom⟩ := hcovers.covered hdeclares
  exact ⟨op, hmem.2 hop, hfrom⟩

end ApiScaffold.Api
