/-
The order in which paths and component schemas are declared does not matter. Two documents that differ in it have the
same references, and each step from the one to its description either succeeds on both or on neither: components give
the same schemas, paths the same operations in another order, and grouping by tag puts these in order. Names would
depend on the order if they were derived, so every operation has to declare its own.
-/
import ApiScaffold.Proofs.Api.Listing
import ApiScaffold.Proofs.Api.Vocabulary
import ApiScaffold.Proofs.Json.Order
import ApiScaffold.Proofs.Schema.Registration

namespace ApiScaffold

/-! ## Documents in another order -/

namespace Document

/-- Two documents that are the same but for the order of the entries of `paths` and of `components.schemas`. -/
def Reordered (doc doc' : Document) : Prop :=
  ∃ middle, doc.root.Reordered ["paths"] middle ∧ middle.Reordered ["components", "schemas"] doc'.root

/-- What two documents have in common that differ in the order of declarations only. -/
structure SameButOrder (doc doc' : Document) : Prop where
  targets : doc.root.SameTargets doc'.root
  info : ∀ key, doc.info? key = doc'.info? key
  basePath : doc.basePath = doc'.basePath
  paths : doc.paths.Perm doc'.paths
  schemas : (doc.schemas?.getD []).Perm (doc'.schemas?.getD [])

theorem SameButOrder.symm {doc doc' : Document} (h : SameButOrder doc doc') : SameButOrder doc' doc where
  targets := fun r => (h.targets r).symm
  info := fun key => (h.info key).symm
  basePath := h.basePath.symm
  paths := h.paths.symm
  schemas := h.schemas.symm

theorem Reordered.sameButOrder {doc doc' : Document} (h : Reordered doc doc') (proper : doc.root.Proper) :
    SameButOrder doc doc' := by
  obtain ⟨middle, hpaths, hschemas⟩ := h
  have hother : ∀ {key}, key ≠ "paths" → key ≠ "components" → doc.root.get? key = doc'.root.get? key :=
    fun hp hc => (hpaths.get?_other hp).trans (hschemas.get?_other hc)
  constructor
  case targets =>
    intro r
    rw [Json.find?_eq_dig, Json.find?_eq_dig, hpaths.dig_eq proper (by simp),
      hschemas.dig_eq (hpaths.proper proper) (by simp)]
  case info =>
    intro key
    unfold info? at?
    rw [hother (by decide) (by decide)]
  case basePath =>
    unfold basePath Json.getArr?
    rw [hother (by decide) (by decide)]
  case paths =>
    have hsame := hschemas.get?_other (k := "paths") (by decide)
    unfold paths Json.getObj?
    rw [← hsame]
    rcases hpaths.get?_key with ⟨hj, hj'⟩ | ⟨v, v', hj, hj', hinner⟩
    · rw [hj, hj']
    · rw [hj, hj']
      exact hinner.perm
  case schemas =>
    have hsame := hpaths.get?_other (k := "components") (by decide)
    unfold schemas? at?
    rw [hsame]
    rcases hschemas.get?_key with ⟨hj, hj'⟩ | ⟨v, v', hj, hj', hinner⟩
    · rw [hj, hj']
    rw [hj, hj', Option.bind_some, Option.bind_some]
    rcases hinner.get?_key with ⟨hv, hv'⟩ | ⟨w, w', hv, hv', hinner⟩
    · rw [hv, hv']
    · rw [hv, hv']
      exact hinner.perm

end Document

namespace Api

open Operation (endpoint)

/-! ## Declared names -/

/-- The declared names of routes can be taken if they are distinct and free. -/
theorem exists_takeDeclared :
    ∀ {routes : List Route} {taken : Holders}, (∀ r ∈ routes, r.declared = true) →
      ((∃ taken', takeDeclared taken routes = .ok taken') ↔ (routes.map (·.operation.functionName)).Nodup ∧
        ∀ r ∈ routes, taken.lookup r.operation.functionName = none)
  | [], taken, _ => by simp [takeDeclared]
  | r :: rest, taken, h => by
    have hrest : ∀ r' ∈ rest, r'.declared = true := fun r' hr' => h r' (List.mem_cons_of_mem _ hr')
    unfold takeDeclared
    rw [if_pos (h r (List.mem_cons_self ..)), List.map_cons, List.nodup_cons, List.forall_mem_cons]
    have hlookup : ∀ r' : Route,
        ((r.operation.functionName, r.location) :: taken).lookup r'.operation.functionName = none ↔
          r'.operation.functionName ≠ r.operation.functionName ∧ taken.lookup r'.operation.functionName = none := by
      intro r'
      by_cases heq : r'.operation.functionName = r.operation.functionName
      · simp [heq]
      · have hne : (r'.operation.functionName == r.operation.functionName) = false := by simpa using heq
        simp [List.lookup_cons, hne, heq]
    rcases taken.lookup r.operation.functionName with _ | first
    · -- the name is free, and taken for the rest
      simp only [exists_takeDeclared hrest, hlookup, forall_and, List.mem_map, not_exists, not_and, true_and]
      constructor
      · rintro ⟨hdistinct, hne, hfree⟩
        exact ⟨⟨hne, hdistinct⟩, hfree⟩
      · rintro ⟨⟨hne, hdistinct⟩, hfree⟩
        exact ⟨hdistinct, hne, hfree⟩
    · simp

theorem renameDerived_of_declared : ∀ {taken : List String} {routes : List Route}, (∀ r ∈ routes, r.declared = true) →
    renameDerived taken routes = routes
  | _, [], _ => rfl
  | taken, r :: rest, h => by
    unfold renameDerived
    rw [if_pos (h r (List.mem_cons_self ..)), renameDerived_of_declared fun r' hr' => h r' (List.mem_cons_of_mem _ hr')]

theorem assignNames_of_declared {routes named : List Route} (h : ∀ r ∈ routes, r.declared = true) :
    assignNames routes = .ok named ↔ (routes.map (·.operation.functionName)).Nodup ∧ routes = named := by
  have hall : assignNames routes = (takeDeclared [] routes).map fun _ => routes := by
    unfold assignNames
    rcases takeDeclared [] routes with e | taken
    · rfl
    · exact congrArg Except.ok (renameDerived_of_declared h)
  have hnames : (∃ taken, takeDeclared [] routes = .ok taken) ↔ (routes.map (·.operation.functionName)).Nodup := by
    rw [exists_takeDeclared h]
    exact and_iff_left fun _ _ => rfl
  rw [hall, ← hnames]
  constructor
  · intro hnamed
    obtain ⟨taken, htaken, heq⟩ := except_map_ok hnamed
    exact ⟨⟨taken, htaken⟩, heq⟩
  · rintro ⟨⟨taken, htaken⟩, rfl⟩
    rw [htaken]
    rfl

/-! ## Groups in order -/

/-- Groups do not depend on the order of the operations. -/
theorem groupByTag_congr {ops ops' : List Operation} (perm : ops.Perm ops') (distinct : (ops.map endpoint).Nodup) :
    groupByTag ops = groupByTag ops' := by
  refine SortedMap.ext_get? fun tag => Option.ext fun group => ?_
  have htagged : (tagged tag ops).Perm (tagged tag ops') := perm.filter _
  have hempty : tagged tag ops = [] ↔ tagged tag ops' = [] := by
    rw [← List.length_eq_zero_iff, ← List.length_eq_zero_iff, htagged.length_eq]
  have hdistinct : ((tagged tag ops).map endpoint).Nodup := distinct.sublist (List.filter_sublist.map endpoint)
  have hsorted : (tagged tag ops).mergeSort operationLe = (tagged tag ops').mergeSort operationLe :=
    operationSorts.congr htagged hdistinct
  rw [get?_groupByTag, get?_groupByTag, hsorted, ne_eq, ne_eq, hempty]

/-! ## Resolving in another order -/

/-- Every operation has a name of its own; of keys that are declared twice the last counts. -/
def AllNamed (paths : Members) : Prop := ∀ {url method declared}, Declares paths url method declared →
  ∃ id, Members.get? (Members.distinct declared) "operationId" = some (.str id)

section

variable {root : Json} {types : TypeTable}

theorem readRoute_declared {url : String} {item : Members} {method : HttpMethod} {r : Route}
    (h : readRoute root types url item method = .ok (some r))
    (named : ∀ declared, Members.get? item method.key = some (.obj declared) →
      ∃ id, Members.get? (Members.distinct declared) "operationId" = some (.str id)) : r.declared = true := by
  unfold readRoute at h
  simp only at h
  split at h
  · cases h
  · rename_i declared given
    obtain ⟨merged, hmerged, h⟩ := except_bind_ok h
    obtain ⟨built, -, h⟩ := except_bind_ok h
    cases h
    obtain ⟨id, hid⟩ := named declared given
    have hget : (Json.obj merged).get? "operationId" = some (.str id) :=
      (Operation.get?_merge hmerged (by decide +kernel) (by decide) (by decide)).trans hid
    simp [Json.getStr?, hget, Json.str?]
  · cases h

theorem readRoutes_declared {paths : Members} {routes : List Route} (h : readRoutes root types paths = .ok routes)
    (named : AllNamed paths) : ∀ r ∈ routes, r.declared = true := by
  obtain ⟨parts, hparts, h⟩ := except_bind_ok h
  cases h
  intro r hr
  obtain ⟨part, hpart, hr⟩ := List.mem_flatten.1 hr
  obtain ⟨⟨url, item⟩, hmem, hpath⟩ := (except_mapM_mem hparts).1 hpart
  obtain ⟨ms, rfl, read, hread, rfl⟩ := readPath_ok hpath
  obtain ⟨route, hroute, rfl⟩ := List.mem_filterMap.1 hr
  obtain ⟨method, -, hmethod⟩ := (except_mapM_mem hread).1 hroute
  exact readRoute_declared hmethod fun declared given => named ⟨ms, hmem, given⟩

theorem readRoutes_perm {paths paths' : Members} {routes : List Route} (h : readRoutes root types paths = .ok routes)
    (perm : paths.Perm paths') : ∃ routes', readRoutes root types paths' = .ok routes' ∧ routes.Perm routes' := by
  obtain ⟨parts, hparts, h⟩ := except_bind_ok h
  cases h
  obtain ⟨parts', hparts', hperm⟩ := except_mapM_perm hparts perm
  refine ⟨parts'.flatten, ?_, hperm.flatten⟩
  unfold readRoutes
  rw [hparts']
  rfl

/-- From one document to the other. -/
theorem ofDocument_of_sameButOrder {doc doc' : Document} (same : doc.SameButOrder doc')
    (unique : Members.UniqueNames doc.paths) (named : AllNamed doc.paths) {api : Api}
    (h : ofDocument doc types = .ok api) : ofDocument doc' types = .ok api := by
  obtain ⟨schemas, hschemas, h⟩ := except_bind_ok h
  obtain ⟨routes, hroutes, h⟩ := except_bind_ok h
  obtain ⟨renamed, hrenamed, h⟩ := except_bind_ok h
  cases h
  have hdeclared := readRoutes_declared hroutes named
  have hendpoints : ((routes.map (·.operation)).map endpoint).Nodup := by
    rw [List.map_map]
    exact readRoutes_endpoints hroutes ▸ nodup_endpointsOf unique
  -- references mean the same in both documents
  rw [Schema.flatten_congr same.targets] at hschemas
  rw [readRoutes_congr same.targets] at hroutes
  have hschemas' := Schema.flatten_perm hschemas same.schemas
  obtain ⟨routes', hroutes', hperm⟩ := readRoutes_perm hroutes same.paths
  -- names are all declared, so they are kept
  obtain ⟨hdistinct, rfl⟩ := (assignNames_of_declared hdeclared).1 hrenamed
  have hnamed' : assignNames routes' = .ok routes' :=
    (assignNames_of_declared fun r hr => hdeclared r (hperm.mem_iff.2 hr)).2
      ⟨(hperm.map _).nodup_iff.1 hdistinct, rfl⟩
  have hpaths : groupByTag (routes'.map (·.operation)) = groupByTag (routes.map (·.operation)) :=
    (groupByTag_congr (hperm.map _) hendpoints).symm
  unfold ofDocument Document.title Document.version Document.description?
  simp only [hschemas', hroutes', hnamed', hpaths, same.info, same.basePath, bind, Except.bind, pure, Except.pure]

end

theorem AllNamed.perm {paths paths' : Members} (h : AllNamed paths) (perm : paths.Perm paths') : AllNamed paths' :=
  fun ⟨item, hmem, hget⟩ => h ⟨item, perm.mem_iff.2 hmem, hget⟩

/-- Where every operation declares its name, the order of paths and of component schemas does not matter. -/
theorem order_irrelevant {doc doc' : Document} (reordered : doc.Reordered doc') (proper : doc.root.Proper)
    (named : ∀ {url method declared}, Declares doc.paths url method declared →
      ∃ id, Members.get? declared "operationId" = some (.str id)) (types : TypeTable) (api : Api) :
    ofDocument doc types = .ok api ↔ ofDocument doc' types = .ok api := by
  have same := reordered.sameButOrder proper
  have unique := Document.uniqueNames_paths proper
  have hnamed : AllNamed doc.paths := by
    intro url method declared hdeclares
    obtain ⟨item, hmem, hget⟩ := hdeclares
    have hdeclared := (((Document.proper_paths proper).member hmem).get? hget).unique
    rw [Members.distinct_eq_self hdeclared]
    exact named ⟨item, hmem, hget⟩
  constructor
  · exact ofDocument_of_sameButOrder same unique hnamed
  · exact ofDocument_of_sameButOrder same.symm (unique.perm same.paths) (hnamed.perm same.paths)

/-- A document with these paths and component schemas. -/
def declaring (paths schemas : Members) : Document where
  root := .obj [("openapi", .str "3.0.0"), ("paths", .obj paths), ("components", .obj [("schemas", .obj schemas)])]

theorem reordered_declaring {paths paths' schemas schemas' : Members} (hpaths : paths.Perm paths')
    (hschemas : schemas.Perm schemas') : (declaring paths schemas).Reordered (declaring paths' schemas') := by
  refine ⟨(declaring paths' schemas).root, ?_, ?_⟩
  · exact .inside [_] [_] (.here hpaths)
  · exact .inside [_, _] [] (.inside [] [] (.here hschemas))

/-- The paths of pets and their owners. -/
def petPaths : Members :=
  let listed (id : String) : Json := .obj [("get", .obj [("operationId", .str id), ("tags", .arr [.str "pets"])])]
  [("/pets", listed "listPets"), ("/owners", listed "listOwners")]

/-- The schemas of pets and their owners. -/
def petSchemas : Members := [
  ("Pet", .obj [("type", .str "object"), ("properties", .obj [
    ("owner", .obj [("$ref", .str "#/components/schemas/Owner")])])]),
  ("Owner", .obj [("type", .str "string")])]

theorem order_irrelevant_pets : ∃ api, ofDocument (declaring petPaths petSchemas) ⟨[]⟩ = .ok api ∧
    ofDocument (declaring petPaths.reverse petSchemas.reverse) ⟨[]⟩ = .ok api ∧
      api.schemas.keys = ["Owner", "Pet"] ∧ ∃ ops, api.paths.get? "pets" = some ops ∧
        (ops.map (·.functionName)).Perm ["listPets", "listOwners"] := by
  have reordered := reordered_declaring petPaths.reverse_perm.symm petSchemas.reverse_perm.symm
  have proper : (declaring petPaths petSchemas).root.Proper :=
    Json.proper_canonical (declaring petPaths petSchemas).root
  have named : ∀ {url method declared}, Declares (declaring petPaths petSchemas).paths url method declared →
      ∃ id, Members.get? declared "operationId" = some (.str id) := by
    rintro url method declared ⟨item, hmem, hget⟩
    have hmem : (url, Json.obj item) ∈ petPaths := hmem
    simp only [petPaths, List.mem_cons, Prod.mk.injEq, Json.obj.injEq, List.not_mem_nil, or_false] at hmem
    obtain ⟨-, rfl⟩ | ⟨-, rfl⟩ := hmem
    all_goals
      cases method with
      | get =>
        cases hget
        exact ⟨_, rfl⟩
      | _ => cases hget
  obtain ⟨api, ops, hapi, hops, hnames⟩ := exists_names (declaring petPaths petSchemas) ⟨[]⟩ "pets"
    ["listPets", "listOwners"] (by decide +kernel) (by decide +kernel)
  have hkeys : (ofDocument (declaring petPaths petSchemas) ⟨[]⟩).toOption.map (·.schemas.keys) =
      some ["Owner", "Pet"] := by decide +kernel
  rw [hapi] at hkeys
  exact ⟨api, hapi, (order_irrelevant reordered proper named ⟨[]⟩ api).1 hapi, Option.some.inj hkeys, ops, hops, hnames⟩

end Api

end ApiScaffold
