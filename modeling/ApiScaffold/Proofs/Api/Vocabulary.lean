/-
Descriptions in the words of two languages. A language that knows the same keys as another fails on the same documents
with the same errors, and what it gives differs in the words for types only (`erased`): names, dependencies and order
come from the document alone.
-/
import ApiScaffold.Backend.Words
import ApiScaffold.Proofs.Api.Operations
import ApiScaffold.Proofs.Operation.Vocabulary

namespace ApiScaffold.Api

/-! ## Reading -/

/-- A route with other words for types. -/
def Route.reworded (f : String → String) (r : Route) : Route := { r with operation := r.operation.reworded f }

theorem Route.reworded_id : Route.reworded id = id := by
  funext r
  unfold Route.reworded
  rw [Operation.reworded_id]
  rfl

section

variable {f : String → String} {t u : TypeTable} (alike : t.Alike f u) {root root' : Json}
  (same : root.SameTargets root')

include alike same

theorem readRoute_agree (url : String) (item : Members) (method : HttpMethod) :
    AgreeOn (Option.map (·.reworded f)) (readRoute root t url item method) (readRoute root' u url item method) := by
  unfold readRoute
  simp only
  split
  · rfl
  · rw [Operation.merge_congr same]
    refine AgreeOn.bind_same fun merged => (Operation.build_agree alike same ..).bind fun op op' hop => .ok ?_
    unfold Route.reworded
    rw [Option.map_some, Option.map_some, hop]
  · rfl

theorem readPath_agree (url : String) (item : Json) :
    AgreeOn (List.map (·.reworded f)) (readPath root t url item) (readPath root' u url item) := by
  unfold readPath
  split
  · refine (agreeOn_mapM (readRoute_agree alike same url _) HttpMethod.all).bind fun routes routes' h => .ok ?_
    have hpresent : ∀ routes : List (Option Route), (routes.filterMap id).map (·.reworded f) =
        (routes.map (Option.map (·.reworded f))).filterMap id := by
      intro routes
      rw [List.map_filterMap, List.filterMap_map]
      rfl
    rw [hpresent, hpresent, h]
  · rfl

theorem readRoutes_agree (paths : Members) :
    AgreeOn (List.map (·.reworded f)) (readRoutes root t paths) (readRoutes root' u paths) := by
  refine (agreeOn_mapM (fun path => readPath_agree alike same path.1 path.2) paths).bind fun parts parts' h => .ok ?_
  rw [List.map_flatten, List.map_flatten, h]

omit alike in
/-- In one language the operations are the same. -/
theorem readRoutes_congr : readRoutes root t = readRoutes root' t := by
  funext paths
  refine (readRoutes_agree (.refl t) same paths).eq (funext fun routes => ?_)
  show routes.map (Route.reworded id) = routes
  rw [Route.reworded_id, List.map_id]

end

/-! ## Naming -/

theorem takeDeclared_reworded (f : String → String) :
    ∀ (taken : Holders) (routes : List Route),
      takeDeclared taken (routes.map (·.reworded f)) = takeDeclared taken routes
  | _, [] => rfl
  | taken, r :: rest => by
    rw [List.map_cons, takeDeclared, takeDeclared]
    simp only [takeDeclared_reworded f _ rest]
    rfl

theorem renameDerived_reworded (f : String → String) :
    ∀ (taken : List String) (routes : List Route),
      renameDerived taken (routes.map (·.reworded f)) = (renameDerived taken routes).map (·.reworded f)
  | _, [] => rfl
  | taken, r :: rest => by
    rw [List.map_cons, renameDerived, renameDerived]
    simp only [renameDerived_reworded f _ rest]
    show (if r.declared = true then _ else _) = List.map _ (if r.declared = true then _ else _)
    split <;> rfl

/-- Names do not depend on words. -/
theorem assignNames_agree {f : String → String} {routes routes' : List Route}
    (h : routes.map (·.reworded f) = routes'.map (·.reworded f)) :
    AgreeOn (List.map (·.reworded f)) (assignNames routes) (assignNames routes') := by
  have htaken : takeDeclared [] routes = takeDeclared [] routes' := by
    rw [← takeDeclared_reworded f, ← takeDeclared_reworded f [] routes', h]
  unfold assignNames
  rw [htaken]
  refine AgreeOn.bind_same fun taken => .ok ?_
  rw [← renameDerived_reworded, ← renameDerived_reworded, h]

/-! ## Grouping -/

theorem tagged_reworded (f : String → String) (tag : String) (ops : List Operation) :
    tagged tag (ops.map (·.reworded f)) = (tagged tag ops).map (·.reworded f) := by
  unfold tagged
  rw [List.filter_map]
  rfl

/-- Groups and their order do not depend on words. -/
theorem groupByTag_reworded (f : String → String) (ops : List Operation) :
    groupByTag (ops.map (·.reworded f)) = (groupByTag ops).mapValues (List.map (·.reworded f)) := by
  refine SortedMap.ext_get? fun tag => Option.ext fun group => ?_
  have hsorted : ((tagged tag ops).map (·.reworded f)).mergeSort operationLe =
      ((tagged tag ops).mergeSort operationLe).map (·.reworded f) :=
    (List.map_mergeSort (f := Operation.reworded f) fun _ _ _ _ => rfl).symm
  rw [SortedMap.get?_mapValues, Option.map_eq_some_iff]
  simp only [get?_groupByTag, tagged_reworded, hsorted, ne_eq, List.map_eq_nil_iff, and_assoc, exists_eq_left',
    exists_and_left]

/-! ## Resolving a document -/

/-- A description with other words for types. -/
def reworded (f : String → String) (api : Api) : Api :=
  { api with
    schemas := api.schemas.mapValues (·.reworded f)
    paths := api.paths.mapValues (List.map (·.reworded f)) }

/-- A description without the words for types. -/
def erased (api : Api) : Api := api.reworded fun _ => ""

theorem ofDocument_agree {f : String → String} {t u : TypeTable} (alike : t.Alike f u) (doc : Document) :
    AgreeOn (·.reworded f) (ofDocument doc t) (ofDocument doc u) := by
  refine (Schema.flatten_agree alike (fun _ => rfl) _).bind fun schemas schemas' hschemas => ?_
  refine (readRoutes_agree alike (fun _ => rfl) _).bind fun routes routes' hroutes => ?_
  refine (assignNames_agree hroutes).bind fun named named' hnamed => .ok ?_
  have hpaths : ∀ named : List Route, (groupByTag (named.map (·.operation))).mapValues (List.map (·.reworded f)) =
      groupByTag ((named.map (·.reworded f)).map (·.operation)) := by
    intro named
    rw [← groupByTag_reworded, List.map_map, List.map_map]
    rfl
  unfold reworded
  rw [hschemas, hpaths, hpaths, hnamed]

theorem ofDocument_erased {t u : TypeTable} (same : t.SameKeys u) (doc : Document) :
    (ofDocument doc t).map erased = (ofDocument doc u).map erased := ofDocument_agree same.alike doc

/-- The two backends, and any two languages that know the same keys, describe a document alike: they fail with the same
error, or succeed with the same description but for the words. -/
theorem described_alike :
    (∀ doc, (ofDocument doc Backend.pythonWords).map erased = (ofDocument doc Backend.typeScriptWords).map erased) ∧
      ∀ {t u : TypeTable}, t.SameKeys u → ∀ doc, (ofDocument doc t).map erased = (ofDocument doc u).map erased :=
  ⟨ofDocument_erased fun _ => .rfl, ofDocument_erased⟩

/-- A document with a typed property and a typed parameter. -/
def ages : Document where
  root :=
    let typed (type : String) : Json := .obj [("type", .str type)]
    .obj [
      ("openapi", .str "3.0.0"),
      ("paths", .obj [("/pets", .obj [("get", .obj [("parameters", .arr [
        .obj [("name", .str "age"), ("in", .str "query"), ("schema", typed "integer")]])])])]),
      ("components", .obj [("schemas", .obj [("Pet", .obj [("type", .str "object"), ("properties", .obj [
        ("age", typed "integer"), ("name", typed "string")])])])])]

theorem described_alike_ages : ∃ t u : TypeTable, t.SameKeys u ∧ ∃ api api', ofDocument ages t = .ok api ∧
    ofDocument ages u = .ok api' ∧ api.erased = api'.erased ∧
      (api.schemas.get? "Pet").map (fun s => s.properties.map (·.type)) = some ["int", "str"] ∧
      (api'.schemas.get? "Pet").map (fun s => s.properties.map (·.type)) = some ["number", "string"] ∧
      api.operations.map (fun op => (op.url, op.parameters.map (·.type))) = [("/pets", [some "int"])] ∧
      api'.operations.map (fun op => (op.url, op.parameters.map (·.type))) = [("/pets", [some "number"])] := by
  let t : TypeTable := ⟨[("integer", "int"), ("string", "str")]⟩
  let u : TypeTable := ⟨[("string", "string"), ("integer", "number")]⟩
  have same : t.SameKeys u := fun key => by simp [t, u, TypeTable.keys, or_comm]
  have htypes : (ofDocument ages t).toOption.map (fun api =>
      ((api.schemas.get? "Pet").map fun s => s.properties.map (·.type),
        api.operations.map fun op => (op.url, op.parameters.map (·.type)))) =
          some (some ["int", "str"], [("/pets", [some "int"])]) := by decide +kernel
  have htypes' : (ofDocument ages u).toOption.map (fun api =>
      ((api.schemas.get? "Pet").map fun s => s.properties.map (·.type),
        api.operations.map fun op => (op.url, op.parameters.map (·.type)))) =
          some (some ["number", "string"], [("/pets", [some "number"])]) := by decide +kernel
  obtain ⟨api, hapi, htypes⟩ := except_toOption_map htypes
  obtain ⟨api', hapi', htypes'⟩ := except_toOption_map htypes'
  obtain ⟨hproperties, hparameters⟩ := Prod.mk.inj htypes
  obtain ⟨hproperties', hparameters'⟩ := Prod.mk.inj htypes'
  have halike := described_alike.2 same ages
  rw [hapi, hapi'] at halike
  exact ⟨t, u, same, api, api', hapi, hapi', Except.ok.inj halike, hproperties, hproperties', hparameters, hparameters'⟩

end ApiScaffold.Api
