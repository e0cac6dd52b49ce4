/-
Operations of a description against their declarations. Each was built from its declaration with the defaults of its
path item, up to its name (`BuiltFrom`), and each declaration was built (`ofDocument_builds`). So the contents and the
parameters of an operation are those that it declares, and every schema that it reads has a type.
-/
import ApiScaffold.Proofs.Api.Operations
import ApiScaffold.Proofs.Operation.Contents

namespace ApiScaffold

/-- The type of an entry is the type of its schema. -/
theorem Schema.schemaToken_ok {root entry node : Json} {types : TypeTable} {loc : Location} {type : Option String}
    (h : schemaToken root types entry loc = .ok type) (schema : entry.get? "schema" = some node) :
    ∃ token, typeToken root types node "" 0 (loc ++ ".schema") = .ok token ∧ some token = type := by
  unfold schemaToken at h
  rw [schema] at h
  exact except_map_ok h

namespace Api

open Operation (EntryOf ParameterOf ReadsAll ReadsParameter SchemaOf)

/-- An operation that was built from its declaration in a path item, up to its name. -/
def BuiltFrom (root : Json) (types : TypeTable) (url : String) (method : HttpMethod) (item declared : Members)
    (op : Operation) : Prop :=
  ∃ merged loc built, Operation.merge root item declared loc = .ok merged ∧
    Operation.build root types url method (.obj merged) loc = .ok built ∧ SameButName built op

section

variable {root : Json} {types : TypeTable} {url : String} {method : HttpMethod} {item declared : Members}
  {op : Operation} (h : BuiltFrom root types url method item declared op)

include h

theorem BuiltFrom.readFrom : ReadFrom root url method declared op := by
  obtain ⟨merged, loc, built, hmerged, hbuilt, hsame⟩ := h
  obtain ⟨hurl, hmethod, -⟩ := Operation.build_ok hbuilt
  exact ReadFrom.rename ⟨hurl, hmethod, Operation.build_merge_adds hmerged hbuilt⟩ hsame

/-- The contents of an operation are those of its own body and responses. -/
theorem BuiltFrom.contents : ReadsAll root types (EntryOf root (Members.distinct declared)) op.contentsOf := by
  obtain ⟨merged, loc, built, hmerged, hbuilt, name, rfl⟩ := h
  refine (Operation.build_built hbuilt).contents.congr fun format entry => ?_
  unfold EntryOf
  simp only [Operation.bodyOf_merge hmerged]

/-- Every parameter that is declared was read. -/
theorem BuiltFrom.parameter {written : Json} (listed : ParameterOf root item declared written) :
    ∃ p ∈ op.parameters, ReadsParameter root types written p := by
  obtain ⟨merged, loc, built, hmerged, hbuilt, name, rfl⟩ := h
  obtain ⟨read, hread, hperm⟩ := (Operation.build_built hbuilt).parameters
  obtain ⟨p, hp, hreads⟩ := forall₂_exists hread ((Operation.mem_parameters hmerged).2 listed)
  exact ⟨p, hperm.mem_iff.2 hp, hreads⟩

/-- Every schema that an operation reads has a type. -/
theorem BuiltFrom.typed {node : Json} (reads : SchemaOf root item declared node) :
    ∃ loc token, Schema.typeToken root types node "" 0 loc = .ok token := by
  cases reads with
  | parameter listed leads schema =>
    obtain ⟨p, -, entry, loc, leads', hread⟩ := h.parameter listed
    obtain rfl := leads.unique leads'
    obtain ⟨token, htoken, -⟩ := Schema.schemaToken_ok (Operation.readParameter_type hread) schema
    exact ⟨_, token, htoken⟩
  | content written schema =>
    obtain ⟨c, -, -, loc, htype⟩ := h.contents.covered written
    obtain ⟨token, htoken, -⟩ := Schema.schemaToken_ok htype schema
    exact ⟨_, token, htoken⟩

end

/-! ## The operations of a description -/

/-- The operations of a description are those that were read, up to their names. -/
theorem operations_named {doc : Document} {types : TypeTable} {api : Api} (h : ofDocument doc types = .ok api) :
    ∃ routes, readRoutes doc.root types doc.paths = .ok routes ∧
      (∀ op ∈ api.operations, ∃ r ∈ routes, SameButName r.operation op) ∧
        ∀ r ∈ routes, ∃ op ∈ api.operations, SameButName r.operation op := by
  obtain ⟨-, routes, named, hroutes, hnamed, hpaths⟩ := ofDocument_parts h
  obtain ⟨taken, -, hnamed⟩ := except_bind_ok hnamed
  cases hnamed
  have hsame := forall₂_renameDerived (taken.map (·.1)) routes
  have hmem : ∀ {op}, op ∈ api.operations ↔ op ∈ (renameDerived (taken.map (·.1)) routes).map (·.operation) := by
    unfold operations
    rw [hpaths]
    exact mem_groupByTag
  refine ⟨routes, hroutes, fun op hop => ?_, fun r hr => ?_⟩
  · obtain ⟨op', hop', hsame'⟩ := forall₂_exists (R := fun b a => SameButName a b) hsame.flip (hmem.1 hop)
    obtain ⟨r, hr, rfl⟩ := List.mem_map.1 hop'
    exact ⟨r, hr, hsame'⟩
  · obtain ⟨op, hop, hsame'⟩ := forall₂_exists hsame (List.mem_map_of_mem hr)
    exact ⟨op, hmem.2 hop, hsame'⟩

/-- The operations of a description were built from declarations, and every declaration was built. -/
structure Builds (doc : Document) (types : TypeTable) (api : Api) : Prop where
  source : ∀ op ∈ api.operations, ∃ item declared, (op.url, .obj item) ∈ doc.paths ∧
    Members.get? item op.method.key = some (.obj declared) ∧
      BuiltFrom doc.root types op.url op.method item declared op
  built : ∀ {url item method declared}, (url, .obj item) ∈ doc.paths →
    Members.get? item method.key = some (.obj declared) → ∃ op ∈ api.operations,
      BuiltFrom doc.root types url method item declared op

theorem builtFrom_of_readRoute {root : Json} {types : TypeTable} {url : String} {item declared : Members}
    {method : HttpMethod} {route : Option Route} (h : readRoute root types url item method = .ok route)
    (given : Members.get? item method.key = some (.obj declared)) :
    ∃ r, route = some r ∧ ∀ {op}, SameButName r.operation op → BuiltFrom root types url method item declared op := by
  unfold readRoute at h
  simp only [given] at h
  obtain ⟨merged, hmerged, h⟩ := except_bind_ok h
  obtain ⟨built, hbuilt, h⟩ := except_bind_ok h
  cases h
  exact ⟨_, rfl, fun hsame => ⟨merged, _, built, hmerged, hbuilt, hsame⟩⟩

theorem ofDocument_builds {doc : Document} {types : TypeTable} {api : Api} (h : ofDocument doc types = .ok api) :
    Builds doc types api := by
  obtain ⟨routes, hroutes, hsource, hread⟩ := operations_named h
  obtain ⟨hfrom, hto⟩ := readRoutes_ok hroutes
  constructor
  · intro op hop
    obtain ⟨r, hr, hsame⟩ := hsource op hop
    obtain ⟨url, item, method, hmem, hroute⟩ := hfrom r hr
    rcases readRoute_ok hroute with ⟨-, hnone⟩ | ⟨declared, -, given, -, -⟩
    · cases hnone
    obtain ⟨r', heq, hbuilt⟩ := builtFrom_of_readRoute hroute given
    cases heq
    obtain ⟨hurl, hmethod, -⟩ := (hbuilt hsame).readFrom
    subst hurl hmethod
    exact ⟨item, declared, hmem, given, hbuilt hsame⟩
  · intro url item method declared hmem given
    obtain ⟨route, hroute, hroutes'⟩ := hto hmem
    obtain ⟨r, rfl, hbuilt⟩ := builtFrom_of_readRoute hroute given
    obtain ⟨op, hop, hsame⟩ := hread r (hroutes' r rfl)
    exact ⟨op, hop, hbuilt hsame⟩

end Api

end ApiScaffold
