/-
What is imported where the operations of a tag are written. A round about a tag sees the names that its operations
depend on: exactly those that their contents refer to, so that the type of no content needs another name
(`imports_closed`). Parameters have types too, but nothing is imported for these.
-/
import ApiScaffold.Context
import ApiScaffold.Proofs.Api.Declared
import ApiScaffold.Proofs.Api.References

namespace ApiScaffold.Api

open Operation (EntryOf OperationPointsTo ReadsType SchemaOf)

/-- The declaration of an operation, with the path item that it stands in. -/
def DeclaredIn (doc : Document) (op : Operation) (item declared : Members) : Prop :=
  (op.url, .obj item) ∈ doc.paths ∧ Members.get? item op.method.key = some (.obj declared)

/-- Imports that cover the types of the contents of operations. -/
structure ImportsCover (doc : Document) (types : TypeTable) (ops : List Operation) (imports : NameSet) : Prop where
  /-- Each content has the type of the schema of an entry, and what that schema refers to is imported. -/
  content : ∀ op ∈ ops, ∃ item declared, DeclaredIn doc op item declared ∧ ∀ c ∈ op.contentsOf, ∃ entry,
    EntryOf doc.root (Members.distinct declared) c.format entry ∧ ReadsType doc.root types entry c.type ∧
      ∀ {node r}, entry.get? "schema" = some node → Schema.PointsTo node r → r.name ∈ imports
  /-- Nothing is imported but what some content refers to. -/
  source : ∀ name ∈ imports, ∃ op ∈ ops, ∃ item declared r, DeclaredIn doc op item declared ∧
    OperationPointsTo doc.root (Members.distinct declared) r ∧ r.name = name

/-- What the schema of an entry refers to, the operation refers to. -/
theorem operationPointsTo_of_entry {root entry node : Json} {operation : Members} {format : String} {r : Reference}
    (written : EntryOf root operation format entry) (schema : entry.get? "schema" = some node)
    (points : Schema.PointsTo node r) : OperationPointsTo root operation r := by
  obtain ⟨body, hbody, target, contents, leads, hcontents, mem⟩ := written
  exact ⟨body, hbody, target, contents, leads, hcontents, format, entry, mem, node, .inl schema, points⟩

/-- The names that a round about a tag sees are those that the operations of the tag depend on. -/
theorem mem_tagDependencies {ctx : Context} {tag : String} {ops : List Operation} (round : ctx.currentTag = some tag)
    (listed : ctx.api.paths.get? tag = some ops) (name : String) :
    name ∈ ctx.tagDependencies ↔ ∃ op ∈ ops, name ∈ op.dependencies := by
  have hops : ctx.operations? = some ops := by
    unfold Context.operations?
    rw [round]
    exact listed
  unfold Context.tagDependencies
  rw [NameSet.mem_ofList, hops, Option.getD_some, List.mem_flatMap]
  rfl

/-- The imports of a tag cover the types of the contents of its operations, and nothing else is imported. -/
theorem imports_closed {doc : Document} {types : TypeTable} {ctx : Context} (h : ofDocument doc types = .ok ctx.api)
    {tag : String} {ops : List Operation} (round : ctx.currentTag = some tag)
    (listed : ctx.api.paths.get? tag = some ops) : ImportsCover doc types ops ctx.tagDependencies := by
  have hbuilds := ofDocument_builds h
  have hop : ∀ op ∈ ops, op ∈ ctx.api.operations := fun op hop =>
    List.mem_flatten.2 ⟨ops, SortedMap.mem_values.2 ⟨tag, listed⟩, hop⟩
  constructor
  case content =>
    intro op hmem
    obtain ⟨item, declared, hpath, given, hbuilt⟩ := hbuilds.source op (hop op hmem)
    refine ⟨item, declared, ⟨hpath, given⟩, fun c hc => ?_⟩
    obtain ⟨entry, hentry, htype⟩ := hbuilt.contents.source c hc
    refine ⟨entry, hentry, htype, fun {node r} schema points => ?_⟩
    have hdep : r.name ∈ op.dependencies :=
      (hbuilt.readFrom.dependencies.mem _).2 (.inr ⟨r, operationPointsTo_of_entry hentry schema points, rfl⟩)
    exact (mem_tagDependencies round listed _).2 ⟨op, hmem, hdep⟩
  case source =>
    intro name hname
    obtain ⟨op, hmem, hdep⟩ := (mem_tagDependencies round listed name).1 hname
    obtain ⟨item, declared, hpath, given, hbuilt⟩ := hbuilds.source op (hop op hmem)
    rcases (hbuilt.readFrom.dependencies.mem name).1 hdep with hnone | ⟨r, points, hr⟩
    · exact absurd hnone NameSet.not_mem_empty
    · exact ⟨op, hmem, item, declared, r, ⟨hpath, given⟩, points, hr⟩

/-- The round about a tag. -/
def roundOf (api : Api) (tag : String) : Context := { Context.start api [] with currentTag := some tag }

/-- The operations of the pets need the names of two schemas. -/
theorem imports_closed_pets : ∃ api ops, ofDocument pets plainTypes = .ok api ∧
    api.paths.get? "default" = some ops ∧ ImportsCover pets plainTypes ops (roundOf api "default").tagDependencies ∧
    (roundOf api "default").tagDependencies = .ofList ["Pet", "Problem"] := by
  have himports : (ofDocument pets plainTypes).toOption.map (fun api =>
      ((api.paths.get? "default").isSome, (roundOf api "default").tagDependencies)) =
        some (true, .ofList ["Pet", "Problem"]) := by decide +kernel
  obtain ⟨api, hapi, himports⟩ := except_toOption_map himports
  obtain ⟨hsome, hnames⟩ := Prod.mk.inj himports
  obtain ⟨ops, hops⟩ := Option.isSome_iff_exists.1 hsome
  have hround : ofDocument pets plainTypes = .ok (roundOf api "default").api := hapi
  exact ⟨api, ops, hapi, hops, imports_closed hround rfl hops, hnames⟩

/-- Pets by their status, which is a schema of its own. -/
def byStatus : Document where
  root := .obj [
    ("openapi", .str "3.0.0"),
    ("paths", .obj [("/pets", .obj [("get", .obj [("parameters", .arr [.obj [
      ("name", .str "status"), ("in", .str "query"), ("schema", refTo "#/components/schemas/Status")]])])])]),
    ("components", .obj [("schemas", .obj [("Status", .obj [("type", .str "string")])])])]

/-- The type of a parameter is not imported. -/
theorem parameter_not_imported : ¬ ∀ (doc : Document) (types : TypeTable) (ctx : Context) (tag : String)
    (ops : List Operation), ofDocument doc types = .ok ctx.api → ctx.currentTag = some tag →
      ctx.api.paths.get? tag = some ops → ∀ op ∈ ops, ∀ item declared, DeclaredIn doc op item declared →
        ∀ node r, SchemaOf doc.root item declared node → Schema.PointsTo node r → r.ToSchema →
          r.name ∈ ctx.tagDependencies := by
  intro hall
  have hround : (ofDocument byStatus plainTypes).toOption.map (fun api =>
      ((api.paths.get? "default").map (·.map fun op => (op.url, op.method)),
        (roundOf api "default").tagDependencies)) = some (some [("/pets", .get)], .empty) := by decide +kernel
  obtain ⟨api, hapi, hround⟩ := except_toOption_map hround
  obtain ⟨hops, hnone⟩ := Prod.mk.inj hround
  obtain ⟨ops, hops, hmap⟩ := Option.map_eq_some_iff.1 hops
  obtain ⟨op, rest, rfl, hop, -⟩ := List.map_eq_cons_iff.1 hmap
  obtain ⟨hurl, hmethod⟩ := Prod.mk.inj hop
  have hdeclared : ∃ item declared, DeclaredIn byStatus op item declared ∧
      SchemaOf byStatus.root item declared (refTo "#/components/schemas/Status") := by
    unfold DeclaredIn
    rw [hurl, hmethod]
    refine ⟨_, _, ⟨.head _, rfl⟩, ?_⟩
    apply SchemaOf.parameter
    case listed => exact .own ⟨_, rfl, .head _⟩
    case leads => exact .inline rfl
    case schema => rfl
  obtain ⟨item, declared, hin, hschema⟩ := hdeclared
  have hmem := hall byStatus plainTypes (roundOf api "default") "default" (op :: rest) hapi rfl hops op (.head _) item
    declared hin _ ⟨"components", "schemas", "Status"⟩ hschema
    ⟨_, (Schema.refers_of_reference rfl).2 rfl, rfl⟩ ⟨rfl, rfl⟩
  rw [hnone] at hmem
  exact absurd hmem NameSet.not_mem_empty

end ApiScaffold.Api
