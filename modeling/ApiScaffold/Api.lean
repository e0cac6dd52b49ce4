/-
The resolved description of an API that templates are rendered from: the named schemas, and the
operations of each tag ordered by address and method. `Api.ofDocument` builds it, and gives every
operation a name of its own.
-/
import ApiScaffold.Document
import ApiScaffold.Operation.Build
import ApiScaffold.Schema.Flatten

namespace ApiScaffold

structure Api where
  title : String
  version : String
  description : Option String
  basePath : String
  schemas : SortedMap Schema
  /-- The operations of each tag. -/
  paths : SortedMap (List Operation)

namespace Api

/-- An operation of a document, before its name is final. -/
structure Route where
  operation : Operation
  location : Location
  /-- Whether the document gives the operation its name. -/
  declared : Bool

/-- The operation of one method of a path item, if the item has it. -/
def readRoute (root : Json) (types : TypeTable) (url : String) (item : Members) (method : HttpMethod) :
    Except ResolveError (Option Route) :=
  let loc := "paths." ++ url ++ "." ++ method.key
  match Members.get? item method.key with
  | none => .ok none
  | some (.obj operation) => do
    let merged ← Operation.merge root item operation loc
    let built ← Operation.build root types url method (.obj merged) loc
    return some ⟨built, loc, ((Json.obj merged).getStr? "operationId").isSome⟩
  | some _ => .error (.malformedSpec loc "operation must be a mapping")

/-- The operations of a path item, in the order of the methods. -/
def readPath (root : Json) (types : TypeTable) (url : String) (item : Json) :
    Except ResolveError (List Route) :=
  match item with
  | .obj ms => do
    let routes ← HttpMethod.all.mapM (readRoute root types url ms)
    return routes.filterMap id
  | _ => .error (.malformedSpec ("paths." ++ url) "path item must be a mapping")

/-- The operations of a document, in declared order. -/
def readRoutes (root : Json) (types : TypeTable) (paths : Members) : Except ResolveError (List Route) := do
  let routes ← paths.mapM fun (url, item) => readPath root types url item
  return routes.flatten

/-- The names that are taken, with the place of their first holder. -/
abbrev Holders := List (String × Location)

/-- Takes the declared names, which have to be distinct. -/
def takeDeclared : Holders → List Route → Except ResolveError Holders
  | taken, [] => .ok taken
  | taken, r :: rest =>
    if r.declared then
      match taken.lookup r.operation.functionName with
      | some first => .error (.duplicateOperation r.operation.functionName first r.location)
      | none => takeDeclared ((r.operation.functionName, r.location) :: taken) rest
    else takeDeclared taken rest

/-- The first of `name ++ n`, `name ++ (n + 1)`, … that is free, looking at most `fuel` names ahead. -/
def freeName (taken : List String) (name : String) : Nat → Nat → String
  | 0, n => name ++ toString n
  | fuel + 1, n =>
    if taken.contains (name ++ toString n) then freeName taken name fuel (n + 1) else name ++ toString n

/-- Gives each derived name in turn a number from 2 on if it is taken. -/
def renameDerived : List String → List Route → List Route
  | _, [] => []
  | taken, r :: rest =>
    if r.declared then r :: renameDerived taken rest
    else
      let name := r.operation.functionName
      let name := if taken.contains name then freeName taken name taken.length 2 else name
      { r with operation := { r.operation with functionName := name } } :: renameDerived (name :: taken) rest

/-- Distinct names for all operations: declared ones are kept, derived ones give way. -/
def assignNames (routes : List Route) : Except ResolveError (List Route) := do
  let taken ← takeDeclared [] routes
  return renameDerived (taken.map (·.1)) routes

/-- The order of the operations of a tag. -/
def operationLe (a b : Operation) : Bool :=
  if a.url != b.url then a.url < b.url else a.method.rank ≤ b.method.rank

/-- Adds an operation to its tag. -/
def addToTag (paths : SortedMap (List Operation)) (op : Operation) : SortedMap (List Operation) :=
  paths.insert op.tag ((paths.get? op.tag).getD [] ++ [op])

/-- The operations of each tag in order. -/
def groupByTag (ops : List Operation) : SortedMap (List Operation) :=
  (ops.foldl addToTag .empty).mapValues (·.mergeSort operationLe)

/-- The resolved description of a document in the words of a language. -/
def ofDocument (doc : Document) (types : TypeTable) : Except ResolveError Api := do
  let schemas ← Schema.flatten doc.root types (doc.schemas?.getD [])
  let routes ← readRoutes doc.root types doc.paths
  let named ← assignNames routes
  return {
    title := doc.title
    version := doc.version
    description := doc.description?
    basePath := doc.basePath
    schemas := schemas
    paths := groupByTag (named.map (·.operation)) }

/-- All operations, tag by tag. -/
def operations (api : Api) : List Operation := api.paths.values.flatten

/-- The names that some schema or operation depends on and that no schema has. -/
def danglingDependencies (api : Api) : NameSet :=
  let names := api.schemas.values.flatMap (·.dependencies.names) ++
    api.operations.flatMap (·.dependencies.names)
  NameSet.ofList (names.filter fun n => !api.schemas.contains n)

end Api

end ApiScaffold
