/-
Operations built from merged mappings, with parameters and responses in a canonical order.
-/
import ApiScaffold.Naming
import ApiScaffold.Operation
import ApiScaffold.Operation.Merge
import ApiScaffold.Schema.Dependency
import ApiScaffold.Schema.TypeToken

namespace ApiScaffold.Operation

/-- The tag of operations that declare none. -/
def defaultTag : String := "default"

/-- Whether a text is `true` in any case of its letters. -/
def spellsTrue (s : String) : Bool := s.toList.map Char.toLower == ['t', 'r', 'u', 'e']

/-- A flag may also be written as a text; anything else is false. -/
def flag (node : Json) (key : String) : Bool :=
  match node.get? key with
  | some (.bool b) => b
  | some (.str s) => spellsTrue s
  | _ => false

/-- The vendor keys of a node. -/
def nodeExtensions (node : Json) : Members := extensionsOf (node.obj?.getD [])

/-- A parameter of an operation. -/
def readParameter (root : Json) (types : TypeTable) (entry : Json) (loc : Location) :
    Except ResolveError Parameter := do
  let malformed (reason : String) : ResolveError := .malformedSpec loc reason
  let name ← match entry.getStr? "name" with
    | some name => .ok name
    | none => .error (malformed "parameter has no `name`")
  let place ← match entry.getStr? "in" with
    | some place => .ok place
    | none => .error (malformed "parameter has no `in`")
  let location ← match ParameterLocation.ofKey? place with
    | some location => .ok location
    | none => .error (malformed s!"unknown parameter location `{place}`")
  let type ← Schema.schemaToken root types entry loc
  return {
    name := name
    location := location
    required := flag entry "required"
    type := type
    deprecated := flag entry "deprecated"
    description := entry.getStr? "description"
    style := entry.getStr? "style"
    explode := flag entry "explode"
    allowEmptyValue := flag entry "allowEmptyValue"
    allowReserved := flag entry "allowReserved"
    example? := entry.get? "example"
    extensions := nodeExtensions entry }

/-- The parameters of a list from the `index`-th on. -/
def readParameters (root : Json) (types : TypeTable) (loc : Location) : Nat → List Json →
    Except ResolveError (List Parameter)
  | _, [] => .ok []
  | index, written :: rest => do
    let loc' := loc ++ ".parameters." ++ toString index
    let entry ← Reference.deref root written loc'
    let parameter ← readParameter root types entry loc'
    let parameters ← readParameters root types loc (index + 1) rest
    return parameter :: parameters

/-- One media type of a body or response. -/
def readContent (root : Json) (types : TypeTable) (loc : Location) (format : String) (entry : Json) :
    Except ResolveError Content := do
  let type ← Schema.schemaToken root types entry (loc ++ ".content." ++ format)
  return {
    format := format
    type := type
    example? := entry.get? "example"
    examples := entry.get? "examples"
    encoding := entry.get? "encoding"
    extensions := nodeExtensions entry }

/-- The media types of a body or response, in declared order. -/
def readContents (root : Json) (types : TypeTable) (node : Json) (loc : Location) :
    Except ResolveError (List Content) :=
  ((node.getObj? "content").getD []).mapM fun (format, entry) => readContent root types loc format entry

/-- The body of an operation, which may be a reference. -/
def readBody (root : Json) (types : TypeTable) (written : Json) (loc : Location) :
    Except ResolveError RequestBody := do
  let loc := loc ++ ".requestBody"
  let body ← Reference.deref root written loc
  let contents ← readContents root types body loc
  return {
    required := flag body "required"
    description := body.getStr? "description"
    contents := contents
    extensions := nodeExtensions body }

/-- A response of an operation, which may be a reference. -/
def readResponse (root : Json) (types : TypeTable) (loc : Location) (code : String) (written : Json) :
    Except ResolveError Response := do
  let loc := loc ++ ".responses." ++ code
  let response ← Reference.deref root written loc
  let contents ← readContents root types response loc
  return {
    code := code
    description := response.getStr? "description"
    contents := contents
    headers := response.get? "headers"
    extensions := nodeExtensions response }

/-- The responses of an operation, in declared order. -/
def readResponses (root : Json) (types : TypeTable) (merged : Json) (loc : Location) :
    Except ResolveError (List Response) :=
  match merged.get? "responses" with
  | none => .ok []
  | some (.obj entries) => entries.mapM fun (code, written) => readResponse root types loc code written
  | some _ => .error (.malformedSpec (loc ++ ".responses") "`responses` must be a mapping")

/-- The order of parameters: required ones first, then by name, then by place. -/
def parameterLe (a b : Parameter) : Bool :=
  if a.required != b.required then a.required
  else if a.name != b.name then a.name < b.name
  else a.location.rank ≤ b.location.rank

/-- The order of responses. -/
def responseLe (a b : Response) : Bool := a.code ≤ b.code

/-- The first tag of an operation. -/
def tagOf (merged : Json) : String :=
  (((merged.getArr? "tags").bind List.head?).bind Json.str?).getD defaultTag

/-- The declared name of an operation, else the one derived from its route. -/
def nameOf (url : String) (method : HttpMethod) (merged : Json) : String :=
  (merged.getStr? "operationId").getD (Naming.routeName method url)

/-- The operation of a merged mapping. -/
def build (root : Json) (types : TypeTable) (url : String) (method : HttpMethod) (merged : Json)
    (loc : Location) : Except ResolveError Operation := do
  let parameters ← readParameters root types loc 0 ((merged.getArr? "parameters").getD [])
  let requestBody ← match merged.get? "requestBody" with
    | some written => (readBody root types written loc).map some
    | none => .ok none
  let responses ← readResponses root types merged loc
  let dependencies ← Schema.operationDependencies root merged loc
  return {
    url := url
    tag := tagOf merged
    method := method
    functionName := nameOf url method merged
    summary := merged.getStr? "summary"
    description := merged.getStr? "description"
    parameters := parameters.mergeSort parameterLe
    requestBody := requestBody
    responses := responses.mergeSort responseLe
    dependencies := dependencies
    deprecated := flag merged "deprecated"
    servers := merged.get? "servers"
    externalDocs := merged.get? "externalDocs"
    callbacks := merged.get? "callbacks"
    security := merged.get? "security"
    extensions := nodeExtensions merged }

end ApiScaffold.Operation
