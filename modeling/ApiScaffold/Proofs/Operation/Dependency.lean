/-
What operations depend on. An operation takes its body and its responses from its own mapping, never from its path
item (`get?_merge`). `BodyOf` says which bodies it has, `ContentNode` through which node an entry of their contents
is read, and `OperationPointsTo` which references of it count; its dependencies are the names of their targets.
-/
import ApiScaffold.Operation.Build
import ApiScaffold.Proofs.Json.Members
import ApiScaffold.Proofs.Schema.Chain

namespace ApiScaffold.Operation

open Schema

/-! ## Merging -/

theorem get?_foldl_kept {f : Members → String → Members} {key : String}
    (hf : ∀ acc k, k ≠ key → Members.get? (f acc k) key = Members.get? acc key) :
    ∀ (keys : List String) (acc : Members), key ∉ keys → Members.get? (keys.foldl f acc) key = Members.get? acc key
  | [], _, _ => rfl
  | k :: keys, acc, h => by
    rw [List.mem_cons, not_or] at h
    rw [List.foldl_cons, get?_foldl_kept hf keys _ h.2, hf acc k fun heq => h.1 heq.symm]

/-- The extensions and the fallback keys apart, an operation has its own keys, the last of a name counting. -/
theorem get?_mergeKeys {pathItem operation : Members} {key : String} (plain : isExtension key = false)
    (own : key ∉ fallbackKeys) :
    Members.get? (mergeKeys pathItem operation) key = Members.get? (Members.distinct operation) key := by
  unfold mergeKeys
  rw [get?_foldl_kept _ _ _ own]
  swap
  · intro acc k hne
    split
    · rfl
    · split
      · rw [Members.get?_insert, if_neg hne.symm]
      · rfl
  rw [List.foldl_append, Members.get?_foldl_insert]
  change (Members.get? (Members.distinct operation) key).or
    (Members.get? (Members.distinct (extensionsOf pathItem)) key) = _
  -- the path item contributes vendor keys only
  rcases hext : Members.get? (Members.distinct (extensionsOf pathItem)) key with _ | v
  · exact Option.or_none
  · have hkey := (List.mem_filter.1 (Members.mem_of_get?_distinct hext)).2
    rw [plain] at hkey
    cases hkey

theorem get?_merge {root : Json} {pathItem operation merged : Members} {loc : Location}
    (h : merge root pathItem operation loc = .ok merged) {key : String} (plain : isExtension key = false)
    (own : key ∉ fallbackKeys) (other : key ≠ "parameters") :
    Members.get? merged key = Members.get? (Members.distinct operation) key := by
  obtain ⟨inherited, -, h⟩ := except_bind_ok h
  obtain ⟨declared, -, h⟩ := except_bind_ok h
  cases h
  split
  · exact get?_mergeKeys plain own
  · rw [Members.get?_insert, if_neg other, get?_mergeKeys plain own]

/-! ## Bodies and their contents -/

/-- The request body and the responses of an operation, as written. -/
inductive BodyOf (operation : Members) : Json → Prop
  | request {body : Json} (written : Members.get? operation "requestBody" = some body) : BodyOf operation body
  | response {responses : Members} {code : String} {body : Json}
      (written : Members.get? operation "responses" = some (.obj responses)) (mem : (code, body) ∈ responses) :
      BodyOf operation body

/-- The node through which a content entry is read: its `schema`, or without one its `items`. -/
def ContentNode (entry node : Json) : Prop :=
  entry.get? "schema" = some node ∨ entry.get? "schema" = none ∧ entry.get? "items" = some node

/-- What a content entry refers to. -/
def EntryPointsTo (entry : Json) (r : Reference) : Prop := ∃ node, ContentNode entry node ∧ PointsTo node r

/-- What the entries of contents refer to. -/
def ContentsPointTo (contents : Members) (r : Reference) : Prop :=
  ∃ format entry, (format, entry) ∈ contents ∧ EntryPointsTo entry r

/-- What a body refers to, one hop from where it is written at most. -/
def BodyPointsTo (root written : Json) (r : Reference) : Prop :=
  ∃ body contents, Reference.Leads root written body ∧ body.getObj? "content" = some contents ∧
    ContentsPointTo contents r

/-- What an operation refers to. -/
def OperationPointsTo (root : Json) (operation : Members) (r : Reference) : Prop :=
  ∃ written, BodyOf operation written ∧ BodyPointsTo root written r

theorem contentNode_iff {entry node : Json} :
    (∃ key, contentNode entry = some (node, key)) ↔ ContentNode entry node := by
  unfold contentNode ContentNode
  rcases entry.get? "schema" with _ | s <;> rcases entry.get? "items" with _ | i <;> simp

theorem not_entryPointsTo {entry : Json} (h : contentNode entry = none) (r : Reference) : ¬ EntryPointsTo entry r := by
  rintro ⟨node, hnode, -⟩
  obtain ⟨key, hread⟩ := contentNode_iff.2 hnode
  rw [h] at hread
  cases hread

theorem entryPointsTo_iff {entry node : Json} {key : String} (h : contentNode entry = some (node, key))
    (r : Reference) : EntryPointsTo entry r ↔ PointsTo node r := by
  constructor
  · rintro ⟨node', hnode, points⟩
    obtain ⟨key', hread⟩ := contentNode_iff.2 hnode
    rw [h] at hread
    cases hread
    exact points
  · exact fun points => ⟨node, contentNode_iff.1 ⟨key, h⟩, points⟩

theorem not_contentsPointTo_nil (r : Reference) : ¬ ContentsPointTo [] r := by
  rintro ⟨_, _, hmem, -⟩
  cases hmem

section

variable {root : Json}

theorem contentTargets_adds {loc : Location} :
    ∀ {contents : Members} {found found' : NameSet}, contentTargets root loc contents found = (found', .ok ()) →
      Adds root (ContentsPointTo contents) found found'
  | [], found, found', h => by
    cases h
    exact .none not_contentsPointTo_nil found
  | (format, entry) :: rest, found, found', h => by
    have hsplit : ∀ r, ContentsPointTo ((format, entry) :: rest) r ↔ EntryPointsTo entry r ∨ ContentsPointTo rest r :=
      fun _ => Members.exists_mem_cons
    unfold contentTargets at h
    rcases hread : contentNode entry with _ | ⟨node, key⟩ <;> rw [hread] at h <;> simp only at h
    · exact (contentTargets_adds h).congr fun r => (hsplit r).trans (or_iff_right (not_entryPointsTo hread r))
    · rcases htarget : chainTarget root node (loc ++ ".content." ++ format ++ "." ++ key) with e | target <;>
        rw [htarget] at h <;> simp only at h
      · cases h
      · refine (chainTarget_adds htarget found).trans (contentTargets_adds h) fun r => ?_
        rw [hsplit, entryPointsTo_iff hread]

theorem bodyDependencies_adds {written : Json} {loc : Location} {found found' : NameSet}
    (h : bodyDependencies root written loc found = .ok found') :
    Adds root (BodyPointsTo root written) found found' := by
  obtain ⟨body, hbody, h⟩ := except_bind_ok h
  have hleads := Reference.deref_ok.1 hbody
  have only : ∀ r, BodyPointsTo root written r ↔ ContentsPointTo ((body.getObj? "content").getD []) r := by
    intro r
    constructor
    · rintro ⟨body', contents, hleads', hcontents, points⟩
      rw [Reference.deref_ok.2 hleads'] at hbody
      cases hbody
      simpa only [hcontents, Option.getD_some] using points
    · intro points
      rcases hcontents : body.getObj? "content" with _ | contents
      · rw [hcontents] at points
        exact absurd points (not_contentsPointTo_nil r)
      · exact ⟨body, contents, hleads, hcontents, by simpa only [hcontents, Option.getD_some] using points⟩
  rcases hcontents : contentDependencies root (body.get? "content") loc found with ⟨names, err | ⟨⟩⟩ <;>
    rw [hcontents] at h
  · cases h
  · cases h
    exact (contentTargets_adds hcontents).congr only

theorem foldl_bodyDependencies_adds {loc : String → Location} :
    ∀ {responses : Members} {found found' : NameSet},
      responses.foldlM (fun found response => bodyDependencies root response.2 (loc response.1) found) found =
        .ok found' →
      Adds root (fun r => ∃ code written, (code, written) ∈ responses ∧ BodyPointsTo root written r) found found'
  | [], found, found', h => by
    cases h
    exact .none (fun r ⟨_, _, hmem, _⟩ => by cases hmem) found
  | (code, written) :: rest, found, found', h => by
    rw [List.foldlM_cons] at h
    obtain ⟨middle, hfirst, h⟩ := except_bind_ok h
    exact (bodyDependencies_adds hfirst).trans (foldl_bodyDependencies_adds h) fun _ => Members.exists_mem_cons

theorem getObj?_obj {ms : Members} {key : String} {inner : Members} :
    (Json.obj ms).getObj? key = some inner ↔ Members.get? ms key = some (.obj inner) := by
  unfold Json.getObj?
  rw [Option.bind_eq_some_iff]
  constructor
  · rintro ⟨j, hj, hobj⟩
    cases j with
    | obj ms' => cases hobj; exact hj
    | _ => cases hobj
  · exact fun h => ⟨_, h, rfl⟩

/-- The references of an operation are those of its request body and those of its responses. -/
theorem operationPointsTo_iff {operation : Members} {r : Reference} : OperationPointsTo root operation r ↔
    (∃ body, Members.get? operation "requestBody" = some body ∧ BodyPointsTo root body r) ∨
      ∃ code body, (code, body) ∈ ((Json.obj operation).getObj? "responses").getD [] ∧ BodyPointsTo root body r := by
  constructor
  · rintro ⟨body, hbody, points⟩
    cases hbody with
    | request written => exact .inl ⟨body, written, points⟩
    | response written mem => exact .inr ⟨_, body, by rwa [getObj?_obj.2 written], points⟩
  · rintro (⟨body, written, points⟩ | ⟨code, body, hmem, points⟩)
    · exact ⟨body, .request written, points⟩
    · rcases hresponses : (Json.obj operation).getObj? "responses" with _ | responses <;> rw [hresponses] at hmem
      · cases hmem
      · exact ⟨body, .response (getObj?_obj.1 hresponses) hmem, points⟩

/-- An operation depends on what it refers to. -/
theorem operationDependencies_adds {operation : Members} {loc : Location} {names : NameSet}
    (h : operationDependencies root (.obj operation) loc = .ok names) :
    Adds root (OperationPointsTo root operation) .empty names := by
  have hrequest : ∃ found, Adds root (fun r => ∃ body, Members.get? operation "requestBody" = some body ∧
      BodyPointsTo root body r) .empty found ∧
      (((Json.obj operation).getObj? "responses").getD []).foldlM (fun found response =>
        bodyDependencies root response.2 (loc ++ ".responses." ++ response.1) found) found = .ok names := by
    unfold operationDependencies at h
    simp only at h
    have hget : (Json.obj operation).get? "requestBody" = Members.get? operation "requestBody" := rfl
    rw [hget] at h
    split at h
    · rename_i body written
      obtain ⟨found, hfound, h⟩ := except_bind_ok h
      refine ⟨found, (bodyDependencies_adds hfound).congr fun r => ?_, h⟩
      simp only [written, Option.some.injEq, exists_eq_left']
    · rename_i absent
      obtain ⟨found, hfound, h⟩ := except_bind_ok h
      cases hfound
      refine ⟨.empty, .none (fun r => ?_) .empty, h⟩
      simp only [absent, reduceCtorEq, false_and, exists_false, not_false_eq_true]
  obtain ⟨found, hadds, hresponses⟩ := hrequest
  exact hadds.trans (foldl_bodyDependencies_adds hresponses) fun _ => operationPointsTo_iff

/-! ## Building -/

/-- The body of an operation, if it has one. -/
def readRequestBody (root : Json) (types : TypeTable) (merged : Json) (loc : Location) :
    Except ResolveError (Option RequestBody) :=
  match merged.get? "requestBody" with
  | some written => (readBody root types written loc).map some
  | none => .ok none

/-- An operation of what was read for it, with the parameters and responses in any order. -/
def assemble (url : String) (method : HttpMethod) (merged : Json) (parameters : List Parameter)
    (requestBody : Option RequestBody) (responses : List Response) (dependencies : NameSet) : Operation where
  url := url
  tag := tagOf merged
  method := method
  functionName := nameOf url method merged
  summary := merged.getStr? "summary"
  description := merged.getStr? "description"
  parameters := parameters.mergeSort parameterLe
  requestBody := requestBody
  responses := responses.mergeSort responseLe
  dependencies := dependencies
  deprecated := flag merged "deprecated"
  servers := merged.get? "servers"
  externalDocs := merged.get? "externalDocs"
  callbacks := merged.get? "callbacks"
  security := merged.get? "security"
  extensions := nodeExtensions merged

/-- An operation in its parts, each as it was read from the merged mapping. -/
structure Parts (root : Json) (types : TypeTable) (merged : Json) (loc : Location) (op : Operation) : Prop where
  parameters : ∃ read, readParameters root types loc 0 ((merged.getArr? "parameters").getD []) = .ok read ∧
    op.parameters = read.mergeSort parameterLe
  requestBody : (merged.get? "requestBody" = none ∧ op.requestBody = none) ∨ ∃ written body,
    merged.get? "requestBody" = some written ∧ readBody root types written loc = .ok body ∧ op.requestBody = some body
  responses : ∃ read, readResponses root types merged loc = .ok read ∧ op.responses = read.mergeSort responseLe
  dependencies : operationDependencies root merged loc = .ok op.dependencies

/-- An operation is built of what is read for it, if all of that can be read. -/
theorem build_iff {types : TypeTable} {url : String} {method : HttpMethod} {merged : Json} {loc : Location}
    {op : Operation} : build root types url method merged loc = .ok op ↔
      ∃ parameters requestBody responses dependencies,
      readParameters root types loc 0 ((merged.getArr? "parameters").getD []) = .ok parameters ∧
      readRequestBody root types merged loc = .ok requestBody ∧
      readResponses root types merged loc = .ok responses ∧
      operationDependencies root merged loc = .ok dependencies ∧
      assemble url method merged parameters requestBody responses dependencies = op := by
  have hbuild : build root types url method merged loc =
      (readParameters root types loc 0 ((merged.getArr? "parameters").getD [])).bind fun parameters =>
        (readRequestBody root types merged loc).bind fun requestBody =>
          (readResponses root types merged loc).bind fun responses =>
            (operationDependencies root merged loc).bind fun dependencies =>
              .ok (assemble url method merged parameters requestBody responses dependencies) := by
    unfold build readRequestBody
    cases merged.get? "requestBody" <;> rfl
  rw [hbuild]
  constructor
  · intro h
    obtain ⟨parameters, hparameters, h⟩ := except_bind_ok h
    obtain ⟨requestBody, hbody, h⟩ := except_bind_ok h
    obtain ⟨responses, hresponses, h⟩ := except_bind_ok h
    obtain ⟨dependencies, hdeps, h⟩ := except_bind_ok h
    exact ⟨parameters, requestBody, responses, dependencies, hparameters, hbody, hresponses, hdeps, Except.ok.inj h⟩
  · rintro ⟨parameters, requestBody, responses, dependencies, hparameters, hbody, hresponses, hdeps, rfl⟩
    rw [hparameters, hbody, hresponses, hdeps]
    rfl

theorem build_ok {types : TypeTable} {url : String} {method : HttpMethod} {merged : Json} {loc : Location}
    {op : Operation} (h : build root types url method merged loc = .ok op) :
    op.url = url ∧ op.method = method ∧ Parts root types merged loc op := by
  obtain ⟨parameters, body, responses, dependencies, hparameters, hbody, hresponses, hdeps, rfl⟩ := build_iff.1 h
  refine ⟨rfl, rfl, ⟨parameters, hparameters, rfl⟩, ?_, ⟨responses, hresponses, rfl⟩, hdeps⟩
  unfold readRequestBody at hbody
  split at hbody
  · rename_i written given
    obtain ⟨body, hread, rfl⟩ := except_map_ok hbody
    exact .inr ⟨written, body, given, hread, rfl⟩
  · rename_i absent
    cases hbody
    exact .inl ⟨absent, rfl⟩

/-- Merging changes neither the body of an operation nor its responses. -/
theorem bodyOf_merge {item operation merged : Members} {loc : Location}
    (h : merge root item operation loc = .ok merged) (written : Json) :
    BodyOf merged written ↔ BodyOf (Members.distinct operation) written := by
  have hrequest : Members.get? merged "requestBody" = _ := get?_merge h (by decide +kernel) (by decide) (by decide)
  have hresponses : Members.get? merged "responses" = _ := get?_merge h (by decide +kernel) (by decide) (by decide)
  constructor
  · intro hbody
    cases hbody with
    | request given => exact .request (hrequest ▸ given)
    | response given mem => exact .response (hresponses ▸ given) mem
  · intro hbody
    cases hbody with
    | request given => exact .request (hrequest ▸ given)
    | response given mem => exact .response (hresponses ▸ given) mem

/-- An operation built with the defaults of its path item depends on what it refers to itself. -/
theorem build_merge_adds {types : TypeTable} {url : String} {method : HttpMethod} {item operation merged : Members}
    {loc : Location} {op : Operation} (hmerge : merge root item operation loc = .ok merged)
    (h : build root types url method (.obj merged) loc = .ok op) :
    Adds root (OperationPointsTo root (Members.distinct operation)) .empty op.dependencies := by
  obtain ⟨-, -, parts⟩ := build_ok h
  refine (operationDependencies_adds parts.dependencies).congr fun r => ?_
  unfold OperationPointsTo
  simp only [bodyOf_merge hmerge]

end

end ApiScaffold.Operation
