/-
The contents of an operation are those of its request body and of its responses. Building an operation reads one from
every entry that is written, one hop from there at most, and gives it the type of its schema (`build_built`). With the
parameters these are the schemas that an operation reads (`SchemaOf`).
-/
import ApiScaffold.Proofs.Operation.Parameters

namespace ApiScaffold.Operation

open Reference (Leads)

/-- An entry of the contents of a body or response, one hop from where that is written at most. -/
def EntryOfBody (root written : Json) (format : String) (entry : Json) : Prop :=
  ∃ body contents, Leads root written body ∧ body.getObj? "content" = some contents ∧ (format, entry) ∈ contents

/-- An entry of the contents of an operation. -/
def EntryOf (root : Json) (operation : Members) (format : String) (entry : Json) : Prop :=
  ∃ written, BodyOf operation written ∧ EntryOfBody root written format entry

/-- The contents of an operation. -/
def contentsOf (op : Operation) : List Content :=
  (op.requestBody.map (·.contents)).getD [] ++ op.responses.flatMap (·.contents)

/-- A schema that an operation reads: that of a parameter, or that of an entry of its contents. Of keys that are
written twice in an operation the last counts. -/
inductive SchemaOf (root : Json) (item operation : Members) (node : Json) : Prop
  | parameter {written entry : Json} (listed : ParameterOf root item operation written)
      (leads : Leads root written entry) (schema : entry.get? "schema" = some node) : SchemaOf root item operation node
  | content {format : String} {entry : Json} (written : EntryOf root (Members.distinct operation) format entry)
      (schema : entry.get? "schema" = some node) : SchemaOf root item operation node

/-- The type of the schema of a parameter or content entry, as read at some place. -/
def ReadsType (root : Json) (types : TypeTable) (entry : Json) (type : Option String) : Prop :=
  ∃ loc, Schema.schemaToken root types entry loc = .ok type

/-- Contents that were read from entries, each from one and from each one. -/
structure ReadsAll (root : Json) (types : TypeTable) (entries : String → Json → Prop) (contents : List Content) :
    Prop where
  source : ∀ c ∈ contents, ∃ entry, entries c.format entry ∧ ReadsType root types entry c.type
  covered : ∀ {format entry}, entries format entry → ∃ c ∈ contents, c.format = format ∧
    ReadsType root types entry c.type

section

variable {root : Json} {types : TypeTable}

theorem ReadsAll.congr {p q : String → Json → Prop} {contents : List Content} (h : ReadsAll root types p contents)
    (same : ∀ format entry, q format entry ↔ p format entry) : ReadsAll root types q contents where
  source := fun c hc => by simpa only [same] using h.source c hc
  covered := fun hq => h.covered ((same ..).1 hq)

theorem ReadsAll.append {p q : String → Json → Prop} {cs ds : List Content} (h : ReadsAll root types p cs)
    (h' : ReadsAll root types q ds) : ReadsAll root types (fun format entry => p format entry ∨ q format entry)
      (cs ++ ds) where
  source := fun c hc => by
    rcases List.mem_append.1 hc with hc | hc
    · obtain ⟨entry, hentry, hreads⟩ := h.source c hc
      exact ⟨entry, .inl hentry, hreads⟩
    · obtain ⟨entry, hentry, hreads⟩ := h'.source c hc
      exact ⟨entry, .inr hentry, hreads⟩
  covered := fun hentry => by
    rcases hentry with hentry | hentry
    · obtain ⟨c, hc, hreads⟩ := h.covered hentry
      exact ⟨c, List.mem_append_left _ hc, hreads⟩
    · obtain ⟨c, hc, hreads⟩ := h'.covered hentry
      exact ⟨c, List.mem_append_right _ hc, hreads⟩

/-! ## Reading -/

theorem readContents_ok {node : Json} {loc : Location} {contents : List Content}
    (h : readContents root types node loc = .ok contents) :
    ReadsAll root types (fun format entry => ∃ ms, node.getObj? "content" = some ms ∧ (format, entry) ∈ ms)
      contents := by
  have hentry : ∀ {format entry c}, readContent root types loc format entry = .ok c →
      c.format = format ∧ ReadsType root types entry c.type := by
    intro format entry c hc
    obtain ⟨type, htype, hc⟩ := except_bind_ok hc
    cases hc
    exact ⟨rfl, _, htype⟩
  have hmem : ∀ {m}, m ∈ (node.getObj? "content").getD [] ↔ ∃ ms, node.getObj? "content" = some ms ∧ m ∈ ms := by
    intro m
    rcases node.getObj? "content" with _ | ms <;> simp
  constructor
  · intro c hc
    obtain ⟨⟨format, entry⟩, hm, hread⟩ := (except_mapM_mem h).1 hc
    obtain ⟨rfl, htype⟩ := hentry hread
    exact ⟨entry, hmem.1 hm, htype⟩
  · intro format entry hm
    obtain ⟨c, hc, hread⟩ := except_mapM_exists h (hmem.2 hm)
    exact ⟨c, hc, hentry hread⟩

/-- The contents of a body or response are read where it leads. -/
theorem readContents_leads {written body : Json} {loc : Location} {contents : List Content}
    (hleads : Leads root written body) (h : readContents root types body loc = .ok contents) :
    ReadsAll root types (EntryOfBody root written) contents := by
  refine (readContents_ok h).congr fun format entry => ⟨?_, fun ⟨ms, hms⟩ => ⟨body, ms, hleads, hms⟩⟩
  rintro ⟨body', ms, hleads', hms⟩
  obtain rfl := hleads.unique hleads'
  exact ⟨ms, hms⟩

theorem readBody_ok {written : Json} {loc : Location} {body : RequestBody}
    (h : readBody root types written loc = .ok body) : ReadsAll root types (EntryOfBody root written) body.contents := by
  obtain ⟨target, htarget, h⟩ := except_bind_ok h
  obtain ⟨contents, hcontents, h⟩ := except_bind_ok h
  cases h
  exact readContents_leads (Reference.deref_ok.1 htarget) hcontents

theorem readResponse_ok {written : Json} {loc : Location} {code : String} {response : Response}
    (h : readResponse root types loc code written = .ok response) :
    ReadsAll root types (EntryOfBody root written) response.contents := by
  obtain ⟨target, htarget, h⟩ := except_bind_ok h
  obtain ⟨contents, hcontents, h⟩ := except_bind_ok h
  cases h
  exact readContents_leads (Reference.deref_ok.1 htarget) hcontents

theorem readResponses_ok {merged : Members} {loc : Location} {responses : List Response}
    (h : readResponses root types (.obj merged) loc = .ok responses) :
    ReadsAll root types (fun format entry => ∃ ms code written, Members.get? merged "responses" = some (.obj ms) ∧
      (code, written) ∈ ms ∧ EntryOfBody root written format entry) (responses.flatMap (·.contents)) := by
  unfold readResponses at h
  have hget : (Json.obj merged).get? "responses" = Members.get? merged "responses" := rfl
  rw [hget] at h
  split at h
  · rename_i absent
    cases h
    refine ⟨fun c hc => (List.not_mem_nil hc).elim, ?_⟩
    rintro format entry ⟨ms, code, written, given, -⟩
    rw [absent] at given
    cases given
  · rename_i ms given
    constructor
    · intro c hc
      obtain ⟨response, hresponse, hc⟩ := List.mem_flatMap.1 hc
      obtain ⟨⟨code, written⟩, hmem, hread⟩ := (except_mapM_mem h).1 hresponse
      obtain ⟨entry, hentry, htype⟩ := (readResponse_ok hread).source c hc
      exact ⟨entry, ⟨ms, code, written, given, hmem, hentry⟩, htype⟩
    · rintro format entry ⟨ms', code, written, given', hmem, hentry⟩
      rw [given] at given'
      cases given'
      obtain ⟨response, hresponse, hread⟩ := except_mapM_exists h hmem
      obtain ⟨c, hc, htype⟩ := (readResponse_ok hread).covered hentry
      exact ⟨c, List.mem_flatMap.2 ⟨response, hresponse, hc⟩, htype⟩
  · cases h

/-! ## Building -/

/-- An operation has the contents of its mapping, and its parameters. -/
structure Built (root : Json) (types : TypeTable) (merged : Members) (op : Operation) : Prop where
  contents : ReadsAll root types (EntryOf root merged) op.contentsOf
  parameters : ∃ read, List.Forall₂ (ReadsParameter root types) (parametersOf merged) read ∧ op.parameters.Perm read

/-- Reading gives the contents of a request body if there is one. -/
theorem Parts.requestBody_reads {merged : Json} {loc : Location} {op : Operation}
    (parts : Parts root types merged loc op) :
    ReadsAll root types (fun format entry => ∃ written, merged.get? "requestBody" = some written ∧
      EntryOfBody root written format entry) ((op.requestBody.map (·.contents)).getD []) := by
  rcases parts.requestBody with ⟨absent, hbody⟩ | ⟨written, body, given, hread, hbody⟩
  · rw [hbody]
    refine ⟨fun c hc => (List.not_mem_nil hc).elim, ?_⟩
    rintro format entry ⟨written, given, -⟩
    rw [absent] at given
    cases given
  · rw [hbody]
    refine (readBody_ok hread).congr fun format entry => ?_
    simp only [given, Option.some.injEq, exists_eq_left']

theorem build_built {url : String} {method : HttpMethod} {merged : Members} {loc : Location} {op : Operation}
    (h : build root types url method (.obj merged) loc = .ok op) : Built root types merged op := by
  obtain ⟨-, -, parts⟩ := build_ok h
  obtain ⟨parameters, hparameters, hop⟩ := parts.parameters
  obtain ⟨responses, hresponses, hop'⟩ := parts.responses
  constructor
  case parameters => exact ⟨parameters, readParameters_ok hparameters, hop ▸ List.mergeSort_perm ..⟩
  case contents =>
    have hall := (parts.requestBody_reads.append (readResponses_ok hresponses)).congr (q := EntryOf root merged)
      fun format entry => by
        constructor
        · rintro ⟨written, hof, hentry⟩
          cases hof with
          | request given => exact .inl ⟨written, given, hentry⟩
          | response given mem => exact .inr ⟨_, _, written, given, mem, hentry⟩
        · rintro (⟨written, given, hentry⟩ | ⟨ms, code, written, given, mem, hentry⟩)
          · exact ⟨written, .request given, hentry⟩
          · exact ⟨written, .response given mem, hentry⟩
    -- sorting the responses reorders their contents
    have hmem : ∀ c, c ∈ op.contentsOf ↔
        c ∈ (op.requestBody.map (·.contents)).getD [] ++ responses.flatMap (·.contents) := by
      intro c
      unfold contentsOf
      rw [hop', List.mem_append, List.mem_append, List.mem_flatMap, List.mem_flatMap]
      simp only [List.mem_mergeSort]
    constructor
    · exact fun c hc => hall.source c ((hmem c).1 hc)
    · intro format entry hentry
      obtain ⟨c, hc, htype⟩ := hall.covered hentry
      exact ⟨c, (hmem c).2 hc, htype⟩

end

end ApiScaffold.Operation
