/-
Operations in canonical form (`build_canonical`). If neither list of parameters names one twice, merging leaves no two
with the same name and place, and building reads each under the name and place by which merging knew it. So what the
parameters and the responses are sorted by tells them apart, and the order in which they are written does not matter.
-/
import ApiScaffold.Proofs.Operation.Merge
import ApiScaffold.Proofs.Schema.Token
import ApiScaffold.Proofs.Sorting

namespace ApiScaffold

/-! ## Orders -/

namespace ParameterLocation

theorem eq_of_rank_eq {a b : ParameterLocation} (h : a.rank = b.rank) : a = b := by
  cases a <;> cases b <;> first | rfl | cases h

end ParameterLocation

/-- The name and the place of a parameter. -/
def Parameter.known (p : Parameter) : String × String := (p.name, p.location.key)

/-- Required parameters come first, then it goes by name, and of one name by place. -/
def Parameter.Before (a b : Parameter) : Prop :=
  (a.required = true ∧ b.required = false) ∨
    a.required = b.required ∧ (a.name < b.name ∨ a.name = b.name ∧ a.location.rank < b.location.rank)

namespace Operation

theorem parameterLe_iff {a b : Parameter} : parameterLe a b = true ↔ (a.required = true ∧ b.required = false) ∨
    a.required = b.required ∧ (a.name < b.name ∨ a.name = b.name ∧ a.location.rank ≤ b.location.rank) := by
  unfold parameterLe
  by_cases hname : a.name = b.name <;> cases a.required <;> cases b.required <;> simp [hname]

theorem parameterSorts : Sorts parameterLe Parameter.Before Parameter.known where
  trans := fun a b c hab hbc => by
    rw [parameterLe_iff] at hab hbc ⊢
    rcases hab with ⟨ha, hb⟩ | ⟨hab, hlex⟩
    · rcases hbc with ⟨hb', -⟩ | ⟨hbc, -⟩
      · rw [hb] at hb'
        cases hb'
      · exact .inl ⟨ha, hbc ▸ hb⟩
    · rcases hbc with ⟨hb, hc⟩ | ⟨hbc, hlex'⟩
      · exact .inl ⟨hab ▸ hb, hc⟩
      · exact .inr ⟨hab.trans hbc, lex_trans hlex hlex'⟩
  total := fun a b => by
    rw [Bool.or_eq_true, parameterLe_iff, parameterLe_iff]
    rcases ha : a.required <;> rcases hb : b.required
    · exact (lex_total ..).imp (fun h => .inr ⟨rfl, h⟩) fun h => .inr ⟨rfl, h⟩
    · exact .inr (.inl ⟨rfl, rfl⟩)
    · exact .inl (.inl ⟨rfl, rfl⟩)
    · exact (lex_total ..).imp (fun h => .inr ⟨rfl, h⟩) fun h => .inr ⟨rfl, h⟩
  strict := fun {a b} h => by
    rcases parameterLe_iff.1 h with hrequired | ⟨hrequired, hlt | ⟨hname, hle⟩⟩
    · exact .inl (.inl hrequired)
    · exact .inl (.inr ⟨hrequired, .inl hlt⟩)
    · rcases Nat.lt_or_eq_of_le hle with hlt | heq
      · exact .inl (.inr ⟨hrequired, .inr ⟨hname, hlt⟩⟩)
      · exact .inr (Prod.ext hname (congrArg ParameterLocation.key (ParameterLocation.eq_of_rank_eq heq)))
  asymm := fun {a b} hab hba => by
    rcases hab with ⟨ha, hb⟩ | ⟨hab, hlex⟩
    · rcases hba with ⟨hb', -⟩ | ⟨hba, -⟩
      · rw [hb] at hb'
        cases hb'
      · rw [ha, hb] at hba
        cases hba
    · rcases hba with ⟨hb, ha⟩ | ⟨-, hlex'⟩
      · rw [ha, hb] at hab
        cases hab
      · exact lex_asymm hlex hlex'

theorem responseSorts : Sorts responseLe (fun a b => a.code < b.code) Response.code where
  trans := fun a b c hab hbc => by
    simp only [responseLe, decide_eq_true_eq] at hab hbc ⊢
    exact String.le_trans hab hbc
  total := fun a b => by
    simp only [responseLe, Bool.or_eq_true, decide_eq_true_eq]
    exact String.le_total a.code b.code
  strict := fun {a b} h => by
    simp only [responseLe, decide_eq_true_eq] at h
    by_cases heq : a.code = b.code
    · exact .inr heq
    · exact .inl (String.lt_of_not_lt_of_ne (String.not_lt.2 h) (Ne.symm heq))
  asymm := fun hlt hgt => String.lt_irrefl _ (String.lt_trans hlt hgt)

/-! ## Parameters -/

section

variable {root : Json} {types : TypeTable} {entry written : Json} {loc : Location} {p : Parameter}

theorem ReadsAs.relocate (h : ReadsAs root types entry loc p) (loc' : Location) : ReadsAs root types entry loc' p :=
  { h with type := Schema.schemaToken_relocate h.type loc' }

/-- A parameter is read under the name and the place by which merging knows it. -/
theorem ReadsParameter.knownAs (h : ReadsParameter root types written p) : KnownAs root written p.known := by
  obtain ⟨entry, loc, leads, hread⟩ := h
  obtain ⟨name, place, -⟩ := readParameter_iff.1 hread
  refine ⟨entry, leads, ?_⟩
  rw [name, place]
  rfl

theorem readParameters_iff : ∀ {list : List Json} {index : Nat} {parameters : List Parameter},
    readParameters root types loc index list = .ok parameters ↔
      List.Forall₂ (ReadsParameter root types) list parameters
  | [], index, parameters => by
    rw [List.forall₂_nil_left_iff, readParameters, Except.ok.injEq, eq_comm]
  | written :: rest, index, parameters => by
    refine ⟨readParameters_ok, fun h => ?_⟩
    cases h with
    | cons hread hrest =>
      obtain ⟨entry, loc', leads, hread⟩ := hread
      have hread := readParameter_iff.2 ((readParameter_iff.1 hread).relocate (loc ++ ".parameters." ++ toString index))
      unfold readParameters
      simp only [Reference.deref_ok.2 leads, readParameters_iff.2 hrest, bind, Except.bind, hread]
      rfl

/-- No two parameters of a list are known by the same name and place. -/
def KnownApart (root : Json) (owner : Members) : Prop := ((parametersOf owner).map (knownBy? root)).Nodup

instance (root : Json) (owner : Members) : Decidable (KnownApart root owner) :=
  inferInstanceAs (Decidable (List.Nodup _))

theorem map_knownBy? {list : List Json} {parameters : List Parameter}
    (h : List.Forall₂ (ReadsParameter root types) list parameters) :
    list.map (knownBy? root) = parameters.map fun p => some p.known := by
  induction h with
  | nil => rfl
  | cons hread _ ih => rw [List.map_cons, List.map_cons, ih, knownBy?_eq_some.2 hread.knownAs]

/-- Joining lists that name no parameter twice gives one that names none twice. -/
theorem nodup_joined {own inherited : List Json} (hown : (own.map (knownBy? root)).Nodup)
    (hinherited : (inherited.map (knownBy? root)).Nodup) : ((joined root own inherited).map (knownBy? root)).Nodup := by
  unfold joined
  rw [List.map_append]
  refine List.nodup_append.2 ⟨hown, hinherited.sublist (List.filter_sublist.map _), ?_⟩
  rintro key hkey _ hkey' rfl
  obtain ⟨o, ho, rfl⟩ := List.mem_map.1 hkey
  obtain ⟨written, hwritten, hsame⟩ := List.mem_map.1 hkey'
  have hfree := (List.mem_filter.1 hwritten).2
  simp only [Bool.not_eq_true', List.any_eq_false, beq_iff_eq] at hfree
  exact hfree o ho hsame.symm

theorem parametersOf_merge_eq {item operation merged : Members} (h : merge root item operation loc = .ok merged) :
    parametersOf merged = joined root (parametersOf operation) (parametersOf item) := by
  obtain ⟨own, inherited, hown, hinherited, hlist⟩ := parametersOf_merge h
  exact hlist.trans
    (mergeParameters_eq (declaredParameters_iff.1 hown).each (declaredParameters_iff.1 hinherited).each)

/-- The parameters that are read from a merged mapping differ in name or place. -/
theorem nodup_known {item operation merged : Members} (own : KnownApart root operation)
    (inherited : KnownApart root item) (hmerge : merge root item operation loc = .ok merged)
    {parameters : List Parameter} (h : List.Forall₂ (ReadsParameter root types) (parametersOf merged) parameters) :
    (parameters.map Parameter.known).Nodup := by
  have hnodup := nodup_joined own inherited
  rw [← parametersOf_merge_eq hmerge, map_knownBy? h] at hnodup
  refine List.Nodup.of_map some ?_
  rwa [List.map_map]

/-- Parameters can be read in any order. -/
theorem readParameters_perm {list list' : List Json} {parameters : List Parameter}
    (h : List.Forall₂ (ReadsParameter root types) list parameters) (perm : list.Perm list') :
    ∃ parameters', List.Forall₂ (ReadsParameter root types) list' parameters' ∧ parameters.Perm parameters' := by
  obtain ⟨parameters', h', hperm⟩ := List.perm_comp_forall₂ perm.symm h
  exact ⟨parameters', h', hperm.symm⟩

end

/-! ## Dependencies -/

section

open Schema

variable {root written : Json} {loc : Location}

/-- Whether the targets of contents are found does not depend on what was found before. -/
theorem contentTargets_result : ∀ (contents : Members) (found found' : NameSet),
    (contentTargets root loc contents found).2 = (contentTargets root loc contents found').2
  | [], _, _ => rfl
  | (format, entry) :: rest, found, found' => by
    unfold contentTargets
    rcases contentNode entry with _ | ⟨node, key⟩
    · exact contentTargets_result rest found found'
    · rcases h : chainTarget root node (loc ++ ".content." ++ format ++ "." ++ key) with err | target
      · simp only [h]
      · simp only [h]
        exact contentTargets_result rest _ _

theorem bodyDependencies_from {found found' : NameSet} (h : bodyDependencies root written loc found = .ok found')
    (start : NameSet) : ∃ names, bodyDependencies root written loc start = .ok names := by
  obtain ⟨body, hbody, h⟩ := except_bind_ok h
  have hresult : (contentDependencies root (body.get? "content") loc start).2 =
      (contentDependencies root (body.get? "content") loc found).2 := contentTargets_result ..
  rcases hfound : contentDependencies root (body.get? "content") loc found with ⟨names, err | ⟨⟩⟩ <;>
    rw [hfound] at h hresult
  · cases h
  · rcases hstart : contentDependencies root (body.get? "content") loc start with ⟨names', result⟩
    rw [hstart] at hresult
    cases hresult
    refine ⟨names', ?_⟩
    unfold bodyDependencies
    simp only [hbody, bind, Except.bind, hstart]
    rfl

/-- The dependencies of bodies do not depend on their order. -/
theorem foldl_bodyDependencies_perm {place : String → Location} {bodies bodies' : Members} (perm : bodies.Perm bodies')
    {found names : NameSet}
    (h : bodies.foldlM (fun found body => bodyDependencies root body.2 (place body.1) found) found = .ok names) :
    bodies'.foldlM (fun found body => bodyDependencies root body.2 (place body.1) found) found = .ok names := by
  induction perm generalizing found with
  | nil => exact h
  | cons body _ ih =>
    rw [List.foldlM_cons] at h ⊢
    obtain ⟨middle, hmiddle, h⟩ := except_bind_ok h
    rw [hmiddle]
    exact ih h
  | swap first second rest =>
    rw [List.foldlM_cons] at h ⊢
    obtain ⟨middle, hsecond, h⟩ := except_bind_ok h
    rw [List.foldlM_cons] at h
    obtain ⟨both, hfirst, h⟩ := except_bind_ok h
    obtain ⟨middle', hfirst'⟩ := bodyDependencies_from hfirst found
    obtain ⟨both', hsecond'⟩ := bodyDependencies_from hsecond middle'
    -- either way the targets of both are added
    have hsame : both' = both := by
      refine NameSet.ext_mem fun x => ?_
      rw [(bodyDependencies_adds hsecond').mem, (bodyDependencies_adds hfirst').mem,
        (bodyDependencies_adds hfirst).mem, (bodyDependencies_adds hsecond).mem]
      exact or_right_comm
    simp only [List.foldlM_cons, hfirst', hsecond', hsame, bind, Except.bind]
    exact h
  | trans _ _ ih ih' => exact ih' (ih h)

end

/-! ## Rearranged mappings -/

/-- Values of a key that are the same, but for the order of parameters or of responses. -/
inductive Shuffled (key : String) : Json → Json → Prop
  | same (v : Json) : Shuffled key v v
  | parameters {list list' : List Json} (at_key : key = "parameters") (perm : list.Perm list') :
      Shuffled key (.arr list) (.arr list')
  | responses {bodies bodies' : Members} (at_key : key = "responses") (perm : bodies.Perm bodies') :
      Shuffled key (.obj bodies) (.obj bodies')

/-- Mappings of operations that are the same, but for the order of the parameters and of the responses. -/
def Rearranged (merged merged' : Members) : Prop :=
  List.Forall₂ (fun m m' => m.1 = m'.1 ∧ Shuffled m.1 m.2 m'.2) merged merged'

section

variable {root : Json} {types : TypeTable} {loc : Location} {merged merged' : Members}

theorem Rearranged.get? (h : Rearranged merged merged') (key : String) :
    (Members.get? merged key = none ∧ Members.get? merged' key = none) ∨ ∃ v v',
      Members.get? merged key = some v ∧ Members.get? merged' key = some v' ∧ Shuffled key v v' := by
  induction h with
  | nil => exact .inl ⟨rfl, rfl⟩
  | @cons m m' ms ms' hm _ ih =>
    obtain ⟨k, v⟩ := m
    obtain ⟨_, v'⟩ := m'
    obtain ⟨rfl, hv⟩ := hm
    unfold Members.get? at ih ⊢
    rw [List.lookup_cons, List.lookup_cons]
    by_cases hkey : key = k
    · subst hkey
      rw [beq_self_eq_true]
      exact .inr ⟨v, v', rfl, rfl, hv⟩
    · have hbeq : (key == k) = false := by simpa using hkey
      rw [hbeq]
      exact ih

theorem Rearranged.get?_other (h : Rearranged merged merged') {key : String} (other : key ≠ "parameters")
    (other' : key ≠ "responses") : (Json.obj merged').get? key = (Json.obj merged).get? key := by
  show Members.get? merged' key = Members.get? merged key
  rcases h.get? key with ⟨hget, hget'⟩ | ⟨v, v', hget, hget', hv⟩
  · rw [hget, hget']
  · rw [hget, hget']
    cases hv with
    | same => rfl
    | parameters at_key => exact absurd at_key other
    | responses at_key => exact absurd at_key other'

theorem Rearranged.parametersOf (h : Rearranged merged merged') :
    (parametersOf merged).Perm (parametersOf merged') := by
  rw [parametersOf_eq, parametersOf_eq]
  rcases h.get? "parameters" with ⟨hget, hget'⟩ | ⟨v, v', hget, hget', hv⟩
  · rw [hget, hget']
  · rw [hget, hget']
    cases hv with
    | same => exact .refl _
    | parameters _ perm => exact perm
    | responses at_key => exact absurd at_key (by decide)

theorem Rearranged.responsesOf (h : Rearranged merged merged') :
    (((Json.obj merged).getObj? "responses").getD []).Perm (((Json.obj merged').getObj? "responses").getD []) := by
  have hget : ∀ ms : Members, (Json.obj ms).getObj? "responses" = (Members.get? ms "responses").bind Json.obj? :=
    fun _ => rfl
  rw [hget, hget]
  rcases h.get? "responses" with ⟨hget, hget'⟩ | ⟨v, v', hget, hget', hv⟩
  · rw [hget, hget']
  · rw [hget, hget']
    cases hv with
    | same => exact .refl _
    | parameters at_key => exact absurd at_key (by decide)
    | responses _ perm => exact perm

theorem Rearranged.readResponses (h : Rearranged merged merged') {responses : List Response}
    (hread : readResponses root types (.obj merged) loc = .ok responses) :
    ∃ responses', readResponses root types (.obj merged') loc = .ok responses' ∧ responses.Perm responses' := by
  unfold Operation.readResponses at hread ⊢
  have hget : ∀ ms : Members, (Json.obj ms).get? "responses" = Members.get? ms "responses" := fun _ => rfl
  rw [hget] at hread ⊢
  rcases h.get? "responses" with ⟨hnone, hnone'⟩ | ⟨v, v', hsome, hsome', hv⟩
  · rw [hnone] at hread
    rw [hnone']
    exact ⟨responses, hread, .refl _⟩
  · rw [hsome] at hread
    rw [hsome']
    cases hv with
    | same => exact ⟨responses, hread, .refl _⟩
    | parameters at_key => exact absurd at_key (by decide)
    | responses _ perm => exact except_mapM_perm hread perm

theorem Rearranged.extensions (h : Rearranged merged merged') :
    nodeExtensions (.obj merged') = nodeExtensions (.obj merged) := by
  show extensionsOf merged' = extensionsOf merged
  unfold extensionsOf
  induction h with
  | nil => rfl
  | @cons m m' ms ms' hm _ ih =>
    obtain ⟨k, v⟩ := m
    obtain ⟨_, v'⟩ := m'
    obtain ⟨rfl, hv⟩ := hm
    rw [List.filter_cons, List.filter_cons, ih]
    -- a member that was rearranged is no extension
    cases hv with
    | same => rfl
    | parameters at_key =>
      have plain : ¬ isExtension k = true := by
        rw [show k = "parameters" from at_key]
        decide +kernel
      rw [if_neg plain, if_neg plain]
    | responses at_key =>
      have plain : ¬ isExtension k = true := by
        rw [show k = "responses" from at_key]
        decide +kernel
      rw [if_neg plain, if_neg plain]

theorem Rearranged.operationDependencies (h : Rearranged merged merged') {names : NameSet}
    (hdeps : Schema.operationDependencies root (.obj merged) loc = .ok names) :
    Schema.operationDependencies root (.obj merged') loc = .ok names := by
  unfold Schema.operationDependencies at hdeps ⊢
  simp only at hdeps ⊢
  rw [h.get?_other (by decide) (by decide)]
  split at hdeps
  all_goals
    obtain ⟨found, hfound, hdeps⟩ := except_bind_ok hdeps
    rw [hfound]
    exact foldl_bodyDependencies_perm h.responsesOf hdeps

end

/-! ## Building -/

section

variable {root : Json} {types : TypeTable} {url : String} {method : HttpMethod} {loc : Location} {op : Operation}

theorem assemble_congr {merged merged' : Members} (h : Rearranged merged merged') {ps ps' : List Parameter}
    {rs rs' : List Response} (hparameters : ps.Perm ps') (apart : (ps.map Parameter.known).Nodup)
    (hresponses : rs.Perm rs') (distinct : (rs.map Response.code).Nodup) (body : Option RequestBody) (deps : NameSet) :
    assemble url method (.obj merged') ps' body rs' deps = assemble url method (.obj merged) ps body rs deps := by
  unfold assemble tagOf nameOf flag Json.getStr? Json.getArr?
  rw [← parameterSorts.congr hparameters apart, ← responseSorts.congr hresponses distinct, h.extensions]
  simp (disch := decide) only [h.get?_other]

theorem map_code {bodies : Members} {responses : List Response}
    (h : bodies.mapM (fun (code, written) => readResponse root types loc code written) = .ok responses) :
    responses.map Response.code = bodies.map (·.1) := by
  have hread := except_mapM_ok h
  clear h
  induction hread with
  | nil => rfl
  | cons hr _ ih =>
    obtain ⟨response, -, hr⟩ := except_bind_ok hr
    obtain ⟨contents, -, hr⟩ := except_bind_ok hr
    cases hr
    rw [List.map_cons, List.map_cons, ih]

/-- The responses of a mapping with distinct codes have distinct codes. -/
theorem nodup_code {merged : Members} {responses : List Response}
    (unique : ∀ bodies, Members.get? merged "responses" = some (.obj bodies) → Members.UniqueNames bodies)
    (h : readResponses root types (.obj merged) loc = .ok responses) : (responses.map Response.code).Nodup := by
  unfold readResponses at h
  split at h
  · cases h
    exact List.nodup_nil
  · rename_i bodies given
    rw [map_code h]
    exact unique bodies given
  · cases h

/-- An operation whose parameters and responses stand in strict order, with the places and the formats that occur. -/
structure Canonical (op : Operation) : Prop where
  apart : op.parameters.Pairwise fun p q => ¬ (p.name = q.name ∧ p.location = q.location)
  parameters : op.parameters.Pairwise Parameter.Before
  responses : op.responses.Pairwise fun r s => r.code < s.code
  once : op.parameterLocations.Nodup
  locations : ∀ l, l ∈ op.parameterLocations ↔ ∃ p ∈ op.parameters, p.location = l
  formats : ∀ format, format ∈ op.responseFormats ↔ ∃ r ∈ op.responses, ∃ c ∈ r.contents, c.format = format

theorem mem_parameterLocations {l : ParameterLocation} :
    l ∈ op.parameterLocations ↔ ∃ p ∈ op.parameters, p.location = l := by
  have hall : l ∈ ParameterLocation.all := by cases l <;> decide
  unfold parameterLocations
  rw [List.mem_filter, List.any_eq_true]
  simp only [hall, true_and, beq_iff_eq]

theorem mem_responseFormats {format : String} :
    format ∈ op.responseFormats ↔ ∃ r ∈ op.responses, ∃ c ∈ r.contents, c.format = format := by
  unfold responseFormats formats
  simp only [NameSet.mem_ofList, List.mem_flatMap, List.mem_map]

theorem canonical_assemble {merged : Json} {ps : List Parameter} {rs : List Response}
    (apart : (ps.map Parameter.known).Nodup) (distinct : (rs.map Response.code).Nodup)
    (body : Option RequestBody) (deps : NameSet) : Canonical (assemble url method merged ps body rs deps) where
  apart := by
    have hnodup := (((List.mergeSort_perm ps parameterLe).map Parameter.known).nodup_iff).2 apart
    refine (List.pairwise_map.1 hnodup).imp fun hne hsame => hne (Prod.ext hsame.1 ?_)
    exact congrArg ParameterLocation.key hsame.2
  parameters := parameterSorts.pairwise apart
  responses := responseSorts.pairwise distinct
  once := List.Nodup.filter _ (by decide)
  locations := fun _ => mem_parameterLocations
  formats := fun _ => mem_responseFormats

/-- If neither list of parameters names one twice, the operation that is built is in canonical form, and the same
operation is built from every mapping that has its parameters and its responses in another order. -/
theorem build_canonical {item operation merged : Members} {mergedAt : Location} (proper : (Json.obj operation).Proper)
    (own : KnownApart root operation) (inherited : KnownApart root item)
    (hmerge : merge root item operation mergedAt = .ok merged)
    (h : build root types url method (.obj merged) loc = .ok op) :
    Canonical op ∧ ∀ merged', Rearranged merged merged' → build root types url method (.obj merged') loc = .ok op := by
  obtain ⟨ps, body, rs, deps, hparameters, hbody, hresponses, hdeps, rfl⟩ := build_iff.1 h
  have hreads := readParameters_iff.1 hparameters
  have apart := nodup_known own inherited hmerge hreads
  have distinct : (rs.map Response.code).Nodup := by
    refine nodup_code (fun bodies given => ?_) hresponses
    rw [get?_merge hmerge (by decide +kernel) (by decide) (by decide), Members.distinct_eq_self proper.unique] at given
    exact (proper.get? given).unique
  refine ⟨canonical_assemble apart distinct body deps, fun merged' rearranged => build_iff.2 ?_⟩
  obtain ⟨ps', hreads', hps⟩ := readParameters_perm hreads rearranged.parametersOf
  obtain ⟨rs', hresponses', hrs⟩ := rearranged.readResponses hresponses
  refine ⟨ps', body, rs', deps, readParameters_iff.2 hreads', ?_, hresponses', rearranged.operationDependencies hdeps,
    assemble_congr rearranged hps apart hrs distinct body deps⟩
  unfold readRequestBody
  rw [rearranged.get?_other (by decide) (by decide)]
  exact hbody

end

/-- A member with its parameters or responses in reverse. -/
def reversedMember : String × Json → String × Json
  | ("parameters", .arr list) => ("parameters", .arr list.reverse)
  | ("responses", .obj bodies) => ("responses", .obj bodies.reverse)
  | m => m

theorem rearranged_reversed (merged : Members) : Rearranged merged (merged.map reversedMember) := by
  unfold Rearranged
  rw [List.forall₂_map_right_iff, List.forall₂_same]
  intro m _
  unfold reversedMember
  split
  · exact ⟨rfl, .parameters rfl (List.reverse_perm _).symm⟩
  · exact ⟨rfl, .responses rfl (List.reverse_perm _).symm⟩
  · exact ⟨rfl, .same _⟩

theorem build_canonical_pets : ∃ merged op, merge petsRoot petsItem petsOperation "" = .ok merged ∧
    build petsRoot ⟨[]⟩ "/pets" .get (.obj merged) "" = .ok op ∧
    build petsRoot ⟨[]⟩ "/pets" .get (.obj (merged.map reversedMember)) "" = .ok op ∧ Canonical op ∧
    (op.parameters.map Parameter.known).Perm [("auth", "header"), ("id", "path"), ("id", "query")] := by
  have proper : (Json.obj petsOperation).Proper := Json.proper_canonical (.obj petsOperation)
  obtain ⟨op, hbuilt⟩ := except_isOk (x := (merge petsRoot petsItem petsOperation "").bind fun merged =>
    build petsRoot ⟨[]⟩ "/pets" .get (.obj merged) "") (by decide +kernel)
  obtain ⟨merged, hmerged, hop⟩ := except_bind_ok hbuilt
  obtain ⟨canonical, again⟩ := build_canonical proper (by decide +kernel) (by decide +kernel) hmerged hop
  refine ⟨merged, op, hmerged, hop, again _ (rearranged_reversed merged), canonical, ?_⟩
  obtain ⟨read, hread, hparameters⟩ := (build_ok hop).2.2.parameters
  have hknown : ((merge petsRoot petsItem petsOperation "").toOption.bind fun merged =>
      (readParameters petsRoot ⟨[]⟩ "" 0 (parametersOf merged)).toOption.map (·.map Parameter.known)) =
      some [("auth", "header"), ("id", "path"), ("id", "query")] := by decide +kernel
  rw [hmerged] at hknown
  obtain ⟨read', hread', hknown⟩ := except_toOption_map hknown
  cases hread.symm.trans hread'
  rw [hparameters, ← hknown]
  exact (List.mergeSort_perm ..).map _

end Operation

end ApiScaffold
