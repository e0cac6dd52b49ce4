/-
The parameters of an operation. They are those of its own list, and those of its path item that none of its own
shadows, a parameter being known by its name and place (`mem_parameters`). Each is read one hop from where it is
written at most (`readParameters_ok`).
-/
import ApiScaffold.Proofs.Operation.Dependency

namespace ApiScaffold

theorem ParameterLocation.ofKey?_iff {key : String} {l : ParameterLocation} : ofKey? key = some l ↔ l.key = key := by
  constructor
  · intro h
    simpa using List.find?_some h
  · rintro rfl
    cases l <;> decide

namespace Operation

open Reference (Leads)

/-- A parameter in the list of a path item or operation, as written. -/
def ListsParameter (owner : Members) (written : Json) : Prop :=
  ∃ list, Members.get? owner "parameters" = some (.arr list) ∧ written ∈ list

/-- The name and the place that a parameter is known by. -/
def KnownAs (root written : Json) (key : String × String) : Prop :=
  ∃ target, Leads root written target ∧ key = ((target.getStr? "name").getD "", (target.getStr? "in").getD "")

/-- The parameters of an operation: its own, and those of its path item that are known by another name or place than
each of its own. -/
inductive ParameterOf (root : Json) (item operation : Members) (written : Json) : Prop
  | own (listed : ListsParameter operation written) : ParameterOf root item operation written
  | inherited (listed : ListsParameter item written)
      (unshadowed : ∀ {other key}, ListsParameter operation other → KnownAs root other key →
        ¬ KnownAs root written key) : ParameterOf root item operation written

section

variable {root : Json}

theorem KnownAs.unique {written : Json} {key key' : String × String} (h : KnownAs root written key)
    (h' : KnownAs root written key') : key = key' := by
  obtain ⟨target, leads, rfl⟩ := h
  obtain ⟨target', leads', rfl⟩ := h'
  obtain rfl := leads.unique leads'
  rfl

/-! ## Merging -/

/-- The key under which a list of parameters knows one of them. -/
def ParameterEntry.key (e : ParameterEntry) : String × String := (e.name, e.place)

/-- An entry for a parameter as written. -/
def EntryFor (root written : Json) (e : ParameterEntry) : Prop := e.written = written ∧ KnownAs root written e.key

theorem parameterEntries_iff {loc : Location} : ∀ {list : List Json} {index : Nat} {entries : List ParameterEntry},
    parameterEntries root loc index list = .ok entries ↔ List.Forall₂ (EntryFor root) list entries
  | [], index, entries => by
    rw [List.forall₂_nil_left_iff, parameterEntries, Except.ok.injEq, eq_comm]
  | written :: rest, index, entries => by
    constructor
    · intro h
      obtain ⟨target, htarget, h⟩ := except_bind_ok h
      obtain ⟨entries', hentries, h⟩ := except_bind_ok h
      cases h
      exact .cons ⟨rfl, target, Reference.deref_ok.1 htarget, rfl⟩ (parameterEntries_iff.1 hentries)
    · intro h
      cases h with
      | @cons _ e _ entries' he hrest =>
        obtain ⟨name, place, written'⟩ := e
        obtain ⟨rfl, target, leads, hkey⟩ := he
        cases hkey
        rw [parameterEntries, Reference.deref_ok.2 leads, parameterEntries_iff.2 hrest]
        rfl

theorem map_written {list : List Json} {entries : List ParameterEntry}
    (h : List.Forall₂ (EntryFor root) list entries) : entries.map (·.written) = list := by
  induction h with
  | nil => rfl
  | cons he _ ih => rw [List.map_cons, he.1, ih]

/-- The parameters that a path item or operation declares, if it has any. -/
inductive Declares (root : Json) (owner : Members) : Option (List ParameterEntry) → Prop
  | absent (absent : Members.get? owner "parameters" = none) : Declares root owner none
  | listed {list : List Json} {entries : List ParameterEntry}
      (given : Members.get? owner "parameters" = some (.arr list))
      (each : List.Forall₂ (EntryFor root) list entries) : Declares root owner (some entries)

theorem declaredParameters_iff {loc : Location} {owner : Members} {entries : Option (List ParameterEntry)} :
    declaredParameters root owner loc = .ok entries ↔ Declares root owner entries := by
  constructor
  · intro h
    unfold declaredParameters at h
    split at h
    · rename_i absent
      cases h
      exact .absent absent
    · rename_i list given
      obtain ⟨entries', hentries, rfl⟩ := except_map_ok h
      exact .listed given (parameterEntries_iff.1 hentries)
    · cases h
  · intro h
    unfold declaredParameters
    cases h with
    | absent absent => rw [absent]
    | listed given each =>
      rw [given]
      simp only [parameterEntries_iff.2 each]
      rfl

/-- The list of a path item or operation has an entry for each of its parameters. -/
theorem declaredParameters_ok {owner : Members} {loc : Location} {entries : Option (List ParameterEntry)}
    (h : declaredParameters root owner loc = .ok entries) :
    (∀ written, written ∈ (entries.getD []).map (·.written) ↔ ListsParameter owner written) ∧
      ∀ e ∈ entries.getD [], KnownAs root e.written e.key := by
  unfold ListsParameter
  cases declaredParameters_iff.1 h with
  | absent absent => simp [absent]
  | listed given each =>
    refine ⟨fun written => by simp [given, map_written each], fun e he => ?_⟩
    obtain ⟨written, -, rfl, known⟩ := forall₂_exists each.flip he
    exact known

theorem mem_mergeParameters {own inherited : List ParameterEntry} {written : Json} :
    written ∈ mergeParameters own inherited ↔ written ∈ own.map (·.written) ∨
      ∃ e ∈ inherited, (∀ o ∈ own, o.key ≠ e.key) ∧ e.written = written := by
  unfold mergeParameters ParameterEntry.key
  simp [List.mem_filter, and_assoc]

/-- An operation without a list of parameters has none, however often it writes the key. -/
theorem get?_distinct_parameters {operation : Members} {loc : Location}
    (h : declaredParameters root operation loc = .ok none) :
    Members.get? (Members.distinct operation) "parameters" = none := by
  have habsent : Members.get? operation "parameters" = none := by
    cases declaredParameters_iff.1 h with
    | absent absent => exact absent
  rcases hdistinct : Members.get? (Members.distinct operation) "parameters" with _ | v
  · rfl
  · have hmem := List.lookup_eq_none_iff.1 habsent _ (Members.mem_of_get?_distinct hdistinct)
    simp at hmem

/-- The parameters of an operation with the defaults of its path item. -/
def parametersOf (merged : Members) : List Json := ((Json.obj merged).getArr? "parameters").getD []

theorem parametersOf_merge {item operation merged : Members} {loc : Location}
    (h : merge root item operation loc = .ok merged) : ∃ own inherited,
      declaredParameters root operation loc = .ok own ∧ declaredParameters root item loc = .ok inherited ∧
        parametersOf merged = mergeParameters (own.getD []) (inherited.getD []) := by
  obtain ⟨inherited, hinherited, h⟩ := except_bind_ok h
  obtain ⟨own, hown, h⟩ := except_bind_ok h
  cases h
  refine ⟨own, inherited, hown, hinherited, ?_⟩
  have hget : ∀ ms : Members, parametersOf ms = ((Members.get? ms "parameters").bind Json.arr?).getD [] := fun _ => rfl
  rw [hget]
  split
  · rw [get?_mergeKeys (by decide +kernel) (by decide), get?_distinct_parameters hown]
    rfl
  · rw [Members.get?_insert, if_pos rfl]
    rfl

/-- Merging gives the parameters of the operation. -/
theorem mem_parameters {item operation merged : Members} {loc : Location}
    (h : merge root item operation loc = .ok merged) {written : Json} :
    written ∈ parametersOf merged ↔ ParameterOf root item operation written := by
  obtain ⟨own, inherited, hown, hinherited, hlist⟩ := parametersOf_merge h
  obtain ⟨hownWritten, hownKnown⟩ := declaredParameters_ok hown
  obtain ⟨hwritten, hknown⟩ := declaredParameters_ok hinherited
  rw [hlist, mem_mergeParameters, hownWritten]
  constructor
  · rintro (listed | ⟨e, he, hkeys, rfl⟩)
    · exact .own listed
    · refine .inherited ((hwritten _).1 (List.mem_map_of_mem he)) fun {other key} listed known known' => ?_
      obtain ⟨o, ho, rfl⟩ := List.mem_map.1 ((hownWritten other).2 listed)
      exact hkeys o ho (((hownKnown o ho).unique known).trans (known'.unique (hknown e he)))
  · intro hof
    cases hof with
    | own listed => exact .inl listed
    | inherited listed unshadowed =>
      obtain ⟨e, he, rfl⟩ := List.mem_map.1 ((hwritten written).2 listed)
      refine .inr ⟨e, he, fun o ho hkey => ?_, rfl⟩
      exact unshadowed ((hownWritten _).1 (List.mem_map_of_mem ho)) (hownKnown o ho) (hkey ▸ hknown e he)

/-! ## Reading -/

variable {types : TypeTable}

/-- A parameter that was read from what is written. -/
def ReadsParameter (root : Json) (types : TypeTable) (written : Json) (p : Parameter) : Prop :=
  ∃ entry loc, Leads root written entry ∧ readParameter root types entry loc = .ok p

theorem readParameters_ok {loc : Location} :
    ∀ {list : List Json} {index : Nat} {parameters : List Parameter},
      readParameters root types loc index list = .ok parameters →
        List.Forall₂ (ReadsParameter root types) list parameters
  | [], _, _, h => by
    cases h
    exact .nil
  | written :: rest, index, parameters, h => by
    obtain ⟨entry, hentry, h⟩ := except_bind_ok h
    obtain ⟨p, hp, h⟩ := except_bind_ok h
    obtain ⟨parameters', hrest, h⟩ := except_bind_ok h
    cases h
    exact .cons ⟨entry, _, Reference.deref_ok.1 hentry, hp⟩ (readParameters_ok hrest)

/-- A parameter that is read from an entry, field by field. -/
structure ReadsAs (root : Json) (types : TypeTable) (entry : Json) (loc : Location) (p : Parameter) : Prop where
  name : entry.getStr? "name" = some p.name
  place : entry.getStr? "in" = some p.location.key
  type : Schema.schemaToken root types entry loc = .ok p.type
  others : p = { p with
    required := flag entry "required"
    deprecated := flag entry "deprecated"
    description := entry.getStr? "description"
    style := entry.getStr? "style"
    explode := flag entry "explode"
    allowEmptyValue := flag entry "allowEmptyValue"
    allowReserved := flag entry "allowReserved"
    example? := entry.get? "example"
    extensions := nodeExtensions entry }

theorem readParameter_iff {entry : Json} {loc : Location} {p : Parameter} :
    readParameter root types entry loc = .ok p ↔ ReadsAs root types entry loc p := by
  unfold readParameter
  constructor
  · intro h
    rcases hname : entry.getStr? "name" with _ | name <;> simp only [hname, bind, Except.bind] at h
    · cases h
    rcases hplace : entry.getStr? "in" with _ | place <;> simp only [hplace] at h
    · cases h
    rcases hlocation : ParameterLocation.ofKey? place with _ | location <;> simp only [hlocation] at h
    · cases h
    obtain ⟨type, htype, h⟩ := except_bind_ok h
    cases h
    exact ⟨hname, ParameterLocation.ofKey?_iff.1 hlocation ▸ hplace, htype, rfl⟩
  · rintro ⟨name, place, type, others⟩
    rw [others]
    simp only [name, place, bind, Except.bind, ParameterLocation.ofKey?_iff.2 rfl, type]
    rfl

/-- The type of a parameter is that of its schema. -/
theorem readParameter_type {entry : Json} {loc : Location} {p : Parameter}
    (h : readParameter root types entry loc = .ok p) : Schema.schemaToken root types entry loc = .ok p.type :=
  (readParameter_iff.1 h).type

end

end Operation

end ApiScaffold
