/-
Merging an operation with its path item (`merge_spec`). The operation's own keys come first, the path item lends its
extensions and fallback keys, and parameters are joined unless the operation knows one of that name and place. What was
merged has the path item's extensions at its front (`GrownFrom`) and lacks nothing that the path item lends, so merging
it once more changes nothing.
-/
import ApiScaffold.Proofs.Json.Order
import ApiScaffold.Proofs.Operation.Parameters
import ApiScaffold.Proofs.SortedMap

namespace ApiScaffold.Operation

open Reference (Leads)

/-! ## Keys -/

/-- Members with distinct names, of which the first have the names of those that they were grown from. -/
structure GrownFrom (start ms : Members) : Prop where
  unique : Members.UniqueNames ms
  front : start.map (·.1) <+: ms.map (·.1)

theorem GrownFrom.insert {start ms : Members} (h : GrownFrom start ms) (key : String) (v : Json) :
    GrownFrom start (Members.insert ms key v) where
  unique := Members.uniqueNames_insert h.unique key v
  front := h.front.trans (Members.names_insert ms key v ▸ List.prefix_append _ _)

/-- A fallback key of the path item, for an operation without it. -/
def fill (item acc : Members) (key : String) : Members :=
  if Members.has acc key then acc
  else match Members.get? item key with
    | some v => Members.insert acc key v
    | none => acc

theorem mergeKeys_eq (item operation : Members) : mergeKeys item operation =
    fallbackKeys.foldl (fill item) (Members.distinct (extensionsOf item ++ operation)) := rfl

section

variable {item operation acc : Members} {key : String}

theorem get?_fill (k : String) : Members.get? (fill item acc key) k =
    (Members.get? acc k).or (if k = key then Members.get? item k else none) := by
  unfold fill Members.has
  split
  · rename_i present
    obtain ⟨v, hv⟩ := Option.isSome_iff_exists.1 present
    by_cases hk : k = key
    · rw [hk, hv, Option.some_or]
    · rw [if_neg hk, Option.or_none]
  · rename_i absent
    have hnone : Members.get? acc key = none := by simpa using absent
    split
    · rename_i v given
      rw [Members.get?_insert]
      by_cases hk : k = key
      · rw [if_pos hk, if_pos hk, hk, hnone, given, Option.none_or]
      · rw [if_neg hk, if_neg hk, Option.or_none]
    · rename_i missing
      by_cases hk : k = key
      · rw [if_pos hk, hk, missing, Option.or_none]
      · rw [if_neg hk, Option.or_none]

theorem get?_foldl_fill (k : String) : ∀ (keys : List String) (acc : Members),
    Members.get? (keys.foldl (fill item) acc) k =
      (Members.get? acc k).or (if k ∈ keys then Members.get? item k else none)
  | [], acc => by simp
  | key :: keys, acc => by
    rw [List.foldl_cons, get?_foldl_fill k keys, get?_fill, Option.or_assoc]
    by_cases hk : k = key
    · subst hk
      cases Members.get? item k <;> simp
    · simp [hk]

theorem fill_eq_self (filled : Members.get? acc key = none → Members.get? item key = none) :
    fill item acc key = acc := by
  unfold fill Members.has
  split
  · rfl
  · rename_i absent
    rw [filled (by simpa using absent)]

theorem GrownFrom.fill {start : Members} (h : GrownFrom start acc) : GrownFrom start (fill item acc key) := by
  unfold Operation.fill
  split
  · exact h
  · split
    · exact h.insert _ _
    · exact h

theorem uniqueNames_extensionsOf (unique : Members.UniqueNames item) : Members.UniqueNames (extensionsOf item) :=
  unique.sublist (List.filter_sublist.map _)

theorem get?_extensionsOf (item : Members) (key : String) :
    Members.get? (extensionsOf item) key = if isExtension key then Members.get? item key else none :=
  SortedMap.lookup_filter_key isExtension key item

theorem distinct_extensionsOf_append (unique : Members.UniqueNames item) (operation : Members) :
    Members.distinct (extensionsOf item ++ operation) =
      operation.foldl (fun acc m => Members.insert acc m.1 m.2) (extensionsOf item) := by
  have hext := Members.distinct_eq_self (uniqueNames_extensionsOf unique)
  unfold Members.distinct at hext ⊢
  rw [List.foldl_append, hext]

/-- An operation's own keys count, and it is lent the extensions and fallback keys that it does not have. -/
theorem get?_mergeKeys_eq (itemUnique : Members.UniqueNames item) (unique : Members.UniqueNames operation)
    (key : String) : Members.get? (mergeKeys item operation) key =
      (Members.get? operation key).or
        (if isExtension key ∨ key ∈ fallbackKeys then Members.get? item key else none) := by
  rw [mergeKeys_eq, get?_foldl_fill, distinct_extensionsOf_append itemUnique, Members.get?_foldl_insert,
    Members.distinct_eq_self unique, get?_extensionsOf, Option.or_assoc]
  by_cases hext : isExtension key = true
  · by_cases hfallback : key ∈ fallbackKeys <;> simp [hext, hfallback]
  · simp [hext]

theorem grownFrom_mergeKeys (unique : Members.UniqueNames item) (operation : Members) :
    GrownFrom (extensionsOf item) (mergeKeys item operation) := by
  rw [mergeKeys_eq, distinct_extensionsOf_append unique]
  refine List.foldlRecOn fallbackKeys (fill item) ?_ fun acc h key _ => h.fill
  refine List.foldlRecOn operation _ ?_ fun acc h m _ => h.insert m.1 m.2
  exact ⟨uniqueNames_extensionsOf unique, List.prefix_refl _⟩

/-- Members that the path item can lend nothing keep all their keys in their order. -/
theorem mergeKeys_eq_self {merged : Members} (unique : Members.UniqueNames item)
    (grown : GrownFrom (extensionsOf item) merged)
    (filled : ∀ key ∈ fallbackKeys, Members.get? merged key = none → Members.get? item key = none) :
    mergeKeys item merged = merged := by
  rw [mergeKeys_eq, distinct_extensionsOf_append unique, Members.foldl_insert_eq_self grown.unique grown.front]
  refine List.foldlRecOn (motive := (· = merged)) fallbackKeys (fill item) rfl fun acc h key hkey => ?_
  rw [h]
  exact fill_eq_self (filled key hkey)

end

/-! ## Parameters -/

/-- The name and the place that a parameter is known by, if it can be read. -/
def knownBy? (root written : Json) : Option (String × String) :=
  (Reference.deref root written "").toOption.map fun target =>
    ((target.getStr? "name").getD "", (target.getStr? "in").getD "")

/-- An operation's parameters, then those of its path item that are known by another name or place than each of
them. -/
def joined (root : Json) (own inherited : List Json) : List Json :=
  own ++ inherited.filter fun written => !own.any fun o => knownBy? root o == knownBy? root written

section

variable {root : Json} {loc : Location}

theorem knownBy?_eq_some {written : Json} {key : String × String} :
    knownBy? root written = some key ↔ KnownAs root written key := by
  constructor
  · intro h
    obtain ⟨target, htarget, rfl⟩ := except_toOption_map h
    exact ⟨target, Reference.deref_ok.1 htarget, rfl⟩
  · rintro ⟨target, leads, rfl⟩
    rw [knownBy?, Reference.deref_ok.2 leads]
    rfl

theorem exists_entries {list : List Json} (h : ∀ written ∈ list, ∃ target, Leads root written target) :
    ∃ entries, List.Forall₂ (EntryFor root) list entries := by
  induction list with
  | nil => exact ⟨[], .nil⟩
  | cons written rest ih =>
    obtain ⟨target, leads⟩ := h written (List.mem_cons_self ..)
    obtain ⟨entries, hentries⟩ := ih fun w hw => h w (List.mem_cons_of_mem _ hw)
    exact ⟨⟨_, _, written⟩ :: entries, .cons ⟨rfl, target, leads, rfl⟩ hentries⟩

theorem any_entries {list : List Json} {entries : List ParameterEntry} (h : List.Forall₂ (EntryFor root) list entries)
    {written : Json} {p : ParameterEntry} (hp : EntryFor root written p) :
    (entries.any fun o => o.name == p.name && o.place == p.place) =
      list.any fun o => knownBy? root o == knownBy? root written := by
  induction h with
  | nil => rfl
  | @cons _ e _ _ he _ ih =>
    rw [List.any_cons, List.any_cons, ih, knownBy?_eq_some.2 he.2, knownBy?_eq_some.2 hp.2]
    rfl

theorem mergeParameters_eq {list list' : List Json} {own inherited : List ParameterEntry}
    (hown : List.Forall₂ (EntryFor root) list own) (hinherited : List.Forall₂ (EntryFor root) list' inherited) :
    mergeParameters own inherited = joined root list list' := by
  unfold mergeParameters joined
  rw [map_written hown]
  refine congrArg (list ++ ·) ?_
  induction hinherited with
  | nil => rfl
  | cons hp _ ih =>
    rw [List.filter_cons, List.filter_cons, any_entries hown hp]
    split
    · rw [List.map_cons, hp.1, ih]
    · exact ih

/-- What was joined once is joined. -/
theorem joined_self (root : Json) (own inherited : List Json) :
    joined root (joined root own inherited) inherited = joined root own inherited := by
  refine (congrArg (joined root own inherited ++ ·) (List.filter_eq_nil_iff.2 fun written hwritten => ?_)).trans
    (List.append_nil _)
  -- a parameter of the path item was added, or an own one was in its way
  rw [joined, List.any_append]
  by_cases hown : (own.any fun o => knownBy? root o == knownBy? root written) = true
  · simp [hown]
  · have hmem : written ∈ inherited.filter fun w => !own.any fun o => knownBy? root o == knownBy? root w :=
      List.mem_filter.2 ⟨hwritten, by simpa using hown⟩
    have hself : (inherited.filter fun w => !own.any fun o => knownBy? root o == knownBy? root w).any
        (fun o => knownBy? root o == knownBy? root written) = true :=
      List.any_eq_true.2 ⟨written, hmem, beq_self_eq_true _⟩
    rw [hself, Bool.or_true]
    decide

theorem parametersOf_eq (owner : Members) :
    parametersOf owner = ((Members.get? owner "parameters").bind Json.arr?).getD [] := rfl

theorem Declares.each {owner : Members} {entries : Option (List ParameterEntry)} (h : Declares root owner entries) :
    List.Forall₂ (EntryFor root) (parametersOf owner) (entries.getD []) := by
  rw [parametersOf_eq]
  cases h with
  | absent absent => rw [absent]; exact .nil
  | listed given each => rw [given]; exact each

/-- A reference that does not resolve. -/
def Dangles (root written : Json) : Prop :=
  ∃ text, Reference.ofNode? written = some text ∧ ∀ r, Reference.parse text = some r → r.find? root = none

theorem exists_leads_iff {written : Json} : (∃ target, Leads root written target) ↔ ¬ Dangles root written := by
  constructor
  · rintro ⟨target, leads⟩ ⟨text, refers, missing⟩
    cases leads with
    | inline written => rw [refers] at written; cases written
    | hop written parsed found =>
      rw [refers] at written
      cases written
      rw [missing _ parsed] at found
      cases found
  · intro resolves
    rcases refers : Reference.ofNode? written with _ | text
    · exact ⟨written, .inline refers⟩
    by_contra astray
    refine resolves ⟨text, refers, fun r parsed => ?_⟩
    rcases found : r.find? root with _ | target
    · rfl
    · exact absurd ⟨target, .hop refers parsed found⟩ astray

/-- The parameters of a path item or operation cannot be read: they are no list, or a reference among them does not
resolve. -/
inductive Unreadable (root : Json) (owner : Members) : Prop
  | noList {v : Json} (given : Members.get? owner "parameters" = some v) (noList : v.arr? = none) :
      Unreadable root owner
  | dangling {written : Json} (listed : ListsParameter owner written) (dangles : Dangles root written) :
      Unreadable root owner

theorem exists_declares_iff {owner : Members} : (∃ entries, Declares root owner entries) ↔ ¬ Unreadable root owner := by
  constructor
  · rintro ⟨entries, h⟩ unreadable
    cases h with
    | absent absent =>
      cases unreadable with
      | noList given => rw [absent] at given; cases given
      | dangling listed =>
        obtain ⟨list, given, -⟩ := listed
        rw [absent] at given
        cases given
    | listed given each =>
      cases unreadable with
      | noList given' noList => rw [given] at given'; cases given'; cases noList
      | dangling listed dangles =>
        obtain ⟨list, given', hmem⟩ := listed
        rw [given] at given'
        cases given'
        obtain ⟨e, -, -, target, leads, -⟩ := forall₂_exists each hmem
        exact exists_leads_iff.1 ⟨target, leads⟩ dangles
  · intro readable
    rcases given : Members.get? owner "parameters" with _ | v
    · exact ⟨none, .absent given⟩
    rcases hlist : v.arr? with _ | list
    · exact absurd (.noList given hlist) readable
    obtain rfl : v = .arr list := by cases v <;> cases hlist; rfl
    obtain ⟨entries, each⟩ := exists_entries fun written hmem =>
      exists_leads_iff.2 fun dangles => readable (.dangling ⟨list, given, hmem⟩ dangles)
    exact ⟨some entries, .listed given each⟩

end

/-! ## Merging -/

section

variable {root : Json} {item operation merged : Members} {loc : Location}

/-- The keys of an operation with the parameters that it and its path item declare. -/
def addParameters (keys : Members) : Option (List ParameterEntry) → Option (List ParameterEntry) → Members
  | none, none => keys
  | own, inherited => Members.insert keys "parameters" (.arr (mergeParameters (own.getD []) (inherited.getD [])))

theorem merge_ok_iff : merge root item operation loc = .ok merged ↔ ∃ own inherited,
    Declares root operation own ∧ Declares root item inherited ∧
      addParameters (mergeKeys item operation) own inherited = merged := by
  constructor
  · intro h
    obtain ⟨inherited, hinherited, h⟩ := except_bind_ok h
    obtain ⟨own, hown, h⟩ := except_bind_ok h
    refine ⟨own, inherited, declaredParameters_iff.1 hown, declaredParameters_iff.1 hinherited, ?_⟩
    cases h
    rcases own with _ | own <;> rcases inherited with _ | inherited <;> rfl
  · rintro ⟨own, inherited, hown, hinherited, rfl⟩
    rw [merge, declaredParameters_iff.2 hown, declaredParameters_iff.2 hinherited]
    rcases own with _ | own <;> rcases inherited with _ | inherited <;> rfl

theorem merge_error_iff : (∃ err, merge root item operation loc = .error err) ↔
    Unreadable root item ∨ Unreadable root operation := by
  have hok : (∃ merged, merge root item operation loc = .ok merged) ↔
      ¬ Unreadable root item ∧ ¬ Unreadable root operation := by
    simp only [merge_ok_iff, ← exists_declares_iff]
    constructor
    · rintro ⟨_, own, inherited, hown, hinherited, -⟩
      exact ⟨⟨_, hinherited⟩, _, hown⟩
    · rintro ⟨⟨_, hinherited⟩, _, hown⟩
      exact ⟨_, _, _, hown, hinherited, rfl⟩
  rcases h : merge root item operation loc with err | merged
  · rw [h] at hok
    simp only [reduceCtorEq, exists_false, false_iff, not_and_or, not_not] at hok
    exact ⟨fun _ => hok, fun _ => ⟨err, rfl⟩⟩
  · rw [h] at hok
    have := hok.1 ⟨merged, rfl⟩
    simp [this]

theorem addParameters_eq {own inherited : Option (List ParameterEntry)} (hown : Declares root operation own)
    (hinherited : Declares root item inherited) (keys : Members) : addParameters keys own inherited =
      if Members.has operation "parameters" || Members.has item "parameters" then
        Members.insert keys "parameters" (.arr (joined root (parametersOf operation) (parametersOf item)))
      else keys := by
  have hjoined := mergeParameters_eq hown.each hinherited.each
  unfold Members.has
  cases hown with
  | absent absent =>
    cases hinherited with
    | absent absent' =>
      rw [absent, absent']
      rfl
    | listed given =>
      rw [if_pos (by simp [given]), ← hjoined]
      rfl
  | listed given =>
    rw [if_pos (by simp [given]), ← hjoined]
    rfl

/-- What an operation holds once it was merged with its path item: its own keys, the extensions and fallback keys that
it is lent, and the parameters of both. -/
structure IsMerged (root : Json) (item operation merged : Members) : Prop where
  keys : ∀ key, key ≠ "parameters" → Members.get? merged key = (Members.get? operation key).or
    (if isExtension key ∨ key ∈ fallbackKeys then Members.get? item key else none)
  parameters : Members.get? merged "parameters" =
    if Members.has operation "parameters" || Members.has item "parameters" then
      some (.arr (joined root (parametersOf operation) (parametersOf item)))
    else none

theorem isMerged_of_merge (itemUnique : Members.UniqueNames item) (unique : Members.UniqueNames operation)
    (h : merge root item operation loc = .ok merged) : IsMerged root item operation merged := by
  obtain ⟨own, inherited, hown, hinherited, rfl⟩ := merge_ok_iff.1 h
  rw [addParameters_eq hown hinherited]
  constructor
  · intro key hkey
    split
    · rw [Members.get?_insert, if_neg hkey, get?_mergeKeys_eq itemUnique unique]
    · rw [get?_mergeKeys_eq itemUnique unique]
  · split
    · rw [Members.get?_insert, if_pos rfl]
    · rename_i undeclared
      have absent : Members.get? operation "parameters" = none := by
        have := Bool.or_eq_false_iff.1 (Bool.not_eq_true _ ▸ undeclared)
        simpa [Members.has] using this.1
      rw [get?_mergeKeys_eq itemUnique unique, absent, if_neg (by decide +kernel), Option.none_or]

theorem grownFrom_merge (itemUnique : Members.UniqueNames item) (h : merge root item operation loc = .ok merged) :
    GrownFrom (extensionsOf item) merged := by
  obtain ⟨own, inherited, hown, hinherited, rfl⟩ := merge_ok_iff.1 h
  have hkeys := grownFrom_mergeKeys itemUnique operation
  rw [addParameters_eq hown hinherited]
  split
  · exact hkeys.insert _ _
  · exact hkeys

/-- Merging an operation a second time with its path item changes nothing. -/
theorem merge_again (itemUnique : Members.UniqueNames item) (unique : Members.UniqueNames operation)
    (h : merge root item operation loc = .ok merged) (loc' : Location) : merge root item merged loc' = .ok merged := by
  have hmerged := isMerged_of_merge itemUnique unique h
  have grown := grownFrom_merge itemUnique h
  have hkeys : mergeKeys item merged = merged := by
    refine mergeKeys_eq_self itemUnique grown fun key hkey hnone => ?_
    have hother : key ≠ "parameters" := by
      rintro rfl
      exact absurd hkey (by decide)
    rw [hmerged.keys key hother, if_pos (.inr hkey), Option.or_eq_none_iff] at hnone
    exact hnone.2
  obtain ⟨own, inherited, hown, hinherited, -⟩ := merge_ok_iff.1 h
  have hparameters := hmerged.parameters
  split at hparameters
  · -- each parameter of the joined list can be read, since it is from one of the two lists
    have leads : ∀ written ∈ joined root (parametersOf operation) (parametersOf item),
        ∃ target, Leads root written target := by
      intro written hwritten
      have hfrom : ∃ e, EntryFor root written e := by
        rcases List.mem_append.1 hwritten with hwritten | hwritten
        · obtain ⟨e, -, he⟩ := forall₂_exists hown.each hwritten
          exact ⟨e, he⟩
        · obtain ⟨e, -, he⟩ := forall₂_exists hinherited.each (List.mem_of_mem_filter hwritten)
          exact ⟨e, he⟩
      obtain ⟨e, -, target, leads, -⟩ := hfrom
      exact ⟨target, leads⟩
    obtain ⟨entries, each⟩ := exists_entries leads
    have hlisted : Declares root merged (some entries) := .listed hparameters each
    refine merge_ok_iff.2 ⟨some entries, inherited, hlisted, hinherited, ?_⟩
    have hjoined : joined root (parametersOf merged) (parametersOf item) =
        joined root (parametersOf operation) (parametersOf item) := by
      rw [parametersOf_eq merged, hparameters]
      exact joined_self root _ _
    rw [addParameters_eq hlisted hinherited, if_pos (by simp [Members.has, hparameters]), hkeys, hjoined]
    exact Members.insert_self grown.unique hparameters
  · rename_i undeclared
    rw [Bool.not_eq_true, Bool.or_eq_false_iff] at undeclared
    have hlacking : Declares root merged none := .absent hparameters
    have hnone : Members.has merged "parameters" = false := by rw [Members.has, hparameters]; rfl
    refine merge_ok_iff.2 ⟨none, inherited, hlacking, hinherited, ?_⟩
    rw [addParameters_eq hlacking hinherited, hnone, undeclared.2, if_neg (by decide), hkeys]

/-- Merging fails only where parameters cannot be read. What it gives is the operation's own keys, those that it is
lent and the parameters of both, and it is not changed by merging once more. -/
theorem merge_spec (itemUnique : Members.UniqueNames item) (unique : Members.UniqueNames operation) (loc : Location) :
    ((∃ err, merge root item operation loc = .error err) ↔ Unreadable root item ∨ Unreadable root operation) ∧
      ∀ merged, merge root item operation loc = .ok merged →
        IsMerged root item operation merged ∧ ∀ loc', merge root item merged loc' = .ok merged :=
  ⟨merge_error_iff, fun _ h => ⟨isMerged_of_merge itemUnique unique h, merge_again itemUnique unique h⟩⟩

end

/-- A path item with an extension that its operation writes as well, and one that it does not. -/
def petsItem : Members := [("x-owner", .str "paths"), ("x-rate", .num (.int 10)), ("summary", .str "Pets"),
  ("parameters", .arr [.obj [("name", .str "id"), ("in", .str "path")],
    .obj [("name", .str "id"), ("in", .str "query")], .obj [("$ref", .str "#/components/parameters/Auth")]])]

/-- An operation that declares two of the parameters of its path item, one of which the path item refers to. -/
def petsOperation : Members := [("operationId", .str "listPets"), ("x-owner", .str "pets"),
  ("parameters", .arr [.obj [("name", .str "auth"), ("in", .str "header")],
    .obj [("name", .str "id"), ("in", .str "path"), ("required", .bool true)]]),
  ("responses", .obj [("default", .obj []), ("200", .obj [("content", .obj [("application/json", .obj [])])])])]

def petsRoot : Json := .obj [("components", .obj [("parameters", .obj [
  ("Auth", .obj [("name", .str "auth"), ("in", .str "header")])])])]

theorem merge_spec_pets :
    (∃ merged, merge petsRoot petsItem petsOperation "" = .ok merged ∧ merge petsRoot petsItem merged "" = .ok merged ∧
      merged.map (·.1) = ["x-owner", "x-rate", "operationId", "parameters", "responses", "summary"] ∧
      (Members.get? merged "x-owner").bind Json.str? = some "pets" ∧
      (parametersOf merged).map (knownBy? petsRoot) =
        [some ("auth", "header"), some ("id", "path"), some ("id", "query")]) ∧
    ∃ err, merge .null petsItem petsOperation "" = .error err := by
  have itemUnique : Members.UniqueNames petsItem := by decide
  have unique : Members.UniqueNames petsOperation := by decide
  constructor
  · obtain ⟨merged, hmerged⟩ := except_isOk (x := merge petsRoot petsItem petsOperation "") (by decide +kernel)
    obtain ⟨spec, again⟩ := (merge_spec itemUnique unique "").2 merged hmerged
    refine ⟨merged, hmerged, again "", ?_, ?_, ?_⟩
    · have hnames : (merge petsRoot petsItem petsOperation "").toOption.map (fun ms => ms.map (·.1)) =
          some ["x-owner", "x-rate", "operationId", "parameters", "responses", "summary"] := by decide +kernel
      rw [hmerged] at hnames
      exact Option.some.inj hnames
    · rw [spec.keys "x-owner" (by decide)]
      decide
    · rw [parametersOf_eq, spec.parameters]
      decide +kernel
  · -- there is nothing that the third parameter of the path item could refer to
    have listed : ListsParameter petsItem (.obj [("$ref", .str "#/components/parameters/Auth")]) :=
      ⟨_, rfl, .tail _ (.tail _ (.head _))⟩
    exact (merge_spec itemUnique unique "").1.2 (.inl (.dangling listed ⟨_, rfl, fun _ _ => rfl⟩))

end ApiScaffold.Operation
