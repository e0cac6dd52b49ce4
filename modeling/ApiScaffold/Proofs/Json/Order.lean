/-
Values that differ in the order of the members of one object, the one at the end of a path of keys (`Json.Reordered`).
Where names are distinct nothing that lies deeper than that object moves, so that two documents whose paths and
components are written in different orders have the same targets for all references.
-/
import ApiScaffold.Proofs.Json.Names
import ApiScaffold.Reference

namespace ApiScaffold

namespace Members

variable {α : Type}

theorem get?_of_mem {ms : List (String × α)} (unique : UniqueNames ms) {m : String × α} (h : m ∈ ms) :
    get? ms m.1 = some m.2 := by
  induction ms with
  | nil => cases h
  | cons n ms ih =>
    obtain ⟨hfree, hunique⟩ := List.nodup_cons.1 unique
    unfold get? at ih ⊢
    rcases List.mem_cons.1 h with rfl | h
    · exact List.lookup_cons_self
    · have hne : (m.1 == n.1) = false := by
        rw [beq_eq_false_iff_ne]
        exact fun heq => hfree (List.mem_map.2 ⟨m, h, heq⟩)
      rw [List.lookup_cons, hne]
      exact ih hunique h

theorem UniqueNames.perm {ms ms' : List (String × α)} (unique : UniqueNames ms) (perm : ms.Perm ms') :
    UniqueNames ms' :=
  (perm.map Prod.fst).nodup_iff.1 unique

/-- Members with distinct names can be looked up in any order. -/
theorem get?_perm {ms ms' : List (String × α)} (unique : UniqueNames ms) (perm : ms.Perm ms') (key : String) :
    get? ms key = get? ms' key := by
  have hiff : ∀ v, get? ms key = some v ↔ get? ms' key = some v := by
    intro v
    constructor
    · exact fun h => get?_of_mem (unique.perm perm) (perm.mem_iff.1 (mem_of_get? h))
    · exact fun h => get?_of_mem unique (perm.mem_iff.2 (mem_of_get? h))
  exact Option.ext hiff

/-- Making distinct names distinct changes nothing. -/
theorem distinct_eq_self {ms : List (String × α)} (unique : UniqueNames ms) : distinct ms = ms := by
  induction ms using List.reverseRecOn with
  | nil => rfl
  | append_singleton ms m ih =>
    unfold UniqueNames at ih unique
    rw [List.map_append, List.map_singleton, List.nodup_append] at unique
    obtain ⟨hunique, -, hfree⟩ := unique
    have absent : ms.lookup m.1 = none := by
      refine List.lookup_eq_none_iff.2 fun n hn => ?_
      rw [bne_iff_ne]
      exact (hfree n.1 (List.mem_map_of_mem hn) m.1 (List.mem_singleton_self _)).symm
    unfold distinct at ih ⊢
    rw [List.foldl_concat, ih hunique]
    unfold insert has get?
    rw [absent]
    rfl

/-! ## The order of names -/

theorem get?_eq_none_iff {ms : List (String × α)} {key : String} : get? ms key = none ↔ key ∉ ms.map (·.1) := by
  unfold get?
  rw [List.lookup_eq_none_iff, List.mem_map]
  constructor
  · rintro h ⟨m, hm, rfl⟩
    simpa using h m hm
  · intro h m hm
    rw [bne_iff_ne]
    exact fun heq => h ⟨m, hm, heq.symm⟩

theorem has_iff {ms : List (String × α)} {key : String} : has ms key = true ↔ key ∈ ms.map (·.1) := by
  unfold has
  rw [Option.isSome_iff_ne_none, ne_eq, get?_eq_none_iff, not_not]

/-- A name that is there stays at its place. -/
theorem names_insert (ms : List (String × α)) (key : String) (v : α) :
    (insert ms key v).map (·.1) = ms.map (·.1) ++ if key ∈ ms.map (·.1) then [] else [key] := by
  unfold insert
  by_cases present : has ms key = true
  · rw [if_pos present, map_fst_replace, if_pos (has_iff.1 present), List.append_nil]
  · rw [if_neg present, if_neg fun h => present (has_iff.2 h), List.map_append, List.map_singleton]

/-- New names come after those that are there, in their order. -/
theorem names_foldl_insert (acc : List (String × α)) {ms : List (String × α)} (unique : UniqueNames ms) :
    (ms.foldl (fun acc m => insert acc m.1 m.2) acc).map (·.1) =
      acc.map (·.1) ++ (ms.map (·.1)).filter fun key => key ∉ acc.map (·.1) := by
  induction ms using List.reverseRecOn with
  | nil => simp
  | append_singleton ms m ih =>
    have hunique := unique
    unfold UniqueNames at hunique
    rw [List.map_append, List.map_singleton, List.nodup_append] at hunique
    obtain ⟨hunique, -, hfree⟩ := hunique
    have hnew : m.1 ∉ ms.map (·.1) := fun h => hfree _ h _ (List.mem_singleton_self _) rfl
    rw [List.foldl_concat, names_insert, ih hunique, List.map_append, List.filter_append, List.append_assoc]
    by_cases hm : m.1 ∈ acc.map (·.1)
    · simp [hm]
    · simp [hm, hnew]

/-- Distinct names in one order, with the same values. -/
theorem eq_of_names {ms ms' : List (String × α)} (unique : UniqueNames ms) (names : ms.map (·.1) = ms'.map (·.1))
    (values : ∀ key, get? ms key = get? ms' key) : ms = ms' := by
  -- distinct names determine the members through their values
  have rebuilt : ∀ {ns : List (String × α)}, UniqueNames ns →
      ns.map (fun m => (m.1, some m.2)) = (ns.map (·.1)).map fun key => (key, get? ns key) := by
    intro ns hns
    rw [List.map_map]
    exact List.map_congr_left fun m hm => by rw [Function.comp_apply, get?_of_mem hns hm]
  have unique' : UniqueNames ms' := by
    unfold UniqueNames at unique ⊢
    rwa [← names]
  refine List.map_injective_iff.2 ?_ ((rebuilt unique).trans ?_)
  · rintro ⟨k, v⟩ ⟨l, w⟩ h
    cases h
    rfl
  · rw [names, rebuilt unique']
    exact List.map_congr_left fun key _ => by rw [values key]

theorem insert_self {ms : List (String × α)} (unique : UniqueNames ms) {key : String} {v : α}
    (h : get? ms key = some v) : insert ms key v = ms := by
  have present : key ∈ ms.map (·.1) := by
    by_contra absent
    rw [get?_eq_none_iff.2 absent] at h
    cases h
  refine eq_of_names (uniqueNames_insert unique key v) ?_ fun k => ?_
  · rw [names_insert, if_pos present, List.append_nil]
  · rw [get?_insert]
    split
    · rename_i hk
      rw [hk, h]
    · rfl

/-- Members put over others that have the first of their names. -/
theorem foldl_insert_eq_self {acc ms : List (String × α)} (unique : UniqueNames ms)
    (front : acc.map (·.1) <+: ms.map (·.1)) : ms.foldl (fun acc m => insert acc m.1 m.2) acc = ms := by
  obtain ⟨rest, hrest⟩ := front
  have names : (ms.foldl (fun acc m => insert acc m.1 m.2) acc).map (·.1) = ms.map (·.1) := by
    have hdisjoint : ∀ key ∈ rest, key ∉ acc.map (·.1) := by
      unfold UniqueNames at unique
      rw [← hrest, List.nodup_append] at unique
      exact fun key hkey hacc => unique.2.2 key hacc key hkey rfl
    rw [names_foldl_insert acc unique, ← hrest, List.filter_append, List.filter_eq_nil_iff.2, List.nil_append,
      List.filter_eq_self.2]
    · exact fun key hkey => by simpa using hdisjoint key hkey
    · exact fun key hkey => by simpa using hkey
  refine (eq_of_names unique names.symm fun key => ?_).symm
  rw [get?_foldl_insert, distinct_eq_self unique]
  rcases hget : get? ms key with _ | v
  · rw [get?_eq_none_iff] at hget
    rw [Option.none_or, eq_comm, get?_eq_none_iff]
    exact fun hacc => hget (hrest ▸ List.mem_append_left _ hacc)
  · rfl

end Members

namespace Json

/-- Two values that are the same but for the order of the members of the object at a path of keys. -/
inductive Reordered : List String → Json → Json → Prop
  | same (path : List String) (j : Json) : Reordered path j j
  | here {ms ms' : Members} (perm : ms.Perm ms') : Reordered [] (.obj ms) (.obj ms')
  | inside {key : String} {path : List String} {v v' : Json} (before after : Members) (inner : Reordered path v v') :
      Reordered (key :: path) (.obj (before ++ (key, v) :: after)) (.obj (before ++ (key, v') :: after))

theorem Reordered.proper {path : List String} {j j' : Json} (h : Reordered path j j') (proper : j.Proper) :
    j'.Proper := by
  induction h with
  | same => exact proper
  | here perm =>
    cases proper with
    | obj unique each => exact .obj (unique.perm perm) fun m hm => each m (perm.mem_iff.2 hm)
  | @inside key path v v' before after _ ih =>
    cases proper with
    | obj unique each =>
      refine .obj ?_ fun m hm => ?_
      · unfold Members.UniqueNames at unique ⊢
        rwa [List.map_append, List.map_cons] at unique ⊢
      · rcases List.mem_append.1 hm with hm | hm
        · exact each m (List.mem_append_left _ hm)
        rcases List.mem_cons.1 hm with rfl | hm
        · exact ih (each (key, v) (List.mem_append_right _ (List.mem_cons_self ..)))
        · exact each m (List.mem_append_right _ (List.mem_cons_of_mem _ hm))

/-- Other members than the first on the path are the same. -/
theorem Reordered.get?_other {key k : String} {path : List String} {j j' : Json} (h : Reordered (key :: path) j j')
    (ne : k ≠ key) : j.get? k = j'.get? k := by
  cases h with
  | same => rfl
  | inside before after inner =>
    have hkey : (k == key) = false := by simpa using ne
    simp only [get?, Members.get?, List.lookup_append, List.lookup_cons, hkey]

/-- The first member on the path is reordered at the rest of it. -/
theorem Reordered.get?_key {key : String} {path : List String} {j j' : Json} (h : Reordered (key :: path) j j') :
    (j.get? key = none ∧ j'.get? key = none) ∨
      ∃ v v', j.get? key = some v ∧ j'.get? key = some v' ∧ Reordered path v v' := by
  cases h with
  | same =>
    rcases hv : j.get? key with _ | v
    · exact .inl ⟨rfl, rfl⟩
    · exact .inr ⟨v, v, rfl, rfl, .same path v⟩
  | @inside _ _ v v' before after inner =>
    simp only [get?, Members.get?, List.lookup_append, List.lookup_cons_self]
    rcases before.lookup key with _ | w
    · exact .inr ⟨v, v', rfl, rfl, inner⟩
    · exact .inr ⟨w, w, rfl, rfl, .same path w⟩

/-- The members of an object that is reordered itself. -/
theorem Reordered.perm {j j' : Json} (h : Reordered [] j j') : (j.obj?.getD []).Perm (j'.obj?.getD []) := by
  cases h with
  | same => exact .refl _
  | here perm => exact perm

/-- What a path of keys leads to. -/
def dig : List String → Json → Option Json
  | [], j => some j
  | key :: path, j => (j.get? key).bind (dig path)

/-- What lies deeper than the object that is reordered is the same. -/
theorem Reordered.dig_eq {path : List String} {j j' : Json} (h : Reordered path j j') (proper : j.Proper)
    {keys : List String} (deeper : path.length < keys.length) : dig keys j = dig keys j' := by
  -- both paths lose a key at a time, as long as they agree
  induction path generalizing j j' keys with
  | nil =>
    obtain ⟨key, keys, rfl⟩ := List.exists_cons_of_length_pos deeper
    cases h with
    | same => rfl
    | here perm =>
      unfold dig
      rw [get?, get?, Members.get?_perm proper.unique perm]
  | cons first path ih =>
    obtain ⟨key, keys, rfl⟩ := List.exists_cons_of_length_pos (Nat.zero_lt_of_lt deeper)
    unfold dig
    by_cases hkey : key = first
    · subst hkey
      rcases h.get?_key with ⟨hj, hj'⟩ | ⟨v, v', hj, hj', hinner⟩
      · rw [hj, hj']
      · rw [hj, hj']
        exact ih hinner (proper.get? hj) (Nat.lt_of_succ_lt_succ deeper)
    · rw [h.get?_other hkey]

theorem find?_eq_dig (r : Reference) (root : Json) : r.find? root = dig [r.part, r.group, r.name] root := by
  unfold Reference.find?
  rw [Option.bind_assoc]
  simp [dig]

end Json

end ApiScaffold
