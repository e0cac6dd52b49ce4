/-
When registering succeeds. Entries can be registered exactly if none is at fault and no two have the same name, and
what is registered then does not depend on the order in which they come (`flatten_perm`).
-/
import ApiScaffold.Proofs.Schema.Registry

namespace ApiScaffold.Schema

/-! ## Names of entries -/

/-- Entries that were registered have distinct names that were free. -/
theorem names_of_registerAll :
    ∀ {es : List Entry} {before after : SortedMap Schema}, registerAll before es = .ok after →
      (es.map (·.name)).Nodup ∧ ∀ e ∈ es, before.contains e.name = false
  | [], _, _, _ => ⟨List.nodup_nil, fun _ he => by cases he⟩
  | e :: es, before, after, h => by
    rw [registerAll_cons] at h
    obtain ⟨s, hs, h⟩ := except_bind_ok h
    split at h
    · cases h
    rename_i free
    rw [Bool.not_eq_true] at free
    obtain ⟨hnodup, hrest⟩ := names_of_registerAll h
    -- the names of the rest are free once the first is taken
    have hsplit : ∀ e' ∈ es, e'.name ≠ e.name ∧ before.contains e'.name = false := by
      intro e' he'
      have hfree := hrest e' he'
      rw [← Bool.not_eq_true, SortedMap.contains_insert, not_or, Bool.not_eq_true] at hfree
      exact hfree
    constructor
    · rw [List.map_cons, List.nodup_cons]
      refine ⟨fun hmem => ?_, hnodup⟩
      obtain ⟨e', he', heq⟩ := List.mem_map.1 hmem
      exact (hsplit e' he').1 heq
    · intro e' he'
      rcases List.mem_cons.1 he' with rfl | he'
      · exact free
      · exact (hsplit e' he').2

/-- Entries without faults can be registered under distinct names that are free. -/
theorem exists_registerAll :
    ∀ {es : List Entry} {before : SortedMap Schema}, (∀ e ∈ es, ∃ s, e.schema = .ok s) →
      (es.map (·.name)).Nodup → (∀ e ∈ es, before.contains e.name = false) → ∃ after, registerAll before es = .ok after
  | [], before, _, _, _ => ⟨before, rfl⟩
  | e :: es, before, ok, distinct, free => by
    obtain ⟨s, hs⟩ := ok e (List.mem_cons_self ..)
    rw [List.map_cons, List.nodup_cons] at distinct
    have hfree : ∀ e' ∈ es, (before.insert e.name s).contains e'.name = false := by
      intro e' he'
      rw [← Bool.not_eq_true, SortedMap.contains_insert, not_or, Bool.not_eq_true]
      exact ⟨fun heq => distinct.1 (heq ▸ List.mem_map_of_mem he'), free e' (List.mem_cons_of_mem _ he')⟩
    obtain ⟨after, hafter⟩ := exists_registerAll (fun e' he' => ok e' (List.mem_cons_of_mem _ he')) distinct.2 hfree
    refine ⟨after, ?_⟩
    rw [registerAll_cons, hs, free e (List.mem_cons_self ..)]
    exact hafter

/-! ## The order of components -/

/-- What is registered from scratch is what the entries hold. -/
theorem Registered.get?_iff {es : List Entry} {after : SortedMap Schema} (h : Registered .empty es after)
    {name : String} {s : Schema} : after.get? name = some s ↔ ∃ e ∈ es, e.name = name ∧ e.schema = .ok s := by
  constructor
  · intro hget
    rcases h.source hget with hnone | hentry
    · cases hnone
    · exact hentry
  · rintro ⟨e, he, rfl, hs⟩
    obtain ⟨s', hs', hget⟩ := h.entry e he
    rw [hs] at hs'
    cases hs'
    exact hget

/-- The schemas of components do not depend on the order in which these are declared. -/
theorem flatten_perm {root : Json} {types : TypeTable} {components components' : Members} {schemas : SortedMap Schema}
    (h : flatten root types components = .ok schemas) (perm : components.Perm components') :
    flatten root types components' = .ok schemas := by
  have hreg := flatten_registered h
  rw [flatten_eq] at h ⊢
  have hes : (entriesOf root types components).Perm (entriesOf root types components') := perm.flatMap_right _
  have hdistinct := (hes.map (·.name)).nodup_iff.1 (names_of_registerAll h).1
  have hok : ∀ e ∈ entriesOf root types components', ∃ s, e.schema = .ok s :=
    fun e he => (hreg.entry e (hes.mem_iff.2 he)).imp fun _ hs => hs.1
  have hall : ∃ after, registerAll .empty (entriesOf root types components') = .ok after :=
    exists_registerAll hok hdistinct fun _ _ => rfl
  obtain ⟨schemas', hschemas'⟩ := hall
  have hsame : schemas = schemas' := by
    refine SortedMap.ext_get? fun name => Option.ext fun s => ?_
    rw [hreg.get?_iff, (registerAll_registered hschemas').get?_iff]
    simp only [hes.mem_iff]
  rw [hsame, hschemas']

end ApiScaffold.Schema
