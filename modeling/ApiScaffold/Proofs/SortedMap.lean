/-
Sorted maps through their look-ups: what each operation does to the value of every name, and that the
entries of a map, put in one by one, give the map again. Sets of names through their members.
-/
import ApiScaffold.SortedMap
import Mathlib.Tactic

namespace ApiScaffold.SortedMap

variable {α : Type}

theorem ext {m n : SortedMap α} (h : m.entries = n.entries) : m = n := by
  rcases m with ⟨es, hs⟩
  rcases n with ⟨fs, ht⟩
  cases h; rfl

theorem lookup_insertEntry (key : String) (v : α) (k : String) :
    ∀ es : List (String × α), (insertEntry key v es).lookup k = if k = key then some v else es.lookup k
  | [] => by
    unfold insertEntry
    by_cases hk : k = key
    · simp [hk]
    · have : (k == key) = false := by simpa using hk
      simp [List.lookup_cons, this, hk]
  | e :: es => by
    unfold insertEntry
    -- the entry goes before the first one, in its place, or further on
    split
    · by_cases hk : k = key
      · simp [hk]
      · have : (k == key) = false := by simpa using hk
        rw [List.lookup_cons, this, if_neg hk]
    · split
      · rename_i heq
        by_cases hk : k = key
        · simp [hk]
        · have h1 : (k == key) = false := by simpa using hk
          have h2 : (k == e.1) = false := by rw [← heq]; exact h1
          rw [List.lookup_cons, h1, if_neg hk, List.lookup_cons, h2]
      · rename_i hne
        rw [List.lookup_cons, List.lookup_cons, lookup_insertEntry key v k es]
        by_cases hk : k = e.1
        · have hkey : k ≠ key := fun h => hne (h.symm.trans hk)
          have hb : (k == e.1) = true := by simpa using hk
          simp [hb, hkey]
        · have : (k == e.1) = false := by simpa using hk
          rw [this]

theorem get?_insert (m : SortedMap α) (key : String) (v : α) (k : String) :
    (m.insert key v).get? k = if k = key then some v else m.get? k :=
  lookup_insertEntry key v k m.entries

theorem lookup_of_mem :
    ∀ {es : List (String × α)}, es.Pairwise (·.1 < ·.1) → ∀ {e : String × α}, e ∈ es → es.lookup e.1 = some e.2
  | d :: es, h, e, he => by
    obtain ⟨hd, hes⟩ := List.pairwise_cons.1 h
    rcases List.mem_cons.1 he with rfl | he
    · exact List.lookup_cons_self
    · have hne : (e.1 == d.1) = false := by
        rw [beq_eq_false_iff_ne]
        intro heq
        exact String.lt_irrefl _ (heq ▸ hd e he)
      rw [List.lookup_cons, hne]
      exact lookup_of_mem hes he

/-- Every entry is found under its name. -/
theorem get?_of_mem (m : SortedMap α) {e : String × α} (h : e ∈ m.entries) : m.get? e.1 = some e.2 :=
  lookup_of_mem m.sorted h

theorem mem_of_get? {m : SortedMap α} {key : String} {v : α} (h : m.get? key = some v) : (key, v) ∈ m.entries := by
  obtain ⟨before, after, hm, -⟩ := List.lookup_eq_some_iff.1 h
  rw [hm]
  exact List.mem_append_right _ (List.mem_cons_self ..)

theorem contains_iff {m : SortedMap α} {key : String} : m.contains key = true ↔ ∃ v, m.get? key = some v :=
  Option.isSome_iff_exists

theorem get?_ne_of_free {m : SortedMap α} {key : String} {v : α} (free : m.contains key = false) :
    m.get? key ≠ some v := by
  intro hget
  rw [contains_iff.2 ⟨v, hget⟩] at free
  cases free

theorem contains_insert {m : SortedMap α} {key k : String} {v : α} :
    (m.insert key v).contains k = true ↔ k = key ∨ m.contains k = true := by
  unfold contains
  rw [m.get?_insert]
  split
  · rename_i heq
    simp [heq]
  · rename_i hne
    simp [hne]

theorem mem_values {m : SortedMap α} {v : α} : v ∈ m.values ↔ ∃ key, m.get? key = some v := by
  unfold values
  rw [List.mem_map]
  constructor
  · rintro ⟨e, he, rfl⟩
    exact ⟨e.1, m.get?_of_mem he⟩
  · rintro ⟨key, h⟩
    exact ⟨(key, v), mem_of_get? h, rfl⟩

/-- Maps with the same look-ups are the same. -/
theorem ext_get? {m n : SortedMap α} (h : ∀ key, m.get? key = n.get? key) : m = n := by
  have : Std.Irrefl fun d e : String × α => d.1 < e.1 := ⟨fun _ => String.lt_irrefl _⟩
  have : Std.Antisymm fun d e : String × α => d.1 < e.1 :=
    ⟨fun _ _ hlt hgt => absurd (String.lt_trans hlt hgt) (String.lt_irrefl _)⟩
  have hmem : ∀ {k : SortedMap α} {e : String × α}, e ∈ k.entries ↔ k.get? e.1 = some e.2 :=
    fun {k} _ => ⟨k.get?_of_mem, mem_of_get?⟩
  refine ext (m.sorted.eq_of_mem_iff n.sorted fun e => ?_)
  rw [hmem, hmem, h]

theorem lookup_mapValues {β : Type} (f : α → β) (k : String) :
    ∀ es : List (String × α), (es.map fun e => (e.1, f e.2)).lookup k = (es.lookup k).map f
  | [] => rfl
  | e :: es => by
    rw [List.map_cons, List.lookup_cons, List.lookup_cons, lookup_mapValues f k es]
    cases k == e.1 <;> rfl

theorem get?_mapValues {β : Type} (m : SortedMap α) (f : α → β) (k : String) :
    (m.mapValues f).get? k = (m.get? k).map f := lookup_mapValues f k m.entries

theorem keys_mapValues {β : Type} (m : SortedMap α) (f : α → β) : (m.mapValues f).keys = m.keys := by
  unfold keys mapValues
  rw [List.map_map]
  rfl

theorem contains_mapValues {β : Type} (m : SortedMap α) (f : α → β) (key : String) :
    (m.mapValues f).contains key = m.contains key := by
  unfold contains
  rw [get?_mapValues, Option.isSome_map]

theorem mapValues_id (m : SortedMap α) : m.mapValues id = m := by
  refine ext_get? fun key => ?_
  rw [get?_mapValues, Option.map_id, id]

theorem mapValues_insert {β : Type} (m : SortedMap α) (f : α → β) (key : String) (v : α) :
    (m.insert key v).mapValues f = (m.mapValues f).insert key (f v) := by
  refine ext_get? fun k => ?_
  rw [get?_mapValues, get?_insert, get?_insert, get?_mapValues]
  split <;> rfl

theorem lookup_filter_key (keep : String → Bool) (k : String) :
    ∀ es : List (String × α), (es.filter fun e => keep e.1).lookup k = if keep k then es.lookup k else none
  | [] => by simp
  | (l, v) :: es => by
    have ih := lookup_filter_key keep k es
    rw [List.filter_cons]
    by_cases hkl : k = l
    · subst hkl
      cases hkeep : keep k <;> simp [hkeep, ih]
    · have hb : (k == l) = false := by simpa using hkl
      cases hl : keep l <;> simp [List.lookup_cons, hb, ih]

theorem get?_filter_key (m : SortedMap α) (keep : String → Bool) (k : String) :
    (m.filter fun key _ => keep key).get? k = if keep k then m.get? k else none :=
  lookup_filter_key keep k m.entries

/-- What a test keeps depends on the names that the map has. -/
theorem filter_key_congr {m : SortedMap α} {keep keep' : String → Bool}
    (h : ∀ k v, m.get? k = some v → keep k = keep' k) :
    (m.filter fun key _ => keep key) = m.filter fun key _ => keep' key := by
  apply ext_get?
  intro k
  rw [get?_filter_key, get?_filter_key]
  rcases hk : m.get? k with _ | v
  · simp
  · rw [h k v hk]

/-- A map all of whose names pass the test stays as it is. -/
theorem filter_key_eq_self {m : SortedMap α} {keep : String → Bool}
    (h : ∀ k v, m.get? k = some v → keep k = true) : (m.filter fun key _ => keep key) = m := by
  apply ext
  show (m.entries.filter fun e => keep e.1) = m.entries
  rw [List.filter_eq_self]
  intro e he
  rcases hl : m.entries.lookup e.1 with _ | v
  · have hne := List.lookup_eq_none_iff.1 hl e he
    simp at hne
  · exact h e.1 v hl

theorem insertEntry_append {key : String} {v : α} :
    ∀ {es : List (String × α)}, (∀ e ∈ es, e.1 < key) → insertEntry key v es = es ++ [(key, v)]
  | [], _ => rfl
  | e :: es, h => by
    have hlt := h e (List.mem_cons_self ..)
    unfold insertEntry
    rw [if_neg (fun h' => String.lt_irrefl _ (String.lt_trans hlt h')),
      if_neg (fun h' => String.lt_irrefl _ (h' ▸ hlt)),
      insertEntry_append fun e' he' => h e' (List.mem_cons_of_mem _ he')]
    rfl

theorem foldl_insert_entries :
    ∀ (es : List (String × α)) (m : SortedMap α), (m.entries ++ es).Pairwise (·.1 < ·.1) →
      (es.foldl (fun m e => m.insert e.1 e.2) m).entries = m.entries ++ es
  | [], m, _ => by simp
  | e :: es, m, h => by
    have hlast : (m.insert e.1 e.2).entries = m.entries ++ [e] :=
      insertEntry_append fun e' he' => (List.pairwise_append.1 h).2.2 e' he' e (List.mem_cons_self ..)
    rw [List.foldl_cons, foldl_insert_entries es _ (by rw [hlast]; simpa using h), hlast]
    simp

/-- The entries of a map make that map. -/
theorem ofList_entries (m : SortedMap α) : ofList m.entries = m :=
  ext (foldl_insert_entries m.entries empty m.sorted)

end ApiScaffold.SortedMap

/-! ## Sets of names -/

namespace ApiScaffold.NameSet

theorem mem_insert? {s : NameSet} {name? : Option String} {x : String} :
    x ∈ s.insert? name? ↔ name? = some x ∨ x ∈ s := by
  cases name? with
  | none => simp [insert?]
  | some name => simp [insert?, eq_comm]

theorem mem_foldl_insert {x : String} :
    ∀ {names : List String} {s : NameSet}, x ∈ names.foldl insert s ↔ x ∈ s ∨ x ∈ names
  | [], s => by simp
  | name :: names, s => by
    rw [List.foldl_cons, mem_foldl_insert, mem_insert, List.mem_cons]
    tauto

theorem not_mem_empty {x : String} : ¬ x ∈ empty := List.not_mem_nil

theorem eq_empty_iff {s : NameSet} : s = ∅ ↔ ∀ x, ¬ x ∈ s := by
  constructor
  · rintro rfl x
    exact not_mem_empty
  · intro h
    rcases s with ⟨names, sorted⟩
    cases names with
    | nil => rfl
    | cons name names => exact absurd (List.mem_cons_self ..) (h name)

theorem mem_ofList {names : List String} {x : String} : x ∈ ofList names ↔ x ∈ names := by
  unfold ofList
  rw [mem_foldl_insert]
  simp [not_mem_empty]

/-- Sets with the same names are the same. -/
theorem ext_mem {s t : NameSet} (h : ∀ x, x ∈ s ↔ x ∈ t) : s = t := by
  have : Std.Irrefl fun x y : String => x < y := ⟨String.lt_irrefl⟩
  have : Std.Antisymm fun x y : String => x < y :=
    ⟨fun _ _ hlt hgt => absurd (String.lt_trans hlt hgt) (String.lt_irrefl _)⟩
  rcases s with ⟨names, sorted⟩
  rcases t with ⟨names', sorted'⟩
  obtain rfl : names = names' := sorted.eq_of_mem_iff sorted' h
  rfl

end ApiScaffold.NameSet
