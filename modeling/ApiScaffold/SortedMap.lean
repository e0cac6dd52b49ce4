/-
Maps and sets of names in increasing order, as lists that carry the proof that they are sorted, so
that what they hold does not depend on the order in which they were filled. Texts are ordered by code
points, which is the order of their UTF-8 bytes.
-/
namespace ApiScaffold

theorem String.lt_of_not_lt_of_ne {a b : String} (h : ¬ a < b) (hne : a ≠ b) : b < a := by
  rcases String.le_total a b with hle | hle
  · exact absurd (String.le_antisymm hle (String.not_lt.1 h)) hne
  · exact String.not_le.1 fun hba => hne (String.le_antisymm hba hle)

/-- A map from names to values, in increasing order of the names. -/
structure SortedMap (α : Type u) where
  entries : List (String × α)
  sorted : entries.Pairwise (·.1 < ·.1)

namespace SortedMap

variable {α : Type u} {β : Type v}

/-- The map without entries. -/
def empty : SortedMap α := ⟨[], .nil⟩

instance : Inhabited (SortedMap α) := ⟨empty⟩
instance : EmptyCollection (SortedMap α) := ⟨empty⟩

def get? (m : SortedMap α) (key : String) : Option α := m.entries.lookup key

def contains (m : SortedMap α) (key : String) : Bool := (m.get? key).isSome

def keys (m : SortedMap α) : List String := m.entries.map (·.1)

def values (m : SortedMap α) : List α := m.entries.map (·.2)

def size (m : SortedMap α) : Nat := m.entries.length

def isEmpty (m : SortedMap α) : Bool := m.entries.isEmpty

/-- Puts an entry at its place in a sorted list. -/
def insertEntry (key : String) (v : α) : List (String × α) → List (String × α)
  | [] => [(key, v)]
  | e :: es =>
    if key < e.1 then (key, v) :: e :: es
    else if key = e.1 then (key, v) :: es
    else e :: insertEntry key v es

theorem mem_insertEntry {key : String} {v : α} {es : List (String × α)} {e : String × α}
    (h : e ∈ insertEntry key v es) : e = (key, v) ∨ e ∈ es := by
  induction es with
  | nil => simpa [insertEntry] using h
  | cons d es ih =>
    unfold insertEntry at h
    split at h
    · simpa using h
    · split at h
      · rcases List.mem_cons.1 h with h | h
        · exact .inl h
        · exact .inr (List.mem_cons_of_mem _ h)
      · rcases List.mem_cons.1 h with h | h
        · exact .inr (h ▸ List.mem_cons_self ..)
        · exact (ih h).imp_right (List.mem_cons_of_mem _)

theorem insertEntry_sorted {key : String} {v : α} {es : List (String × α)}
    (h : es.Pairwise (·.1 < ·.1)) : (insertEntry key v es).Pairwise (·.1 < ·.1) := by
  induction es with
  | nil => simp [insertEntry]
  | cons d es ih =>
    obtain ⟨hd, hes⟩ := List.pairwise_cons.1 h
    unfold insertEntry
    split
    · rename_i hlt
      refine List.pairwise_cons.2 ⟨fun e he => ?_, h⟩
      rcases List.mem_cons.1 he with rfl | he
      · exact hlt
      · exact String.lt_trans hlt (hd e he)
    · split
      · rename_i heq
        exact List.pairwise_cons.2 ⟨fun e he => heq ▸ hd e he, hes⟩
      · rename_i hnlt hne
        refine List.pairwise_cons.2 ⟨fun e he => ?_, ih hes⟩
        rcases mem_insertEntry he with rfl | he
        · exact String.lt_of_not_lt_of_ne hnlt hne
        · exact hd e he

/-- Gives a name a value. -/
def insert (m : SortedMap α) (key : String) (v : α) : SortedMap α :=
  ⟨insertEntry key v m.entries, insertEntry_sorted m.sorted⟩

/-- Keeps the entries with a property. -/
def filter (m : SortedMap α) (p : String → α → Bool) : SortedMap α :=
  ⟨m.entries.filter fun e => p e.1 e.2, m.sorted.filter _⟩

/-- Takes a name out. -/
def erase (m : SortedMap α) (key : String) : SortedMap α := m.filter fun k _ => k != key

/-- Changes the values. -/
def mapValues (m : SortedMap α) (f : α → β) : SortedMap β :=
  ⟨m.entries.map fun e => (e.1, f e.2), List.pairwise_map.2 m.sorted⟩

/-- The map of a list of entries, of which the last counts for each name. -/
def ofList (es : List (String × α)) : SortedMap α :=
  es.foldl (fun m e => m.insert e.1 e.2) empty

end SortedMap

/-- A set of names in increasing order. -/
structure NameSet where
  names : List String
  sorted : names.Pairwise (· < ·)
  deriving DecidableEq

namespace NameSet

/-- The set without names. -/
def empty : NameSet := ⟨[], .nil⟩

instance : Inhabited NameSet := ⟨empty⟩
instance : EmptyCollection NameSet := ⟨empty⟩
instance : Membership String NameSet := ⟨fun s x => x ∈ s.names⟩

def contains (s : NameSet) (name : String) : Bool := s.names.contains name

def isEmpty (s : NameSet) : Bool := s.names.isEmpty

/-- Puts a name at its place in a sorted list. -/
def insertName (name : String) : List String → List String
  | [] => [name]
  | n :: ns =>
    if name < n then name :: n :: ns
    else if name = n then n :: ns
    else n :: insertName name ns

theorem mem_insertName {name x : String} {ns : List String} :
    x ∈ insertName name ns ↔ x = name ∨ x ∈ ns := by
  induction ns with
  | nil => simp [insertName]
  | cons n ns ih =>
    unfold insertName
    split
    · simp
    · split
      · rename_i h; subst h; simp
      · simp only [List.mem_cons, ih]
        constructor
        · rintro (h | h | h)
          · exact .inr (.inl h)
          · exact .inl h
          · exact .inr (.inr h)
        · rintro (h | h | h)
          · exact .inr (.inl h)
          · exact .inl h
          · exact .inr (.inr h)

theorem insertName_sorted {name : String} {ns : List String} (h : ns.Pairwise (· < ·)) :
    (insertName name ns).Pairwise (· < ·) := by
  induction ns with
  | nil => simp [insertName]
  | cons n ns ih =>
    obtain ⟨hn, hns⟩ := List.pairwise_cons.1 h
    unfold insertName
    split
    · rename_i hlt
      refine List.pairwise_cons.2 ⟨fun x hx => ?_, h⟩
      rcases List.mem_cons.1 hx with rfl | hx
      · exact hlt
      · exact String.lt_trans hlt (hn x hx)
    · split
      · exact h
      · rename_i hnlt hne
        refine List.pairwise_cons.2 ⟨fun x hx => ?_, ih hns⟩
        rcases mem_insertName.1 hx with rfl | hx
        · exact String.lt_of_not_lt_of_ne hnlt hne
        · exact hn x hx

/-- Adds a name. -/
def insert (s : NameSet) (name : String) : NameSet :=
  ⟨insertName name s.names, insertName_sorted s.sorted⟩

@[simp] theorem mem_insert {s : NameSet} {name x : String} : x ∈ s.insert name ↔ x = name ∨ x ∈ s :=
  mem_insertName

/-- Adds a name if there is one. -/
def insert? (s : NameSet) : Option String → NameSet
  | some name => s.insert name
  | none => s

/-- The set of a list of names. -/
def ofList (names : List String) : NameSet := names.foldl insert empty

/-- All names of two sets. -/
def union (s t : NameSet) : NameSet := t.names.foldl insert s

end NameSet

end ApiScaffold
