/-
Values whose objects have distinct names throughout (`Json.Proper`). Making names distinct gives such a value, and so
does reading one from JSON or YAML, so the paths and the components of a document that was read have distinct names.
-/
import ApiScaffold.Document.Load
import ApiScaffold.Json.Size
import ApiScaffold.Proofs.Except
import ApiScaffold.Proofs.Json.Members

namespace ApiScaffold

namespace Members

variable {α : Type}

theorem map_fst_replace (ms : List (String × α)) (key : String) (v : α) :
    (ms.map fun m => if m.1 == key then (key, v) else m).map (·.1) = ms.map (·.1) := by
  rw [List.map_map]
  refine List.map_congr_left fun m _ => ?_
  by_cases hm : m.1 = key <;> simp [hm]

theorem uniqueNames_insert {ms : List (String × α)} (h : UniqueNames ms) (key : String) (v : α) :
    UniqueNames (insert ms key v) := by
  unfold UniqueNames insert at *
  split
  · rwa [map_fst_replace]
  · rename_i absent
    have hfree : key ∉ ms.map (·.1) := by
      intro hmem
      obtain ⟨m, hm, rfl⟩ := List.mem_map.1 hmem
      rcases hget : ms.lookup m.1 with _ | w
      · simpa using List.lookup_eq_none_iff.1 hget m hm
      · exact absent (by simp [has, get?, hget])
    rw [List.map_append]
    refine List.nodup_append.2 ⟨h, List.nodup_singleton _, fun a ha b hb heq => hfree ?_⟩
    rw [heq, List.mem_singleton.1 hb] at ha
    exact ha

theorem mem_insert {ms : List (String × α)} {key : String} {v : α} {m : String × α} (h : m ∈ insert ms key v) :
    m = (key, v) ∨ m ∈ ms := by
  unfold insert at h
  split at h
  · obtain ⟨m', hm', rfl⟩ := List.mem_map.1 h
    split
    · exact .inl rfl
    · exact .inr hm'
  · exact (List.mem_append.1 h).symm.imp_left List.mem_singleton.1

theorem uniqueNames_distinct (ms : List (String × α)) : UniqueNames (distinct ms) := by
  induction ms using List.reverseRecOn with
  | nil => exact List.nodup_nil
  | append_singleton ms m ih =>
    unfold distinct at ih ⊢
    rw [List.foldl_concat]
    exact uniqueNames_insert ih m.1 m.2

theorem mem_of_mem_distinct {ms : List (String × α)} {m : String × α} (h : m ∈ distinct ms) : m ∈ ms := by
  induction ms using List.reverseRecOn with
  | nil => exact h
  | append_singleton ms m' ih =>
    unfold distinct at ih h
    rw [List.foldl_concat] at h
    rw [List.mem_append, List.mem_singleton]
    exact (mem_insert h).symm.imp_left ih

end Members

namespace Json

/-- Every object has distinct names, those inside it included. -/
inductive Proper : Json → Prop
  | null : Proper .null
  | bool (b : Bool) : Proper (.bool b)
  | num (n : Number) : Proper (.num n)
  | str (s : String) : Proper (.str s)
  | arr {items : List Json} (each : ∀ j ∈ items, Proper j) : Proper (.arr items)
  | obj {ms : Members} (unique : Members.UniqueNames ms) (each : ∀ m ∈ ms, Proper m.2) : Proper (.obj ms)

theorem Proper.distinct {ms : Members} (h : ∀ m ∈ ms, Proper m.2) : Proper (.obj (Members.distinct ms)) :=
  .obj (Members.uniqueNames_distinct ms) fun m hm => h m (Members.mem_of_mem_distinct hm)

mutual

theorem proper_canonical : ∀ j : Json, (canonical j).Proper
  | .null => .null
  | .bool b => .bool b
  | .num n => .num n
  | .str s => .str s
  | .arr xs => .arr (proper_canonicalItems xs)
  | .obj ms => .distinct (proper_canonicalMembers ms)

theorem proper_canonicalItems : ∀ xs : List Json, ∀ j ∈ canonicalItems xs, j.Proper
  | [], _, h => by cases h
  | x :: xs, j, h => by
    rcases List.mem_cons.1 h with rfl | h
    · exact proper_canonical x
    · exact proper_canonicalItems xs j h

theorem proper_canonicalMembers : ∀ ms : Members, ∀ m ∈ canonicalMembers ms, m.2.Proper
  | [], _, h => by cases h
  | (k, v) :: ms, m, h => by
    rcases List.mem_cons.1 h with rfl | h
    · exact proper_canonical v
    · exact proper_canonicalMembers ms m h

end

theorem Proper.member {ms : Members} {m : String × Json} (h : (Json.obj ms).Proper) (hm : m ∈ ms) : m.2.Proper := by
  cases h with
  | obj _ each => exact each m hm

theorem Proper.get? {j v : Json} {key : String} (h : j.Proper) (hget : j.get? key = some v) : v.Proper := by
  cases j with
  | obj ms => exact h.member (Members.mem_of_get? hget)
  | _ => cases hget

theorem Proper.unique {ms : Members} (h : (Json.obj ms).Proper) : Members.UniqueNames ms := by
  cases h with
  | obj unique _ => exact unique

end Json

/-! ## Reading -/

namespace Yaml

section

variable {text : String} {j : Json}

theorem proper_integerValue? {n : Int} (h : integerValue? n = some j) : j.Proper := by
  unfold integerValue? at h
  split at h
  · cases h
    exact .num _
  · cases h

theorem proper_doubleValue? (h : doubleValue? text = some j) : j.Proper := by
  unfold doubleValue? at h
  split at h
  · cases h
    exact .null
  · obtain ⟨x, -, rfl⟩ := Option.map_eq_some_iff.1 h
    exact .num _

theorem proper_plainValue? (h : plainValue? text = some j) : j.Proper := by
  unfold plainValue? at h
  split at h
  · cases h
    exact .null
  split at h
  · cases h
    exact .bool _
  split at h
  · exact proper_integerValue? h
  · -- a text that is no double is a string
    rcases hx : (if isPadded (splitSign text.toList).2 then none else doubleValue? text) with _ | x <;>
      simp only [hx] at h <;> cases h
    · exact .str _
    · split at hx
      · cases hx
      · exact proper_doubleValue? hx

theorem proper_scalarValue? {style : Style} {tag? : Option String} (h : scalarValue? text style tag? = some j) :
    j.Proper := by
  unfold scalarValue? at h
  split at h
  · split at h
    · cases h
    split at h
    · obtain ⟨b, -, rfl⟩ := Option.map_eq_some_iff.1 h
      exact .bool b
    split at h
    · obtain ⟨n, -, h⟩ := Option.bind_eq_some_iff.1 h
      exact proper_integerValue? h
    split at h
    · exact proper_doubleValue? h
    split at h
    · split at h <;> cases h
      exact .null
    · cases h
      exact .str _
  · split at h
    · exact proper_plainValue? h
    · cases h
      exact .str _

end

namespace Node

mutual

theorem proper_toJson? : ∀ {n : Node} {j : Json}, n.toJson? = some j → j.Proper
  | .void, j, h => by
    cases h
    exact .null
  | .scalar .., j, h => proper_scalarValue? h
  | .sequence tag? items, j, h => by
    unfold toJson? at h
    split at h
    · cases h
    · obtain ⟨xs, hxs, rfl⟩ := Option.map_eq_some_iff.1 h
      exact .arr (proper_itemsJson? hxs)
  | .mapping tag? entries, j, h => by
    unfold toJson? at h
    split at h
    · cases h
    · obtain ⟨ms, hms, rfl⟩ := Option.map_eq_some_iff.1 h
      exact .distinct (proper_entriesJson? hms)
  | .alias _, j, h => by cases h

theorem proper_itemsJson? : ∀ {ns : List Node} {xs : List Json}, itemsJson? ns = some xs → ∀ j ∈ xs, j.Proper
  | [], xs, h => by
    cases h
    exact fun _ hj => by cases hj
  | n :: ns, xs, h => by
    obtain ⟨x, hx, h⟩ := Option.bind_eq_some_iff.1 h
    obtain ⟨xs', hxs, h⟩ := Option.bind_eq_some_iff.1 h
    cases h
    rintro j hj
    rcases List.mem_cons.1 hj with rfl | hj
    · exact proper_toJson? hx
    · exact proper_itemsJson? hxs j hj

theorem proper_entriesJson? : ∀ {es : List (Node × Node)} {ms : Members}, entriesJson? es = some ms →
    ∀ m ∈ ms, m.2.Proper
  | [], ms, h => by
    cases h
    exact fun _ hm => by cases hm
  | (k, v) :: es, ms, h => by
    obtain ⟨key, -, h⟩ := Option.bind_eq_some_iff.1 h
    obtain ⟨x, hx, h⟩ := Option.bind_eq_some_iff.1 h
    obtain ⟨ms', hms, h⟩ := Option.bind_eq_some_iff.1 h
    cases h
    rintro m hm
    rcases List.mem_cons.1 hm with rfl | hm
    · exact proper_toJson? hx
    · exact proper_entriesJson? hms m hm

end

end Node

end Yaml

namespace Document

theorem root_of_ofJson {root : Json} {doc : Document} (h : ofJson root = .ok doc) : doc.root = root := by
  unfold ofJson at h
  simp only at h
  split at h
  · cases h
  split at h
  · cases h
  split at h
  · cases h
  · obtain ⟨_, -, h⟩ := except_bind_ok h
    cases h
    rfl

/-- A document that is read has distinct names in every object. -/
theorem proper_of_read {form : DocumentForm} {text : String} {doc : Document} (h : read form text = .ok doc) :
    doc.root.Proper := by
  have hchecked : ∀ {root : Json}, root.Proper → (ofJson root).mapError LoadError.invalid = .ok doc →
      doc.root.Proper := by
    intro root hproper hroot
    rcases hdoc : ofJson root with e | d <;> rw [hdoc] at hroot <;> cases hroot
    exact root_of_ofJson hdoc ▸ hproper
  unfold read at h
  simp only at h
  split at h
  · rename_i root hread
    refine hchecked ?_ h
    cases form with
    | json =>
      obtain ⟨j, -, rfl⟩ := Option.map_eq_some_iff.1 hread
      exact Json.proper_canonical j
    | yaml =>
      obtain ⟨n, -, hvalue⟩ := Option.bind_eq_some_iff.1 hread
      exact Yaml.Node.proper_toJson? hvalue
  · cases h

theorem proper_paths {doc : Document} (h : doc.root.Proper) : (Json.obj doc.paths).Proper := by
  have none : (Json.obj []).Proper := .obj List.nodup_nil fun _ hm => by cases hm
  unfold paths Json.getObj?
  rcases hpaths : doc.root.get? "paths" with _ | j
  · exact none
  · cases j with
    | obj ms => exact h.get? hpaths
    | _ => exact none

/-- The paths of a proper document have distinct addresses. -/
theorem uniqueNames_paths {doc : Document} (h : doc.root.Proper) : Members.UniqueNames doc.paths :=
  (proper_paths h).unique

end Document

end ApiScaffold
