/-
Members through their look-ups: what putting a member in does to the value of every key, and that of several
members of one name the last one counts.
-/
import ApiScaffold.Json.Basic
import Mathlib.Tactic

namespace ApiScaffold.Members

variable {α : Type}

/-- No two members have the same name. -/
def UniqueNames (ms : List (String × α)) : Prop := (ms.map (·.1)).Nodup

instance (ms : List (String × α)) : Decidable (UniqueNames ms) := inferInstanceAs (Decidable (List.Nodup _))

theorem lookup_map_replace (key : String) (v : α) (k : String) :
    ∀ ms : List (String × α), (ms.map fun m => if m.1 == key then (key, v) else m).lookup k =
      if k = key then (ms.lookup key).map fun _ => v else ms.lookup k
  | [] => by simp
  | (l, w) :: ms => by
    have ih := lookup_map_replace key v k ms
    rw [List.map_cons]
    -- the member at the front is replaced, or it has another key
    by_cases hl : l = key
    · subst hl
      by_cases hk : k = l
      · simp [hk]
      · have hb : (k == l) = false := by simpa using hk
        simp only [beq_self_eq_true, if_true, List.lookup_cons, hb, ih, if_neg hk]
    · have hl' : (l == key) = false := by simpa using hl
      have hkey : (key == l) = false := by simpa using fun h : key = l => hl h.symm
      simp only [hl', Bool.false_eq_true, if_false, List.lookup_cons, hkey, ih]
      by_cases hk : k = l
      · subst hk
        simp [hl]
      · have hb : (k == l) = false := by simpa using hk
        simp only [hb]

theorem get?_insert (ms : List (String × α)) (key : String) (v : α) (k : String) :
    get? (insert ms key v) k = if k = key then some v else get? ms k := by
  unfold insert has get?
  rcases hget : ms.lookup key with _ | w
  · simp only [Option.isSome_none, Bool.false_eq_true, if_false, List.lookup_append]
    by_cases hk : k = key
    · simp [hk, hget]
    · have hb : (k == key) = false := by simpa using hk
      simp [List.lookup_cons, hb, hk]
  · simp only [Option.isSome_some, if_true, lookup_map_replace, hget, Option.map_some]

/-- Members put in one by one hide those that were there. -/
theorem get?_foldl_insert (acc : List (String × α)) (k : String) (ms : List (String × α)) :
    get? (ms.foldl (fun acc m => insert acc m.1 m.2) acc) k = (get? (distinct ms) k).or (get? acc k) := by
  induction ms using List.reverseRecOn with
  | nil => rfl
  | append_singleton ms m ih =>
    unfold distinct at ih ⊢
    rw [List.foldl_concat, List.foldl_concat, get?_insert, get?_insert, ih]
    split <;> rfl

theorem mem_of_get?_distinct {k : String} {v : α} {ms : List (String × α)} (h : get? (distinct ms) k = some v) :
    (k, v) ∈ ms := by
  induction ms using List.reverseRecOn with
  | nil => cases h
  | append_singleton ms m ih =>
    unfold distinct at ih h
    rw [List.foldl_concat, get?_insert] at h
    rw [List.mem_append]
    split at h
    · rename_i hk
      cases h
      exact .inr (hk ▸ List.mem_singleton_self _)
    · exact .inl (ih h)

theorem exists_mem_cons {P : α → Prop} {key : String} {v : α} {ms : List (String × α)} :
    (∃ k w, (k, w) ∈ (key, v) :: ms ∧ P w) ↔ P v ∨ ∃ k w, (k, w) ∈ ms ∧ P w := by
  simp only [List.mem_cons, Prod.mk.injEq]
  constructor
  · rintro ⟨_, _, ⟨rfl, rfl⟩ | hmem, hP⟩
    · exact .inl hP
    · exact .inr ⟨_, _, hmem, hP⟩
  · rintro (hP | ⟨_, _, hmem, hP⟩)
    · exact ⟨_, _, .inl ⟨rfl, rfl⟩, hP⟩
    · exact ⟨_, _, .inr hmem, hP⟩

end ApiScaffold.Members
