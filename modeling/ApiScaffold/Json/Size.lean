/-
Members are smaller than the object they are part of, which bounds every walk down a document.
-/
import ApiScaffold.Json.Basic

namespace ApiScaffold

namespace Members

theorem mem_of_get? {ms : List (String × α)} {key : String} {v : α} (h : get? ms key = some v) :
    (key, v) ∈ ms := by
  induction ms with
  | nil => simp [get?] at h
  | cons m ms ih =>
    obtain ⟨k, w⟩ := m
    unfold get? at h ih
    rw [List.lookup_cons] at h
    split at h
    · rename_i heq
      have : key = k := by simpa using heq
      simp_all
    · exact List.mem_cons_of_mem _ (ih h)

end Members

namespace Json

theorem sizeOf_member_lt {ms : Members} {key : String} {v : Json} (h : (key, v) ∈ ms) :
    sizeOf v < sizeOf (Json.obj ms) := by
  have := List.sizeOf_lt_of_mem h
  simp only [Json.obj.sizeOf_spec, Prod.mk.sizeOf_spec] at this ⊢
  omega

theorem sizeOf_get?_lt {j v : Json} {key : String} (h : j.get? key = some v) : sizeOf v < sizeOf j := by
  cases j with
  | obj ms => exact sizeOf_member_lt (Members.mem_of_get? h)
  | _ => simp [get?] at h

end Json

end ApiScaffold
