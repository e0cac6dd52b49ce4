/-
Lists that are sorted by a test. If keys tell apart the elements that the test cannot (`Sorts`), a list of elements
with distinct keys is in strict order once it is sorted, and the sorted list does not depend on the order it had.
-/
import ApiScaffold.SortedMap
import Mathlib.Tactic

namespace ApiScaffold

/-! ## Texts, then numbers -/

theorem lex_trans {s t u : String} {k m n : Nat} (h : s < t ∨ s = t ∧ k ≤ m) (h' : t < u ∨ t = u ∧ m ≤ n) :
    s < u ∨ s = u ∧ k ≤ n := by
  rcases h with h | ⟨rfl, h⟩
  · rcases h' with h' | ⟨rfl, -⟩
    · exact .inl (String.lt_trans h h')
    · exact .inl h
  · exact h'.imp_right fun ⟨heq, h'⟩ => ⟨heq, h.trans h'⟩

theorem lex_total (s t : String) (k m : Nat) : (s < t ∨ s = t ∧ k ≤ m) ∨ (t < s ∨ t = s ∧ m ≤ k) := by
  by_cases heq : s = t
  · exact (Nat.le_total k m).imp (fun h => .inr ⟨heq, h⟩) fun h => .inr ⟨heq.symm, h⟩
  · by_cases hlt : s < t
    · exact .inl (.inl hlt)
    · exact .inr (.inl (String.lt_of_not_lt_of_ne hlt heq))

theorem lex_asymm {s t : String} {k m : Nat} (h : s < t ∨ s = t ∧ k < m) : ¬ (t < s ∨ t = s ∧ m < k) := by
  rcases h with hlt | ⟨rfl, hlt⟩
  · rintro (hgt | ⟨heq, -⟩)
    · exact String.lt_irrefl _ (String.lt_trans hlt hgt)
    · exact String.lt_irrefl _ (heq ▸ hlt)
  · rintro (hgt | ⟨-, hgt⟩)
    · exact String.lt_irrefl _ hgt
    · exact absurd hgt (Nat.lt_asymm hlt)

/-! ## Sorting -/

/-- A test by which elements with distinct keys are put in a strict order. -/
structure Sorts {α κ : Type} (le : α → α → Bool) (lt : α → α → Prop) (key : α → κ) : Prop where
  trans : ∀ a b c, le a b = true → le b c = true → le a c = true
  total : ∀ a b, (le a b || le b a) = true
  strict : ∀ {a b}, le a b = true → lt a b ∨ key a = key b
  asymm : ∀ {a b}, lt a b → ¬ lt b a

section

variable {α κ : Type} {le : α → α → Bool} {lt : α → α → Prop} {key : α → κ}

theorem Sorts.pairwise (sorts : Sorts le lt key) {l : List α} (distinct : (l.map key).Nodup) :
    (l.mergeSort le).Pairwise lt := by
  have hle := List.pairwise_mergeSort sorts.trans sorts.total l
  have hne : (l.mergeSort le).Pairwise fun a b => key a ≠ key b :=
    List.pairwise_map.1 ((((List.mergeSort_perm l le).map key).nodup_iff).2 distinct)
  exact hle.imp₂ (fun a b h hne => (sorts.strict h).resolve_right hne) hne

theorem Sorts.congr (sorts : Sorts le lt key) {l l' : List α} (perm : l.Perm l') (distinct : (l.map key).Nodup) :
    l.mergeSort le = l'.mergeSort le := by
  have distinct' : (l'.map key).Nodup := (perm.map key).nodup_iff.1 distinct
  refine List.Perm.eq_of_pairwise (fun a b _ _ hab hba => absurd hba (sorts.asymm hab)) (sorts.pairwise distinct)
    (sorts.pairwise distinct') ?_
  exact ((List.mergeSort_perm ..).trans perm).trans (List.mergeSort_perm ..).symm

end

end ApiScaffold
