/-
Splitting a text at a character and joining the pieces again are inverse to each other: the pieces of a text are the
only ones without that character which make the text when they are joined (`split_eq_iff`).
-/
import ApiScaffold.Text.Split
import Mathlib.Tactic

namespace ApiScaffold.Text

variable {sep : Char}

/-- The pieces are those that the library's function for lists gives. -/
theorem splitChars_eq_splitOn (sep : Char) : ∀ cs : List Char, splitChars sep cs = cs.splitOn sep
  | [] => rfl
  | c :: cs => by
    rw [List.splitOn_cons_eq_if_modifyHead, ← splitChars_eq_splitOn sep cs, splitChars]
    by_cases hc : c = sep
    · simp [hc]
    · rw [if_neg hc, if_neg (by simpa using hc)]
      -- even a text without characters has a first piece, which the character goes to
      rcases hpieces : splitChars sep cs with _ | ⟨piece, pieces⟩
      · rw [splitChars_eq_splitOn sep cs] at hpieces
        exact absurd hpieces (List.splitOn_ne_nil sep cs)
      · rfl

theorem splitChars_append (sep : Char) (bs as : List Char) :
    splitChars sep (as ++ sep :: bs) = splitChars sep as ++ splitChars sep bs := by
  simp only [splitChars_eq_splitOn]
  exact List.splitOn_append_cons_self as bs

theorem splitChars_of_not_mem {cs : List Char} (h : sep ∉ cs) : splitChars sep cs = [cs] := by
  rw [splitChars_eq_splitOn]
  exact List.splitOn_eq_singleton h

theorem not_mem_of_mem_splitChars {cs piece : List Char} (h : piece ∈ splitChars sep cs) : sep ∉ piece := by
  induction cs generalizing piece with
  | nil =>
    obtain rfl : piece = [] := List.mem_singleton.1 h
    exact List.not_mem_nil
  | cons c cs ih =>
    unfold splitChars at h
    split at h
    · rcases List.mem_cons.1 h with rfl | h
      · exact List.not_mem_nil
      · exact ih h
    · rename_i hc
      split at h
      · obtain rfl : piece = [c] := List.mem_singleton.1 h
        exact fun hmem => hc (List.mem_singleton.1 hmem).symm
      · rename_i first pieces hpieces
        rw [hpieces] at ih
        rcases List.mem_cons.1 h with rfl | h
        · exact List.not_mem_cons_of_ne_of_not_mem (Ne.symm hc) (ih (List.mem_cons_self ..))
        · exact ih (List.mem_cons_of_mem _ h)

theorem mem_of_mem_splitChars {cs piece : List Char} (h : piece ∈ splitChars sep cs) {c : Char} (hc : c ∈ piece) :
    c ∈ cs := by
  induction cs generalizing piece with
  | nil =>
    obtain rfl : piece = [] := List.mem_singleton.1 h
    cases hc
  | cons d cs ih =>
    unfold splitChars at h
    split at h
    · rcases List.mem_cons.1 h with rfl | h
      · cases hc
      · exact List.mem_cons_of_mem _ (ih h hc)
    · split at h
      · obtain rfl : piece = [d] := List.mem_singleton.1 h
        exact List.mem_singleton.1 hc ▸ List.mem_cons_self ..
      · rename_i first pieces hpieces
        rw [hpieces] at ih
        rcases List.mem_cons.1 h with rfl | h
        · exact List.mem_cons.2 ((List.mem_cons.1 hc).imp_right (ih (List.mem_cons_self ..)))
        · exact List.mem_cons_of_mem _ (ih (List.mem_cons_of_mem _ h) hc)

/-- The pieces of a text are those without the separator that make the text when they are joined. -/
theorem split_eq_iff {s : String} {pieces : List String} (hne : pieces ≠ []) :
    split sep s = pieces ↔
      (∀ piece ∈ pieces, sep ∉ piece.toList) ∧ s.toList = [sep].intercalate (pieces.map String.toList) := by
  unfold split
  constructor
  · rintro rfl
    refine ⟨fun piece hpiece => ?_, ?_⟩
    · obtain ⟨cs, hcs, rfl⟩ := List.mem_map.1 hpiece
      rw [String.toList_ofList]
      exact not_mem_of_mem_splitChars hcs
    · rw [List.map_map, splitChars_eq_splitOn]
      simp [List.intercalate_splitOn]
  · rintro ⟨hfree, htext⟩
    have hfree' : ∀ cs ∈ pieces.map String.toList, sep ∉ cs := by simpa using hfree
    rw [htext, splitChars_eq_splitOn, List.splitOn_intercalate sep hfree' (by simpa using hne), List.map_map]
    simp

end ApiScaffold.Text
