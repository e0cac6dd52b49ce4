/-
When two texts become one in `snakeCase`. A word is a nonempty run of letters and digits, so the underscores keep the
words apart, and two texts become one exactly if their words are the same in lower case (`snakeCase_eq_iff`).
-/
import ApiScaffold.Text.Words
import Mathlib.Tactic

namespace ApiScaffold.Text

/-! ## Words -/

/-- A letter or digit begins the piece after it, or is a piece of its own. -/
theorem alphanumericPieces_cons {c : Char} (h : isAlphanumeric c = true) (cs : List Char) :
    (∃ piece pieces, alphanumericPieces cs = piece :: pieces ∧ alphanumericPieces (c :: cs) = (c :: piece) :: pieces) ∨
      alphanumericPieces (c :: cs) = [c] :: alphanumericPieces cs := by
  rw [alphanumericPieces.eq_def (c :: cs)]
  simp only [h, if_true]
  split
  · rename_i d rest piece pieces hpieces
    split
    · exact .inl ⟨piece, pieces, hpieces, rfl⟩
    · exact .inr (by rw [hpieces])
  · exact .inr rfl

theorem mem_alphanumericPieces {cs piece : List Char} (h : piece ∈ alphanumericPieces cs) :
    piece ≠ [] ∧ ∀ c ∈ piece, c ∈ cs ∧ isAlphanumeric c = true := by
  induction cs generalizing piece with
  | nil => cases h
  | cons c cs ih =>
    have hrest : piece ∈ alphanumericPieces cs → piece ≠ [] ∧ ∀ d ∈ piece, d ∈ c :: cs ∧ isAlphanumeric d = true := by
      intro h
      obtain ⟨hne, hall⟩ := ih h
      exact ⟨hne, fun d hd => ⟨List.mem_cons_of_mem _ (hall d hd).1, (hall d hd).2⟩⟩
    by_cases halnum : isAlphanumeric c = true
    · rcases alphanumericPieces_cons halnum cs with ⟨first, pieces, hpieces, heq⟩ | heq
      · rw [heq] at h
        rcases List.mem_cons.1 h with rfl | h
        · obtain ⟨-, hall⟩ := ih (hpieces ▸ List.mem_cons_self ..)
          refine ⟨by simp, fun d hd => ?_⟩
          rcases List.mem_cons.1 hd with rfl | hd
          · exact ⟨List.mem_cons_self .., halnum⟩
          · exact ⟨List.mem_cons_of_mem _ (hall d hd).1, (hall d hd).2⟩
        · exact hrest (hpieces ▸ List.mem_cons_of_mem _ h)
      · rw [heq] at h
        rcases List.mem_cons.1 h with rfl | h
        · simp [halnum]
        · exact hrest h
    · rw [alphanumericPieces.eq_def] at h
      simp only [halnum] at h
      exact hrest h

/-- A piece is cut into words of its characters. The scanner has seen a case only if it holds a character. -/
theorem mem_cutPiece {mode : LetterCase} {done piece w : List Char} (held : mode ≠ .none → done ≠ [])
    (h : w ∈ cutPiece mode done piece) : w ≠ [] ∧ ∀ c ∈ w, c ∈ done ∨ c ∈ piece := by
  fun_induction cutPiece mode done piece with
  | case1 => cases h
  | case2 mode done c =>
    rw [List.mem_singleton.1 h]
    simp [or_comm]
  | case3 mode done c next rest cut ih =>
    rcases List.mem_cons.1 h with rfl | h
    · simp +contextual [or_imp]
    · obtain ⟨hne, hall⟩ := ih (by simp) h
      exact ⟨hne, fun d hd => .inr (List.mem_cons_of_mem _ ((hall d hd).resolve_left List.not_mem_nil))⟩
  | case4 mode done c next rest _ cut ih =>
    rcases List.mem_cons.1 h with rfl | h
    · -- what is cut off before the last capital of a run is not empty
      have hmode : mode ≠ .none := by rintro rfl; simp at cut
      simpa using ⟨held hmode, fun d hd => .inl hd⟩
    · obtain ⟨hne, hall⟩ := ih (by simp) h
      refine ⟨hne, fun d hd => .inr ?_⟩
      rcases hall d hd with hd | hd
      · exact List.mem_singleton.1 hd ▸ List.mem_cons_self ..
      · exact List.mem_cons_of_mem _ hd
  | case5 mode done c next rest _ _ ih =>
    obtain ⟨hne, hall⟩ := ih (by simp) h
    refine ⟨hne, fun d hd => ?_⟩
    rcases hall d hd with hd | hd
    · rcases List.mem_cons.1 hd with rfl | hd
      · exact .inr (List.mem_cons_self ..)
      · exact .inl hd
    · exact .inr (List.mem_cons_of_mem _ hd)

/-- A word is a nonempty run of letters and digits of its text. -/
theorem mem_words {s : String} {w : List Char} (h : w ∈ words s) :
    w ≠ [] ∧ ∀ c ∈ w, c ∈ s.toList ∧ isAlphanumeric c = true := by
  obtain ⟨piece, hpiece, hw⟩ := List.mem_flatMap.1 h
  obtain ⟨hne, hall⟩ := mem_cutPiece (by simp) hw
  exact ⟨hne, fun c hc => (mem_alphanumericPieces hpiece).2 c ((hall c hc).resolve_left List.not_mem_nil)⟩

/-! ## Lower case -/

/-- Lower case moves nothing that is no ASCII letter down to the underscore. -/
theorem underscore_lt_of_shift {n m : Nat} (h : shift? lowerShifts n = some m) : '_'.toNat < m := by
  have hall : ∀ e ∈ lowerShifts, ('_'.toNat : Int) < e.1 + e.2.2.2 := by decide +kernel
  unfold shift? at h
  obtain ⟨⟨lo, hi, step, d⟩, he, hm⟩ := Option.map_eq_some_iff.1 h
  have hlt : ('_'.toNat : Int) < lo + d := hall _ (List.mem_of_find?_eq_some he)
  have hin := List.find?_some he
  simp only [Bool.and_eq_true, decide_eq_true_eq] at hin hm
  omega

theorem toNat_of_ofNat_eq {m : Nat} {d : Char} (hd : d ≠ '\x00') (h : Char.ofNat m = d) : m = d.toNat := by
  subst h
  unfold Char.ofNat at hd ⊢
  by_cases hvalid : m.isValidChar
  · rw [dif_pos hvalid]
    rfl
  · rw [dif_neg hvalid] at hd
    exact absurd rfl hd

/-- Lower case brings in nothing up to the underscore. -/
theorem not_mem_lowerChar {c d : Char} (hlow : d.toNat ≤ '_'.toNat) (hd : d ≠ '\x00') (h : c ≠ d) : d ∉ lowerChar c := by
  unfold lowerChar
  split
  · rename_i hascii
    have hall : ∀ n < 128, (Char.ofNat n).toLower = Char.ofNat n ∨ '_'.toNat < (Char.ofNat n).toLower.toNat := by
      decide +kernel
    have hlower := hall c.toNat hascii
    rw [Char.ofNat_toNat] at hlower
    rw [List.mem_singleton]
    rintro rfl
    rcases hlower with hsame | hlt
    · exact h hsame.symm
    · exact absurd hlt hlow.not_gt
  · unfold mapCase
    split
    · rename_i cs hcs
      have hall : ∀ e ∈ lowerExpansions, ∀ n ∈ e.2, '_'.toNat < n := by decide
      obtain ⟨before, after, hsplit, -⟩ := List.lookup_eq_some_iff.1 hcs
      intro hmem
      obtain ⟨n, hn, hchar⟩ := List.mem_map.1 hmem
      have hlt := hall (c.toNat, cs) (hsplit ▸ List.mem_append_right _ (List.mem_cons_self ..)) n hn
      rw [toNat_of_ofNat_eq hd hchar] at hlt
      exact absurd hlt hlow.not_gt
    · rw [List.mem_singleton]
      rcases hshift : shift? lowerShifts c.toNat with _ | m
      · exact h.symm
      · intro heq
        have hlt := underscore_lt_of_shift hshift
        rw [toNat_of_ofNat_eq hd heq.symm] at hlt
        exact absurd hlt hlow.not_gt

theorem lowerChar_ne_nil (c : Char) : lowerChar c ≠ [] := by
  unfold lowerChar
  split
  · simp
  · unfold mapCase
    split
    · rename_i cs hcs
      have hall : ∀ e ∈ lowerExpansions, e.2.map Char.ofNat ≠ [] := by decide
      obtain ⟨before, after, hsplit, -⟩ := List.lookup_eq_some_iff.1 hcs
      exact hall (c.toNat, cs) (hsplit ▸ List.mem_append_right _ (List.mem_cons_self ..))
    · simp

theorem lowerWord_ne_nil {w : List Char} (h : w ≠ []) : lowerWord w ≠ [] := by
  unfold lowerWord
  split
  · exact absurd rfl h
  · simp
  · simp [lowerChar_ne_nil]

theorem not_mem_lowerWord {w : List Char} {d : Char} (hlow : d.toNat ≤ '_'.toNat) (hd : d ≠ '\x00') (h : d ∉ w) :
    d ∉ lowerWord w := by
  fun_induction lowerWord w with
  | case1 => simp
  | case2 =>
    rw [List.mem_singleton]
    rintro rfl
    exact absurd hlow (by decide)
  | case3 c cs _ ih =>
    rw [List.mem_cons, not_or] at h
    rw [List.mem_append, not_or]
    exact ⟨not_mem_lowerChar hlow hd (Ne.symm h.1), ih h.2⟩

/-! ## Words between underscores -/

/-- The words of a text in lower case. -/
def lowerWords (s : String) : List (List Char) := (words s).map lowerWord

/-- A word in lower case has no sign up to the underscore that is no letter or digit. -/
theorem not_mem_of_mem_lowerWords {s : String} {w : List Char} (h : w ∈ lowerWords s) {d : Char}
    (hlow : d.toNat ≤ '_'.toNat) (hd : d ≠ '\x00') (hsign : isAlphanumeric d = false) : d ∉ w := by
  obtain ⟨v, hv, rfl⟩ := List.mem_map.1 h
  refine not_mem_lowerWord hlow hd fun hmem => ?_
  exact Bool.false_ne_true (hsign.symm.trans ((mem_words hv).2 d hmem).2)

theorem mem_lowerWords {s : String} {w : List Char} (h : w ∈ lowerWords s) : w ≠ [] ∧ '_' ∉ w := by
  refine ⟨?_, not_mem_of_mem_lowerWords h (Nat.le_refl _) (by decide) (by decide)⟩
  obtain ⟨v, hv, rfl⟩ := List.mem_map.1 h
  exact lowerWord_ne_nil (mem_words hv).1

theorem snakeChars_eq (ws : List (List Char)) : snakeChars ws = ['_'].intercalate (ws.map lowerWord) := by
  fun_induction snakeChars ws with
  | case1 => rfl
  | case2 w => simp
  | case3 w ws hne ih =>
    have hws : ws.map lowerWord ≠ [] := fun hnil => hne (List.map_eq_nil_iff.1 hnil)
    rw [List.map_cons, List.intercalate_cons_of_ne_nil hws, ih]
    simp

theorem toList_snakeCase (s : String) : (snakeCase s).toList = ['_'].intercalate (lowerWords s) := by
  unfold snakeCase
  rw [String.toList_ofList, snakeChars_eq]
  rfl

/-- Nothing but underscores stands between the words. -/
theorem slash_not_mem_snakeCase (s : String) : '/' ∉ (snakeCase s).toList := by
  rw [toList_snakeCase]
  have hwords : ∀ w ∈ lowerWords s, '/' ∉ w := fun w hw =>
    not_mem_of_mem_lowerWords hw (by decide) (by decide) (by decide)
  generalize lowerWords s = words at hwords ⊢
  induction words with
  | nil => simp
  | cons w ws ih =>
    obtain ⟨hw, hws⟩ := List.forall_mem_cons.1 hwords
    rcases ws with _ | ⟨v, ws⟩
    · simpa using hw
    · rw [List.intercalate_cons_cons]
      simpa [hw] using ih hws

/-- The words of a text in lower case stand between the underscores. -/
theorem lowerWords_eq (s : String) :
    lowerWords s = if (snakeCase s).toList = [] then [] else (snakeCase s).toList.splitOn '_' := by
  rw [toList_snakeCase]
  have hall := fun w (hw : w ∈ lowerWords s) => mem_lowerWords hw
  rcases hwords : lowerWords s with _ | ⟨w, ws⟩
  · simp
  · rw [hwords] at hall
    have hne : ['_'].intercalate (w :: ws) ≠ [] := by
      cases ws with
      | nil => simpa using (hall w (List.mem_cons_self ..)).1
      | cons v ws => simp [List.intercalate_cons_cons]
    rw [if_neg hne, List.splitOn_intercalate '_' (fun v hv => (hall v hv).2) (by simp)]

/-- Two texts are the same in lower case with underscores exactly if their words are the same up to case. -/
theorem snakeCase_eq_iff {a b : String} : snakeCase a = snakeCase b ↔ lowerWords a = lowerWords b := by
  constructor
  · intro h
    rw [lowerWords_eq, lowerWords_eq, h]
  · intro h
    rw [← String.toList_inj, toList_snakeCase, toList_snakeCase, h]

end ApiScaffold.Text
