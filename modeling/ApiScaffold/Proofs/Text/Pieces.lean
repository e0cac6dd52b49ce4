/-
Taking a text apart and putting it together again. Its pieces are its letters and digits, cut where something else
stands, so runs with a sign between them are the pieces of the text they make (`alphanumericPieces_intercalate`). A piece
without capitals is one word, and lower case leaves small letters alone, so pieces that are plain words are the words of
their text (`lowerWords_of_pieces`). Nothing is lost on the way: up to case, Pascal case keeps all letters and digits of a
text (`toLower_pascalCase`).
-/
import ApiScaffold.Proofs.Text.Humps

namespace ApiScaffold.Text

/-! ## Pieces -/

theorem alphanumericPieces_of_sign {c : Char} (h : isAlphanumeric c = false) (cs : List Char) :
    alphanumericPieces (c :: cs) = alphanumericPieces cs := by
  rw [alphanumericPieces.eq_def]
  simp [h]

/-- A run of letters and digits with a sign or nothing after it is a piece. -/
theorem alphanumericPieces_run {w rest : List Char} (hne : w ≠ []) (hw : ∀ c ∈ w, isAlphanumeric c = true)
    (hrest : ∀ c ∈ rest.head?, isAlphanumeric c = false) :
    alphanumericPieces (w ++ rest) = w :: alphanumericPieces rest := by
  induction w with
  | nil => exact absurd rfl hne
  | cons c w ih =>
    obtain ⟨hc, hw⟩ := List.forall_mem_cons.1 hw
    rcases w with _ | ⟨d, w⟩
    · rcases rest with _ | ⟨sign, rest⟩
      · simp [alphanumericPieces, hc]
      · have hsign : isAlphanumeric sign = false := hrest sign rfl
        rw [List.singleton_append, alphanumericPieces.eq_def]
        simp only [hc, if_true]
        generalize alphanumericPieces (sign :: rest) = pieces
        cases pieces <;> simp [hsign]
    · have hpieces := ih (List.cons_ne_nil _ _) hw
      rw [List.cons_append, List.cons_append, alphanumericPieces.eq_def]
      rw [List.cons_append] at hpieces
      simp [hc, hpieces, hw d (List.mem_cons_self ..)]

theorem alphanumericPieces_intercalate {sign : Char} (hsign : isAlphanumeric sign = false) {ws : List (List Char)}
    (h : ∀ w ∈ ws, w ≠ [] ∧ ∀ c ∈ w, isAlphanumeric c = true) : alphanumericPieces ([sign].intercalate ws) = ws := by
  induction ws with
  | nil => rfl
  | cons w ws ih =>
    obtain ⟨hw, hws⟩ := List.forall_mem_cons.1 h
    rcases ws with _ | ⟨v, ws⟩
    · rw [List.intercalate_singleton, ← List.append_nil w, alphanumericPieces_run hw.1 hw.2 (by simp)]
      simp [alphanumericPieces]
    · rw [List.intercalate_cons_cons, List.append_assoc, List.singleton_append,
        alphanumericPieces_run hw.1 hw.2 (by simpa using hsign), alphanumericPieces_of_sign hsign, ih hws]

/-- No letter and no digit is lost. -/
theorem flatten_alphanumericPieces (cs : List Char) : (alphanumericPieces cs).flatten = cs.filter isAlphanumeric := by
  induction cs with
  | nil => rfl
  | cons c cs ih =>
    by_cases hc : isAlphanumeric c = true
    · rw [List.filter_cons_of_pos hc, ← ih]
      rcases alphanumericPieces_cons hc cs with ⟨piece, pieces, hpieces, heq⟩ | heq
      · rw [heq, hpieces]
        rfl
      · rw [heq]
        rfl
    · rw [List.filter_cons_of_neg hc, alphanumericPieces_of_sign (Bool.not_eq_true _ ▸ hc), ih]

/-! ## Words -/

theorem flatten_cutPiece {mode : LetterCase} {done piece : List Char} (hne : piece ≠ []) :
    (cutPiece mode done piece).flatten = done.reverse ++ piece := by
  fun_induction cutPiece mode done piece with
  | case1 => exact absurd rfl hne
  | case2 mode done c => simp
  | case3 mode done c next rest cut ih => simp [ih]
  | case4 mode done c next rest _ cut ih => simp [ih]
  | case5 mode done c next rest _ _ ih => simp [ih]

theorem flatten_words (s : String) : (words s).flatten = s.toList.filter isAlphanumeric := by
  rw [← flatten_alphanumericPieces]
  unfold words
  have hne := fun piece (h : piece ∈ alphanumericPieces s.toList) => (mem_alphanumericPieces h).1
  generalize alphanumericPieces s.toList = pieces at hne ⊢
  induction pieces with
  | nil => rfl
  | cons piece pieces ih =>
    obtain ⟨hpiece, hpieces⟩ := List.forall_mem_cons.1 hne
    rw [List.flatMap_cons, List.flatten_append, flatten_cutPiece hpiece, ih hpieces]
    rfl

/-- Nothing is cut in a piece without capitals. -/
theorem cutPiece_of_not_isUppercase {mode : LetterCase} {done piece : List Char} (hne : piece ≠ [])
    (h : ∀ c ∈ piece, isUppercase c = false) : cutPiece mode done piece = [done.reverse ++ piece] := by
  fun_induction cutPiece mode done piece with
  | case1 => exact absurd rfl hne
  | case2 mode done c => simp
  | case3 mode done c next rest cut ih => simp [h next] at cut
  | case4 mode done c next rest _ cut ih => simp [h c] at cut
  | case5 mode done c next rest _ _ ih => simp [ih (by simp) fun d hd => h d (List.mem_cons_of_mem _ hd)]

/-! ## Plain words -/

/-- What is known of a small ASCII letter or a digit. -/
structure PlainChar (c : Char) : Prop where
  ascii : c.toNat < 128
  alphanumeric : isAlphanumeric c = true
  alphanum : c.isAlphanum = true
  small : isUppercase c = false
  lower : c.toLower = c
  raised : c.toUpper.isAlphanum = true ∧ c.toUpper.toLower = c

theorem Plain.char {w : List Char} (h : Plain w) : ∀ c ∈ w, PlainChar c := by
  intro c hc
  have hall : ∀ n < 128, (Char.ofNat n).isLower = true ∨ (Char.ofNat n).isDigit = true →
      isAlphanumeric (Char.ofNat n) = true ∧ (Char.ofNat n).isAlphanum = true ∧ isUppercase (Char.ofNat n) = false ∧
        (Char.ofNat n).toLower = Char.ofNat n ∧
        (Char.ofNat n).toUpper.isAlphanum = true ∧ (Char.ofNat n).toUpper.toLower = Char.ofNat n := by decide
  have hascii : c.toNat < 128 := (h.2 c hc).elim ascii_of_isLower ascii_of_isDigit
  obtain ⟨halphanumeric, halphanum, hsmall, hlower, hraised⟩ := ascii_induction
    (P := fun c => c.isLower = true ∨ c.isDigit = true → isAlphanumeric c = true ∧ c.isAlphanum = true ∧
      isUppercase c = false ∧ c.toLower = c ∧ c.toUpper.isAlphanum = true ∧ c.toUpper.toLower = c) hall hascii (h.2 c hc)
  exact ⟨hascii, halphanumeric, halphanum, hsmall, hlower, hraised⟩

theorem map_toLower_of_plain {w : List Char} (h : ∀ c ∈ w, PlainChar c) : w.map Char.toLower = w :=
  (List.map_congr_left fun c hc => (h c hc).lower).trans (List.map_id w)

theorem lowerWord_of_plain {w : List Char} (h : Plain w) : lowerWord w = w := by
  rw [lowerWord_ascii fun c hc => (h.char c hc).ascii, map_toLower_of_plain h.char]

/-- Texts with the same pieces have the same words. -/
theorem words_congr {s t : String} (h : alphanumericPieces s.toList = alphanumericPieces t.toList) :
    words s = words t := by
  unfold words
  rw [h]

/-- Pieces that are plain words are the words of their text. -/
theorem lowerWords_of_pieces {s : String} {ws : List (List Char)} (h : ∀ w ∈ ws, Plain w)
    (pieces : alphanumericPieces s.toList = ws) : lowerWords s = ws := by
  unfold lowerWords words
  rw [pieces]
  clear pieces
  induction ws with
  | nil => rfl
  | cons w ws ih =>
    obtain ⟨hw, hws⟩ := List.forall_mem_cons.1 h
    rw [List.flatMap_cons, cutPiece_of_not_isUppercase hw.1 fun c hc => (hw.char c hc).small, List.map_append, ih hws]
    simp [lowerWord_of_plain hw]

theorem alphanumericPieces_of_plain {ws : List (List Char)} (h : ∀ w ∈ ws, Plain w) :
    alphanumericPieces (['_'].intercalate ws) = ws :=
  alphanumericPieces_intercalate (by decide) fun w hw => ⟨(h w hw).1, fun c hc => ((h w hw).char c hc).alphanumeric⟩

/-! ## Raised words -/

/-- A raised word consists of ASCII letters and digits, and is known from them up to case. -/
theorem Plain.raised {w : List Char} (h : Plain w) :
    (∀ c ∈ raise w, c.isAlphanum = true) ∧ (raise w).map Char.toLower = w := by
  rcases w with _ | ⟨c, cs⟩
  · exact absurd rfl h.1
  obtain ⟨hc, hcs⟩ := List.forall_mem_cons.1 h.char
  refine ⟨List.forall_mem_cons.2 ⟨hc.raised.1, fun d hd => (hcs d hd).alphanum⟩, ?_⟩
  rw [raise, List.map_cons, hc.raised.2, map_toLower_of_plain hcs]

theorem toList_pascalCase {s : String} (ascii : Ascii s) : (pascalCase s).toList = (lowerWords s).flatMap raise := by
  unfold pascalCase lowerWords
  rw [String.toList_ofList, List.flatMap_map]
  exact List.flatMap_congr fun w hw => capitalizeWord_ascii fun c hc => ascii c ((mem_words hw).2 c hc).1

theorem isAlphanum_of_mem_pascalCase {s : String} (ascii : Ascii s) {c : Char} (h : c ∈ (pascalCase s).toList) :
    c.isAlphanum = true := by
  rw [toList_pascalCase ascii] at h
  obtain ⟨w, hw, hc⟩ := List.mem_flatMap.1 h
  exact (plain_of_mem_lowerWords ascii hw).raised.1 c hc

/-- Up to case, Pascal case keeps the letters and digits of a text and nothing else. -/
theorem toLower_pascalCase {s : String} (ascii : Ascii s) :
    (pascalCase s).toList.map Char.toLower = (s.toList.filter Char.isAlphanum).map Char.toLower := by
  have hraised : ((lowerWords s).flatMap raise).map Char.toLower = (lowerWords s).flatten := by
    rw [List.map_flatMap, ← List.flatMap_id]
    exact List.flatMap_congr fun w hw => (plain_of_mem_lowerWords ascii hw).raised.2
  have hlower : lowerWords s = (words s).map (List.map Char.toLower) :=
    List.map_congr_left fun w hw => lowerWord_ascii fun c hc => ascii c ((mem_words hw).2 c hc).1
  have hfilter : s.toList.filter isAlphanumeric = s.toList.filter Char.isAlphanum := by
    refine List.filter_congr fun c hc => ?_
    unfold isAlphanumeric
    rw [if_pos (ascii c hc)]
  rw [toList_pascalCase ascii, hraised, hlower, ← List.map_flatten, flatten_words, hfilter]

end ApiScaffold.Text
