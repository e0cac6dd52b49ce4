/-
Safe identifiers. The identifier of a text is written from the words of the text in lower case and nothing else
(`toList_snakeIdentifier`). Where these are plain, as those of an ASCII text are, it is safe as a name, and its own
words are the same again, so the identifier of an identifier is itself (`snakeIdentifier_safe`).
-/
import ApiScaffold.Naming
import ApiScaffold.Proofs.Text.Pieces

namespace ApiScaffold.Naming

open Text

/-- What is safe as the name of a file or module. -/
structure SafeIdentifier (s : String) : Prop where
  /-- A small letter or an underscore comes first, and small letters, digits and underscores follow. -/
  spelled : ∃ c cs, s.toList = c :: cs ∧ (c.isLower = true ∨ c = '_') ∧
    ∀ d ∈ cs, d.isLower = true ∨ d.isDigit = true ∨ d = '_'
  /-- No two underscores stand together. -/
  single : ¬ ['_', '_'] <:+: s.toList
  /-- An underscore does not come last. -/
  closed : s.toList.getLast? ≠ some '_'

/-! ## From words to the identifier -/

/-- The identifier that is written for what a text is in lower case with underscores. -/
def identifierChars (snake : List Char) : List Char :=
  if snake = [] then "unnamed".toList else if startsWithDigit snake then '_' :: snake else snake

/-- Bringing a text into pieces with underscores between them does not change the pieces. -/
theorem alphanumericPieces_sanitize (cs : List Char) : alphanumericPieces (sanitize cs) = alphanumericPieces cs :=
  alphanumericPieces_intercalate (by decide) fun _ hpiece =>
    ⟨(mem_alphanumericPieces hpiece).1, fun c hc => ((mem_alphanumericPieces hpiece).2 c hc).2⟩

theorem words_sanitize (cs : List Char) : words (String.ofList (sanitize cs)) = words (String.ofList cs) := by
  apply words_congr
  rw [String.toList_ofList, String.toList_ofList, alphanumericPieces_sanitize]

theorem toList_snakeIdentifier (name : String) :
    (snakeIdentifier name).toList = identifierChars (['_'].intercalate (lowerWords name)) := by
  have hsnake : (snakeCase (String.ofList (sanitize name.toList))).toList = ['_'].intercalate (lowerWords name) := by
    rw [toList_snakeCase, lowerWords, words_sanitize, String.ofList_toList]
    rfl
  rw [← hsnake]
  unfold snakeIdentifier
  generalize snakeCase (String.ofList (sanitize name.toList)) = snake
  unfold identifierChars
  rcases hchars : snake.toList with _ | ⟨c, cs⟩
  · simp [hchars]
  · by_cases digit : c.isDigit = true <;> simp [hchars, startsWithDigit, digit]

/-! ## Plain words between underscores -/

/-- A text made of plain words with one underscore between them. -/
structure Joined (cs : List Char) : Prop where
  first : ∃ c rest, cs = c :: rest ∧ (c.isLower = true ∨ c.isDigit = true)
  chars : ∀ c ∈ cs, c.isLower = true ∨ c.isDigit = true ∨ c = '_'
  single : ¬ ['_', '_'] <:+: cs
  closed : cs.getLast? ≠ some '_'

theorem underscore_not_mem {w : List Char} (h : Plain w) : '_' ∉ w := fun hmem =>
  absurd (h.2 '_' hmem) (by decide)

/-- What has no underscore adds no two of them. -/
theorem not_infix_append {w rest : List Char} (hw : '_' ∉ w) (hrest : ¬ ['_', '_'] <:+: rest) :
    ¬ ['_', '_'] <:+: w ++ rest := by
  induction w with
  | nil => exact hrest
  | cons c w ih =>
    rw [List.mem_cons, not_or] at hw
    rw [List.cons_append, List.infix_cons_iff, List.cons_prefix_cons]
    rintro (⟨hc, -⟩ | hinfix)
    · exact hw.1 hc
    · exact ih hw.2 hinfix

/-- An underscore before something else adds no two of them. -/
theorem Joined.not_infix_cons {cs : List Char} (h : Joined cs) : ¬ ['_', '_'] <:+: '_' :: cs := by
  obtain ⟨c, rest, rfl, hc⟩ := h.first
  rw [List.infix_cons_iff, List.cons_prefix_cons, List.cons_prefix_cons]
  rintro (⟨-, rfl, -⟩ | hinfix)
  · exact absurd hc (by decide)
  · exact h.single hinfix

theorem joined_of_plain {w : List Char} (h : Plain w) : Joined w where
  first := by
    rcases w with _ | ⟨c, rest⟩
    · exact absurd rfl h.1
    · exact ⟨c, rest, rfl, h.2 c (List.mem_cons_self ..)⟩
  chars c hc := (h.2 c hc).imp_right .inl
  single := by
    rw [← List.append_nil w]
    exact not_infix_append (underscore_not_mem h) (by simp)
  closed hlast := underscore_not_mem h (List.mem_of_getLast? hlast)

theorem Joined.cons {w cs : List Char} (hw : Plain w) (h : Joined cs) : Joined (w ++ '_' :: cs) where
  first := by
    obtain ⟨c, rest, rfl, hc⟩ := (joined_of_plain hw).first
    exact ⟨c, rest ++ '_' :: cs, rfl, hc⟩
  chars c hc := by
    rcases List.mem_append.1 hc with hc | hc
    · exact (joined_of_plain hw).chars c hc
    · rcases List.mem_cons.1 hc with rfl | hc
      · exact .inr (.inr rfl)
      · exact h.chars c hc
  single := not_infix_append (underscore_not_mem hw) h.not_infix_cons
  closed := by
    obtain ⟨c, rest, rfl, -⟩ := h.first
    rw [List.getLast?_append_of_ne_nil _ (List.cons_ne_nil _ _), List.getLast?_cons_cons]
    exact h.closed

theorem joined_intercalate {w : List Char} {ws : List (List Char)} (h : ∀ v ∈ w :: ws, Plain v) :
    Joined (['_'].intercalate (w :: ws)) := by
  induction ws generalizing w with
  | nil =>
    rw [List.intercalate_singleton]
    exact joined_of_plain (h w (List.mem_cons_self ..))
  | cons v ws ih =>
    obtain ⟨hw, hws⟩ := List.forall_mem_cons.1 h
    rw [List.intercalate_cons_cons, List.append_assoc]
    exact (ih hws).cons hw

/-! ## The identifier -/

/-- Plain words make a safe identifier: one that a digit would begin begins with an underscore. -/
theorem safe_identifierChars {ws : List (List Char)} (h : ∀ w ∈ ws, Plain w) :
    SafeIdentifier (String.ofList (identifierChars (['_'].intercalate ws))) := by
  rcases ws with _ | ⟨w, ws⟩
  · have hsmall : "nnamed".toList.all Char.isLower = true := by decide
    exact ⟨⟨'u', "nnamed".toList, rfl, by decide, fun d hd => .inl (List.all_eq_true.1 hsmall d hd)⟩, by decide, by decide⟩
  have joined := joined_intercalate h
  obtain ⟨c, cs, heq, hc⟩ := joined.first
  rw [heq] at joined ⊢
  unfold identifierChars
  rw [if_neg (List.cons_ne_nil c cs)]
  split
  · refine ⟨⟨'_', c :: cs, String.toList_ofList, .inr rfl, joined.chars⟩, ?_, ?_⟩
    · rw [String.toList_ofList]
      exact joined.not_infix_cons
    · rw [String.toList_ofList, List.getLast?_cons_cons]
      exact joined.closed
  · rename_i letter
    have hletter : ¬ c.isDigit = true := by simpa [startsWithDigit] using letter
    refine ⟨⟨c, cs, String.toList_ofList, .inl (hc.resolve_right hletter), ?_⟩, ?_, ?_⟩
    · exact fun d hd => joined.chars d (List.mem_cons_of_mem _ hd)
    · rw [String.toList_ofList]
      exact joined.single
    · rw [String.toList_ofList]
      exact joined.closed

/-- The words of an identifier are those it was written from. -/
theorem lowerWords_identifierChars {ws : List (List Char)} (h : ∀ w ∈ ws, Plain w) (hne : ws ≠ []) :
    lowerWords (String.ofList (identifierChars (['_'].intercalate ws))) = ws := by
  refine lowerWords_of_pieces h ?_
  rw [String.toList_ofList]
  rcases ws with _ | ⟨w, ws⟩
  · exact absurd rfl hne
  obtain ⟨c, cs, heq, -⟩ := (joined_intercalate h).first
  have hpieces := alphanumericPieces_of_plain h
  rw [heq] at hpieces ⊢
  unfold identifierChars
  rw [if_neg (List.cons_ne_nil c cs)]
  split
  · rw [alphanumericPieces_of_sign (by decide), hpieces]
  · exact hpieces

/-- The identifier of an ASCII text is safe. It has the words of the text, where the text has any, and it is its own
identifier. -/
theorem snakeIdentifier_safe {name : String} (ascii : Ascii name) :
    SafeIdentifier (snakeIdentifier name) ∧
      (lowerWords name ≠ [] → lowerWords (snakeIdentifier name) = lowerWords name) ∧
      snakeIdentifier (snakeIdentifier name) = snakeIdentifier name := by
  have plain : ∀ w ∈ lowerWords name, Plain w := fun w hw => plain_of_mem_lowerWords ascii hw
  have heq : snakeIdentifier name = String.ofList (identifierChars (['_'].intercalate (lowerWords name))) := by
    rw [← toList_snakeIdentifier, String.ofList_toList]
  have hwords : lowerWords name ≠ [] → lowerWords (snakeIdentifier name) = lowerWords name := by
    rw [heq]
    exact lowerWords_identifierChars plain
  refine ⟨heq ▸ safe_identifierChars plain, hwords, ?_⟩
  by_cases hnone : lowerWords name = []
  · -- a text without words gets a name of one word
    rw [heq, hnone]
    decide +kernel
  · rw [← String.toList_inj, toList_snakeIdentifier, toList_snakeIdentifier, hwords hnone]

/-- A name that begins with a digit, has other signs at both ends and words that only capitals mark. -/
theorem snakeIdentifier_safe_store : Ascii "--3D Pet_storeURLs!" ∧
    SafeIdentifier (snakeIdentifier "--3D Pet_storeURLs!") ∧
    snakeIdentifier "--3D Pet_storeURLs!" = "_3d_pet_store_ur_ls" ∧
    snakeIdentifier "_3d_pet_store_ur_ls" = "_3d_pet_store_ur_ls" := by
  have ascii : Ascii "--3D Pet_storeURLs!" := by decide +kernel
  have heq : snakeIdentifier "--3D Pet_storeURLs!" = "_3d_pet_store_ur_ls" := by decide +kernel
  obtain ⟨safe, -, again⟩ := snakeIdentifier_safe ascii
  exact ⟨ascii, safe, heq, heq ▸ again⟩

end ApiScaffold.Naming
