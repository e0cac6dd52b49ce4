/-
Brackets in types. An array type stands its element between brackets, so what is around balanced words is balanced
(`Wrapped.balanced`). No word of a language has a bracket but those for the two markers, which are words for array
types only by custom: a leaf whose type or format is a marker has a bracket for its type. These leaves apart, types
are balanced (`typeToken_balanced_iff`).
-/
import ApiScaffold.Backend.Choice
import ApiScaffold.Proofs.Schema.Token

namespace ApiScaffold

/-! ## Balance -/

/-- A character that opens and the one that closes. -/
structure Brackets where
  opening : Char
  closing : Char
  distinct : opening ≠ closing

namespace Brackets

variable {b : Brackets} {s t : String}

/-- Neither bracket stands in a text. -/
def Absent (b : Brackets) (s : String) : Prop := b.opening ∉ s.toList ∧ b.closing ∉ s.toList

instance : Decidable (b.Absent s) := inferInstanceAs (Decidable (_ ∧ _))

/-- As many brackets close as open, and none closes before it was opened. -/
structure Balanced (b : Brackets) (s : String) : Prop where
  ahead : ∀ p, p <+: s.toList → p.count b.closing ≤ p.count b.opening
  closed : s.toList.count b.opening = s.toList.count b.closing

theorem Absent.balanced (h : b.Absent s) : b.Balanced s where
  ahead := fun p hp => by
    rw [List.count_eq_zero_of_not_mem fun hmem => h.2 (hp.subset hmem)]
    exact Nat.zero_le _
  closed := by rw [List.count_eq_zero_of_not_mem h.1, List.count_eq_zero_of_not_mem h.2]

theorem prefix_append_cases {α : Type} {p l l' : List α} (h : p <+: l ++ l') :
    p <+: l ∨ ∃ q, q <+: l' ∧ p = l ++ q := by
  rcases List.prefix_or_prefix_of_prefix h (List.prefix_append l l') with h' | ⟨q, rfl⟩
  · exact .inl h'
  · exact .inr ⟨q, (List.prefix_append_right_inj l).1 h, rfl⟩

theorem Balanced.append (h : b.Balanced s) (h' : b.Balanced t) : b.Balanced (s ++ t) where
  ahead := fun p hp => by
    rw [String.toList_append] at hp
    rcases prefix_append_cases hp with hp | ⟨q, hq, rfl⟩
    · exact h.ahead p hp
    · have := h.closed
      have := h'.ahead q hq
      rw [List.count_append, List.count_append]
      omega
  closed := by
    rw [String.toList_append, List.count_append, List.count_append, h.closed, h'.closed]

/-- What is balanced is balanced between brackets. -/
theorem Balanced.between (h : b.Balanced s) : b.Balanced (b.opening.toString ++ s ++ b.closing.toString) where
  ahead := fun p hp => by
    have hclosed := h.closed
    have hchars : (b.opening.toString ++ s ++ b.closing.toString).toList = b.opening :: (s.toList ++ [b.closing]) := by
      simp
    rw [hchars] at hp
    rcases List.prefix_cons_iff.1 hp with rfl | ⟨q, rfl, hq⟩
    · exact Nat.le_refl 0
    rw [List.count_cons_of_ne b.distinct, List.count_cons_self]
    rcases prefix_append_cases hq with hq | ⟨r, hr, rfl⟩
    · have := h.ahead q hq
      omega
    · -- one bracket more is closed at most, and one more was opened
      have hle : r.count b.closing ≤ 1 := hr.sublist.count_le b.closing |>.trans (by simp)
      rw [List.count_append, List.count_append]
      omega
  closed := by
    simp [h.closed, List.count_append, b.distinct, b.distinct.symm]

/-! ## Array types -/

/-- A word in so many array types, each of them the word for arrays with what it holds between brackets. -/
def nested (b : Brackets) (array : String) (layers : Nat) (word : String) : String :=
  Text.repeated layers (array ++ b.opening.toString) ++ word ++ Text.repeated layers b.closing.toString

theorem nested_zero (b : Brackets) (array word : String) : b.nested array 0 word = word := by
  rw [nested, Text.repeated_zero, Text.repeated_zero, String.empty_append, String.append_empty]

theorem nested_succ (b : Brackets) (array : String) (layers : Nat) (word : String) :
    b.nested array (layers + 1) word =
      array ++ (b.opening.toString ++ b.nested array layers word ++ b.closing.toString) := by
  rw [nested, nested, Text.repeated_succ, Text.repeated_succ_right]
  simp only [String.append_assoc]

theorem Balanced.nested {array word : String} (h : b.Balanced word) (bare : b.Absent array) (layers : Nat) :
    b.Balanced (b.nested array layers word) := by
  induction layers with
  | zero => rwa [nested_zero]
  | succ layers ih =>
    rw [nested_succ]
    exact bare.balanced.append ih.between

/-- Array types have as many brackets of either kind around a word. -/
theorem count_nested {array : String} (bare : b.Absent array) (layers : Nat) (word : String) :
    (b.nested array layers word).toList.count b.opening = layers + word.toList.count b.opening ∧
      (b.nested array layers word).toList.count b.closing = layers + word.toList.count b.closing := by
  induction layers with
  | zero => rw [nested_zero, Nat.zero_add, Nat.zero_add]; exact ⟨rfl, rfl⟩
  | succ layers ih =>
    obtain ⟨hopening, hclosing⟩ := ih
    have := List.count_eq_zero_of_not_mem bare.1
    have := List.count_eq_zero_of_not_mem bare.2
    rw [nested_succ]
    simp [b.distinct, b.distinct.symm, *]
    omega

end Brackets

/-! ## The words of a language -/

/-- The markers of a table are the brackets, and no other word has one. -/
structure TypeTable.BracketedBy (types : TypeTable) (b : Brackets) : Prop where
  opening : types.word? "<" = some b.opening.toString
  closing : types.word? ">" = some b.closing.toString
  bare : ∀ m ∈ types.entries, m.1 ≠ "<" → m.1 ≠ ">" → b.Absent m.2

def Implementation.brackets : Implementation → Brackets
  | .flask => ⟨'[', ']', by decide⟩
  | .typeScript => ⟨'<', '>', by decide⟩

theorem Implementation.bracketedBy : ∀ i : Implementation, i.backend.words.BracketedBy i.brackets
  | .flask => ⟨by decide, by decide, by decide⟩
  | .typeScript => ⟨by decide, by decide, by decide⟩

namespace TypeTable.BracketedBy

variable {types : TypeTable} {b : Brackets}

theorem absent (bracketed : types.BracketedBy b) {key word : String} (known : types.word? key = some word)
    (notOpening : key ≠ "<") (notClosing : key ≠ ">") : b.Absent word :=
  bracketed.bare (key, word) (Members.mem_of_get? known) notOpening notClosing

theorem nested_of_wrapped (bracketed : types.BracketedBy b) {layers : Nat} {word token : String}
    (wrapped : types.Wrapped layers 0 word token) : ∃ array, b.Absent array ∧ token = b.nested array layers word := by
  obtain ⟨array, opening, closing, hwords, hclosing, rfl⟩ := wrapped
  rcases layers with _ | layers
  · refine ⟨"", by simp [Brackets.Absent], ?_⟩
    rw [b.nested_zero, Text.repeated_zero, Text.repeated_zero, String.empty_append, String.append_empty]
  · obtain ⟨harray, hopening⟩ := hwords (Nat.succ_pos layers)
    have hclosing := hclosing (Nat.succ_pos layers)
    rw [bracketed.opening] at hopening
    rw [bracketed.closing] at hclosing
    cases hopening
    cases hclosing
    exact ⟨array, bracketed.absent harray (by decide) (by decide), rfl⟩

end TypeTable.BracketedBy

namespace Schema

/-! ## Markers as types -/

/-- The key by which the word for a scalar is found: its format if the table knows it, or else its type. -/
def scalarKey (types : TypeTable) (node : Json) (type : String) : String :=
  ((node.getStr? "format").filter fun format => (types.word? format).isSome).getD type

theorem scalarWord?_eq (types : TypeTable) (node : Json) (type : String) :
    scalarWord? types node type = types.word? (scalarKey types node type) := by
  unfold scalarWord? scalarKey
  rcases node.getStr? "format" with _ | format
  · rfl
  rw [Option.filter_some]
  rcases hword : types.word? format with _ | word
  · simp [hword]
  · simp [hword]

/-- A scalar that has the word for a marker. -/
def IsMarker (types : TypeTable) (leaf : Json) : Prop :=
  Reference.ofNode? leaf = none ∧ ∃ type, leaf.getStr? "type" = some type ∧ type ≠ "object" ∧
    (scalarKey types leaf type = "<" ∨ scalarKey types leaf type = ">")

section

variable {root node leaf : Json} {types : TypeTable} {b : Brackets} {hint word token : String} {loc : Location}

theorem LeafWord.absent (bracketed : types.BracketedBy b) (hinted : b.Absent hint)
    (named : ∀ text r, Reference.ofNode? leaf = some text → Reference.parse text = some r → b.Absent r.name)
    (found : LeafWord root types hint leaf word) (unmarked : ¬ IsMarker types leaf) : b.Absent word := by
  cases found with
  | reference written parsed => exact named _ _ written parsed
  | hinted => exact hinted
  | free _ _ _ known => exact bracketed.absent known (by decide) (by decide)
  | @scalar type _ written typed notObject _ known =>
    rw [scalarWord?_eq] at known
    exact bracketed.absent known (fun h => unmarked ⟨written, type, typed, notObject, .inl h⟩)
      fun h => unmarked ⟨written, type, typed, notObject, .inr h⟩

/-- The word for a marker is one bracket. -/
theorem LeafWord.of_marker (bracketed : types.BracketedBy b) (found : LeafWord root types hint leaf word)
    (marker : IsMarker types leaf) : word = b.opening.toString ∨ word = b.closing.toString := by
  obtain ⟨written, type, typed, notObject, hkey⟩ := marker
  cases found with
  | reference written' => rw [written] at written'; cases written'
  | hinted _ object => exact absurd (Option.some.inj (typed.symm.trans object)) notObject
  | free _ object => exact absurd (Option.some.inj (typed.symm.trans object)) notObject
  | scalar _ typed' _ _ known =>
    rw [typed] at typed'
    cases typed'
    rw [scalarWord?_eq] at known
    rcases hkey with hkey | hkey
    · rw [hkey, bracketed.opening] at known
      exact .inl (Option.some.inj known).symm
    · rw [hkey, bracketed.closing] at known
      exact .inr (Option.some.inj known).symm

theorem not_balanced_of_marker {array : String} {layers : Nat} (bare : b.Absent array)
    (hword : word = b.opening.toString ∨ word = b.closing.toString) : ¬ b.Balanced (b.nested array layers word) := by
  intro balanced
  have hclosed := balanced.closed
  rw [(Brackets.count_nested bare layers word).1, (Brackets.count_nested bare layers word).2] at hclosed
  rcases hword with rfl | rfl
  · simp [b.distinct] at hclosed
  · simp [b.distinct.symm] at hclosed

/-- If no bracket stands in the hint or in the name that a node points to, the type of the node is balanced exactly if
its chain does not end in a marker. -/
theorem typeToken_balanced_iff (i : Implementation) (hinted : i.brackets.Absent hint)
    (named : ∀ r, PointsTo node r → i.brackets.Absent r.name)
    (h : typeToken root i.backend.words node hint 0 loc = .ok token) :
    i.brackets.Balanced token ↔ ∀ leaf layers, EndsIn node leaf layers → ¬ IsMarker i.backend.words leaf := by
  obtain ⟨leaf, layers, ends⟩ := exists_endsIn node
  have spelled : Spelled root i.backend.words hint node leaf layers 0 loc (.ok token) :=
    h ▸ spelled_of_endsIn ends 0 loc
  cases spelled with
  | @token word _ found wrapped _ =>
    obtain ⟨array, bare, rfl⟩ := i.bracketedBy.nested_of_wrapped wrapped
    constructor
    · intro balanced leaf' layers' ends' marker
      obtain ⟨rfl, rfl⟩ := ends.unique ends'
      exact not_balanced_of_marker bare (found.of_marker i.bracketedBy marker) balanced
    · intro unmarked
      have named : ∀ text r, Reference.ofNode? leaf = some text → Reference.parse text = some r →
          i.brackets.Absent r.name := fun text r written parsed =>
        named r ⟨text, (refers_of_endsIn ends).2 written, parsed⟩
      exact (found.absent i.bracketedBy hinted named (unmarked leaf layers ends)).balanced.nested bare layers

end

/-- A table of pets; the rows are arrays as well. -/
def petTable : Json :=
  .obj [("type", .str "array"), ("items", .obj [("type", .str "array"),
    ("items", .obj [("$ref", .str "#/components/schemas/Pet")])])]

/-- A list whose elements have the marker that closes a list for their format. -/
def closedList : Json :=
  .obj [("type", .str "array"), ("items", .obj [("type", .str "string"), ("format", .str ">")])]

theorem typeToken_balanced_iff_table :
    Implementation.typeScript.brackets.Balanced "Array<Array<Pet>>" ∧
      ¬ Implementation.flask.brackets.Balanced "List[]]" := by
  constructor
  · have ends : EndsIn petTable (.obj [("$ref", .str "#/components/schemas/Pet")]) 2 :=
      ⟨.items rfl rfl rfl (.items rfl rfl rfl (.here _)), fun goes => by cases goes.1⟩
    have named : ∀ r, PointsTo petTable r → Implementation.typeScript.brackets.Absent r.name := by
      rintro r ⟨text, refers, parsed⟩
      cases (refers_of_endsIn ends).1 refers
      have hr : Reference.parse "#/components/schemas/Pet" = some ⟨"components", "schemas", "Pet"⟩ := by decide +kernel
      rw [hr] at parsed
      cases parsed
      decide
    have htoken : typeToken (.obj [("components", .obj [("schemas", .obj [("Pet", .obj [])])])])
        Implementation.typeScript.backend.words petTable "" 0 "x" = .ok "Array<Array<Pet>>" := by decide +kernel
    refine (typeToken_balanced_iff .typeScript (by decide) named htoken).2 ?_
    intro leaf layers ends' marker
    obtain ⟨rfl, -⟩ := ends.unique ends'
    cases marker.1
  · have ends : EndsIn closedList (.obj [("type", .str "string"), ("format", .str ">")]) 1 :=
      ⟨.items rfl rfl rfl (.here _), fun goes => absurd goes.2.1 (by decide)⟩
    have named : ∀ r, PointsTo closedList r → Implementation.flask.brackets.Absent r.name := by
      rintro r ⟨text, refers, -⟩
      cases (refers_of_endsIn ends).1 refers
    have htoken : typeToken .null Implementation.flask.backend.words closedList "" 0 "x" = .ok "List[]]" := by
      decide +kernel
    rw [typeToken_balanced_iff .flask (by decide) named htoken]
    exact fun unmarked => unmarked _ _ ends ⟨rfl, "string", rfl, by decide, .inr (by decide)⟩

/-- In either language a node whose type is a marker has one bracket for its type. -/
theorem marker_unbalanced : ¬ ∃ i : Implementation, ∀ (root node : Json) (hint : String) (loc : Location)
    (token : String), i.brackets.Absent hint → (∀ r, PointsTo node r → i.brackets.Absent r.name) →
    typeToken root i.backend.words node hint 0 loc = .ok token → i.brackets.Balanced token := by
  rintro ⟨i, hall⟩
  have ends : EndsIn (.obj [("type", .str "<")]) (.obj [("type", .str "<")]) 0 :=
    ⟨.here _, fun goes => absurd goes.2.1 (by decide)⟩
  have named : ∀ r, PointsTo (.obj [("type", .str "<")]) r → i.brackets.Absent r.name := by
    rintro r ⟨text, refers, -⟩
    cases (refers_of_endsIn ends).1 refers
  have htoken : typeToken .null i.backend.words (.obj [("type", .str "<")]) "" 0 "x" =
      .ok i.brackets.opening.toString := by
    cases i <;> decide +kernel
  have balanced := hall _ _ _ _ _ (by cases i <;> decide) named htoken
  have hclosed := balanced.closed
  simp [i.brackets.distinct] at hclosed

end Schema

end ApiScaffold
