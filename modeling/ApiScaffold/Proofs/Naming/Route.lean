/-
The name of an operation that declares none. It is derived from the shape of its path: the fixed segments, and whether
the path ends in a value (`routeName_congr`). What stands between braces, empty segments and values before the last
segment do not show in the shape, so paths that differ in these only give the same name (`SameRoute.routeName_eq`). The
name of an ASCII path is a verb in small letters, then the letters and digits of the fixed segments (`derived_name`).
-/
import ApiScaffold.Proofs.Naming.Identifier
import ApiScaffold.Proofs.Naming.Singular
import ApiScaffold.Proofs.Text.Split

namespace ApiScaffold.Naming

open Text

/-! ## The shape of a path -/

/-- A segment that stands for a value, with the text between its braces. -/
def valueSegment (text : String) : String := "\x7b" ++ text ++ "\x7d"

theorem isParameter_iff {segment : List Char} :
    isParameter segment = true ↔ ∃ text, segment = (valueSegment text).toList := by
  unfold isParameter
  rw [Bool.and_eq_true, beq_iff_eq, beq_iff_eq]
  constructor
  · rintro ⟨hfirst, hlast⟩
    rcases segment with _ | ⟨c, cs⟩
    · cases hfirst
    obtain rfl : c = '\x7b' := Option.some.inj hfirst
    rcases List.eq_nil_or_concat' cs with rfl | ⟨inner, d, rfl⟩
    · exact absurd hlast (by decide)
    · rw [← List.cons_append, List.getLast?_concat] at hlast
      obtain rfl : d = '\x7d' := Option.some.inj hlast
      exact ⟨String.ofList inner, by simp [valueSegment]⟩
  · rintro ⟨text, rfl⟩
    unfold valueSegment
    rw [String.toList_append, String.toList_append]
    exact ⟨rfl, List.getLast?_concat⟩

theorem isParameter_value (text : String) : isParameter (valueSegment text).toList = true :=
  isParameter_iff.2 ⟨text, rfl⟩

/-- The segments that are not empty. -/
def named (pieces : List String) : List String := pieces.filter fun s => s ≠ ""

theorem named_append (pieces others : List String) : named (pieces ++ others) = named pieces ++ named others :=
  List.filter_append ..

theorem valueSegment_ne_empty (text : String) : valueSegment text ≠ "" := by
  simp [valueSegment]

theorem named_cons_value (text : String) (pieces : List String) :
    named (valueSegment text :: pieces) = valueSegment text :: named pieces :=
  List.filter_cons_of_pos (by simpa using valueSegment_ne_empty text)

theorem named_ne_nil {pieces : List String} (h : ∃ segment ∈ pieces, segment ≠ "") : named pieces ≠ [] := by
  obtain ⟨segment, hmem, hne⟩ := h
  exact List.ne_nil_of_mem (List.mem_filter.2 ⟨hmem, by simpa using hne⟩)

theorem segments_eq (path : String) : segments path = (named (split '/' path)).map String.toList := by
  unfold segments named split
  rw [List.filter_map, List.map_map]
  have hempty : (fun s => !s.isEmpty : List Char → Bool) = (fun s => decide (s ≠ "")) ∘ String.ofList := by
    funext s
    cases s <;> simp
  rw [← hempty]
  simp

/-- What a name is derived from: whether the last segment is a value, and the fixed segments. -/
def shape (pieces : List String) : Bool × List (List Char) :=
  (((named pieces).getLast?.map fun s => isParameter s.toList).getD false,
    ((named pieces).map String.toList).filter fun s => !isParameter s)

theorem shape_split (path : String) :
    shape (split '/' path) = (endsInParameter path, (segments path).filter fun s => !isParameter s) := by
  unfold shape endsInParameter
  rw [segments_eq, List.getLast?_map, Option.map_map]
  rfl

/-- The last segment that is not empty stands for a value. -/
def EndsInValue (path : String) : Prop := ∃ text, (named (split '/' path)).getLast? = some (valueSegment text)

theorem endsInParameter_iff {path : String} : endsInParameter path = true ↔ EndsInValue path := by
  unfold endsInParameter EndsInValue
  rw [segments_eq, List.getLast?_map]
  rcases (named (split '/' path)).getLast? with _ | segment
  · simp
  · simp [isParameter_iff, String.toList_inj]

/-- The fixed segments as they go into a name. -/
def resources (path : String) : List (List Char) :=
  let fixed := (segments path).filter fun s => !isParameter s
  if endsInParameter path then mapLast singularize fixed else fixed

theorem routeName_eq (method : HttpMethod) (path : String) :
    routeName method path = verb method (endsInParameter path) ++
      String.join ((resources path).map fun s => pascalCase (String.ofList (sanitize s))) := rfl

theorem routeName_congr {path other : String} (h : shape (split '/' path) = shape (split '/' other))
    (method : HttpMethod) : routeName method path = routeName method other := by
  rw [shape_split, shape_split, Prod.mk.injEq] at h
  unfold routeName
  rw [h.1, h.2]

/-! ## Changes that do not show -/

/-- A change of the segments of a path that does not show in a name. -/
inductive Alters : List String → List String → Prop
  /-- Another text between braces. -/
  | text (before after : List String) (a b : String) :
    Alters (before ++ valueSegment a :: after) (before ++ valueSegment b :: after)
  /-- An empty segment more, at either end as well. -/
  | empty (before after : List String) : Alters (before ++ after) (before ++ "" :: after)
  /-- A value more where it is not the last segment. -/
  | value (before after : List String) (a : String) (notLast : ∃ segment ∈ after, segment ≠ "") :
    Alters (before ++ after) (before ++ valueSegment a :: after)

/-- The paths can be turned into one another by such changes and their reversals. -/
def SameRoute (path other : String) : Prop :=
  Relation.EqvGen (fun p q => Alters (split '/' p) (split '/' q)) path other

theorem Alters.shape_eq {pieces others : List String} (h : Alters pieces others) : shape pieces = shape others := by
  unfold shape
  cases h with
  | text before after a b =>
    rw [named_append, named_append, named_cons_value, named_cons_value]
    rcases named after with _ | ⟨segment, rest⟩ <;> simp [isParameter_value]
  | empty before after =>
    rw [named_append, named_append]
    rfl
  | value before after a notLast =>
    have hafter := named_ne_nil notLast
    rw [named_append, named_append, named_cons_value]
    rw [List.getLast?_append_of_ne_nil _ hafter, List.getLast?_append_of_ne_nil _ (List.cons_ne_nil _ _)]
    rcases hrest : named after with _ | ⟨segment, rest⟩
    · exact absurd hrest hafter
    · simp [isParameter_value]

theorem SameRoute.routeName_eq {path other : String} (h : SameRoute path other) (method : HttpMethod) :
    routeName method path = routeName method other := by
  induction h with
  | rel p q alters => exact routeName_congr alters.shape_eq method
  | refl p => rfl
  | symm p q _ ih => exact ih.symm
  | trans p q r _ _ first second => exact first.trans second

theorem split_leading_slash (path : String) : split '/' ("/" ++ path) = "" :: split '/' path := by
  unfold split
  simp [splitChars]

theorem split_trailing_slash (path : String) : split '/' (path ++ "/") = split '/' path ++ [""] := by
  unfold split
  rw [String.toList_append]
  simp [splitChars_append, splitChars]

/-- A slash more at either end is an empty segment more. -/
theorem sameRoute_slashes (path : String) : SameRoute path ("/" ++ path) ∧ SameRoute path (path ++ "/") := by
  constructor
  · refine .rel _ _ ?_
    rw [split_leading_slash]
    exact .empty [] (split '/' path)
  · refine .rel _ _ ?_
    rw [split_trailing_slash]
    simpa using Alters.empty (split '/' path) []

/-! ## What a name is spelled with -/

/-- The word that a name begins with, for a method and for whether its path ends in a value. -/
inductive Begins : HttpMethod → Prop → String → Prop
  | one {single : Prop} : single → Begins .get single "get"
  | many {single : Prop} : ¬ single → Begins .get single "list"
  | create {single : Prop} : Begins .post single "create"
  | update {single : Prop} : Begins .put single "update"
  | other {single : Prop} (method : HttpMethod) : method ∉ [.get, .post, .put] → Begins method single method.key

theorem begins_verb (method : HttpMethod) (path : String) :
    Begins method (EndsInValue path) (verb method (endsInParameter path)) := by
  rw [← endsInParameter_iff]
  cases method with
  | get =>
    cases endsInParameter path with
    | true => exact .one rfl
    | false => exact .many Bool.false_ne_true
  | post => exact .create
  | put => exact .update
  | delete | options | head | patch | trace => exact .other _ (by decide)

theorem Begins.small {method : HttpMethod} {single : Prop} {first : String} (h : Begins method single first) :
    first ≠ "" ∧ ∀ c ∈ first.toList, c.isLower = true := by
  have hall : first ≠ "" ∧ first.toList.all Char.isLower = true := by
    cases h with
    | other method _ => cases method <;> decide
    | one | many | create | update => decide
  exact hall.imp_right List.all_eq_true.1

/-- The method and the end of the path leave one word only. -/
theorem Begins.unique {method : HttpMethod} {single : Prop} {first first' : String} (h : Begins method single first)
    (h' : Begins method single first') : first = first' := by
  cases h <;> cases h' <;> simp_all

theorem mem_mapLast {α : Type} {f : α → α} {xs : List α} {y : α} (h : y ∈ mapLast f xs) :
    y ∈ xs ∨ ∃ x ∈ xs, y = f x := by
  fun_induction mapLast f xs with
  | case1 => cases h
  | case2 x => exact .inr ⟨x, List.mem_singleton_self x, List.mem_singleton.1 h⟩
  | case3 x z rest ih =>
    rcases List.mem_cons.1 h with rfl | h
    · exact .inl (List.mem_cons_self ..)
    · rcases ih h with hmem | ⟨x', hmem, heq⟩
      · exact .inl (List.mem_cons_of_mem _ hmem)
      · exact .inr ⟨x', List.mem_cons_of_mem _ hmem, heq⟩

theorem ascii_of_mem_resources {path : String} (ascii : Ascii path) {segment : List Char}
    (h : segment ∈ resources path) : Ascii (String.ofList segment) := by
  have hfixed : ∀ fixed ∈ (segments path).filter (fun s => !isParameter s), ∀ c ∈ fixed, c.toNat < 128 := by
    intro fixed hmem c hc
    exact ascii c (mem_of_mem_splitChars (List.mem_filter.1 (List.mem_filter.1 hmem).1).1 hc)
  intro c hc
  rw [String.toList_ofList] at hc
  unfold resources at h
  split at h
  · rcases mem_mapLast h with hmem | ⟨fixed, hmem, rfl⟩
    · exact hfixed segment hmem c hc
    · rcases mem_singularize hc with hc | rfl
      · exact hfixed fixed hmem c hc
      · decide
  · exact hfixed segment h c hc

/-- What follows the verb is written from the words of the segments alone. -/
theorem toList_join_pascalCase (segments : List (List Char)) :
    (String.join (segments.map fun s => pascalCase (String.ofList (sanitize s)))).toList =
      segments.flatMap fun s => (pascalCase (String.ofList s)).toList := by
  rw [String.toList_join, List.flatMap_map]
  refine List.flatMap_congr fun s _ => ?_
  unfold pascalCase
  rw [words_sanitize]

/-- A name that begins with a word in small letters. ASCII letters and digits follow, which are those of the segments
up to case. -/
structure Spelled (first name : String) (segments : List (List Char)) : Prop where
  small : first ≠ "" ∧ ∀ c ∈ first.toList, c.isLower = true
  rest : ∃ rest, name = first ++ rest ∧ (∀ c ∈ rest.toList, c.isAlphanum = true) ∧
    rest.toList.map Char.toLower = (segments.flatten.filter Char.isAlphanum).map Char.toLower

theorem routeName_spelled (method : HttpMethod) {path : String} (ascii : Ascii path) :
    Spelled (verb method (endsInParameter path)) (routeName method path) (resources path) := by
  have hascii := fun segment (h : segment ∈ resources path) => ascii_of_mem_resources ascii h
  refine ⟨(begins_verb method path).small, _, routeName_eq method path, ?_, ?_⟩ <;> rw [toList_join_pascalCase]
  · intro c hc
    obtain ⟨segment, hmem, hc⟩ := List.mem_flatMap.1 hc
    exact isAlphanum_of_mem_pascalCase (hascii segment hmem) hc
  · rw [List.map_flatMap, List.filter_flatten, List.map_flatten, List.map_map, ← List.flatMap_def]
    refine List.flatMap_congr fun segment hmem => ?_
    rw [toLower_pascalCase (hascii segment hmem), String.toList_ofList]
    rfl

/-! ## Derived names -/

/-- What the name derived from a method and a path says, and what it does not say. -/
structure DerivedName (method : HttpMethod) (path : String) : Prop where
  /-- The name of an ASCII path is the word for the method and whether the path ends in a value, and then letters and
  digits. -/
  spelled : Ascii path → ∃ first, Begins method (EndsInValue path) first ∧
    Spelled first (routeName method path) (resources path)
  /-- Whatever segment is brought into the singular, no cut goes wrong. -/
  cuts : ∀ segment ∈ split '/' path, singularize? segment = some (String.ofList (singularize segment.toList))
  /-- What is not part of the shape does not show, and neither does a slash more at an end. -/
  unseen : ∀ other, SameRoute path other → routeName method other = routeName method path
  slashes : routeName method ("/" ++ path) = routeName method path ∧
    routeName method (path ++ "/") = routeName method path

theorem derived_name (method : HttpMethod) (path : String) : DerivedName method path where
  spelled ascii := ⟨verb method (endsInParameter path), begins_verb method path, routeName_spelled method ascii⟩
  cuts segment _ := singularize?_eq segment
  unseen other same := (same.routeName_eq method).symm
  slashes := by
    obtain ⟨leading, trailing⟩ := sameRoute_slashes path
    exact ⟨(leading.routeName_eq method).symm, (trailing.routeName_eq method).symm⟩

/-- A path, and one without its first slash and value and with another text between the last braces. -/
theorem derived_name_visits : Ascii "/pet-owners/\x7bid\x7d/visits/\x7bvisitId\x7d" ∧
    DerivedName .get "/pet-owners/\x7bid\x7d/visits/\x7bvisitId\x7d" ∧
    Spelled "get" "getPetOwnersVisit" ["pet-owners".toList, "visit".toList] ∧
    SameRoute "/pet-owners/\x7bid\x7d/visits/\x7bvisitId\x7d" "pet-owners/visits/\x7bv\x7d" ∧
    routeName .get "pet-owners/visits/\x7bv\x7d" = "getPetOwnersVisit" := by
  have ascii : Ascii "/pet-owners/\x7bid\x7d/visits/\x7bvisitId\x7d" := by decide +kernel
  have derived := derived_name .get "/pet-owners/\x7bid\x7d/visits/\x7bvisitId\x7d"
  have hname : routeName .get "/pet-owners/\x7bid\x7d/visits/\x7bvisitId\x7d" = "getPetOwnersVisit" := by
    decide +kernel
  have hresources : resources "/pet-owners/\x7bid\x7d/visits/\x7bvisitId\x7d" =
      ["pet-owners".toList, "visit".toList] := by decide +kernel
  have ends : EndsInValue "/pet-owners/\x7bid\x7d/visits/\x7bvisitId\x7d" := ⟨"visitId", by decide +kernel⟩
  obtain ⟨first, begins, spelled⟩ := derived.spelled ascii
  obtain rfl : first = "get" := begins.unique (.one ends)
  rw [hname, hresources] at spelled
  have slash : SameRoute "pet-owners/\x7bid\x7d/visits/\x7bvisitId\x7d"
      "/pet-owners/\x7bid\x7d/visits/\x7bvisitId\x7d" :=
    (sameRoute_slashes "pet-owners/\x7bid\x7d/visits/\x7bvisitId\x7d").1
  have value : SameRoute "pet-owners/visits/\x7bvisitId\x7d" "pet-owners/\x7bid\x7d/visits/\x7bvisitId\x7d" :=
    .rel _ _ (Alters.value ["pet-owners"] ["visits", "\x7bvisitId\x7d"] "id" ⟨"visits", by decide, by decide⟩)
  have text : SameRoute "pet-owners/visits/\x7bvisitId\x7d" "pet-owners/visits/\x7bv\x7d" :=
    .rel _ _ (Alters.text ["pet-owners", "visits"] [] "visitId" "v")
  have same := (slash.symm.trans _ _ _ value.symm).trans _ _ _ text
  exact ⟨ascii, derived, spelled, same, (derived.unseen _ same).trans hname⟩

end ApiScaffold.Naming
