/-
The singular by counts of bytes. A plural ending is cut off by the length of the word in bytes, and a cut that is out of
range or inside a character gives nothing (`firstBytes?_eq_some_iff`). No cut is: where an ending is cut off it is there,
so what stands before it is a text (`singularize?_eq`).
-/
import ApiScaffold.Naming
import Mathlib.Tactic

namespace ApiScaffold.Naming

/-! ## Cutting by bytes -/

/-- The first bytes of a text, if it has that many and a character ends there. -/
def firstBytes? (s : String) (n : Nat) : Option String :=
  if h : String.Pos.Raw.IsValid s ⟨n⟩ then some (s.sliceTo (s.pos ⟨n⟩ h)).copy else none

/-- A text without its last bytes, if it has that many and a character begins there. -/
def dropBytes? (s : String) (n : Nat) : Option String :=
  if n ≤ s.utf8ByteSize then firstBytes? s (s.utf8ByteSize - n) else none

theorem firstBytes?_append (s t : String) : firstBytes? (s ++ t) s.utf8ByteSize = some s := by
  have valid : String.Pos.Raw.IsValid (s ++ t) ⟨s.utf8ByteSize⟩ :=
    String.Pos.Raw.isValid_iff_exists_append.2 ⟨s, t, rfl, rfl⟩
  unfold firstBytes?
  rw [dif_pos valid]
  congr 1
  exact String.Pos.Splits.copy_sliceTo_eq ⟨rfl, rfl⟩

/-- A cut is right exactly where the text falls into two texts. -/
theorem firstBytes?_eq_some_iff {s start : String} {n : Nat} :
    firstBytes? s n = some start ↔ ∃ rest, s = start ++ rest ∧ start.utf8ByteSize = n := by
  constructor
  · intro h
    unfold firstBytes? at h
    split at h
    · rename_i valid
      have splits := (s.pos ⟨n⟩ valid).splits
      cases h
      exact ⟨_, splits.eq_append, congrArg String.Pos.Raw.byteIdx splits.offset_eq_rawEndPos.symm⟩
    · cases h
  · rintro ⟨rest, rfl, rfl⟩
    exact firstBytes?_append start rest

example : firstBytes? "aé" 1 = some "a" ∧ firstBytes? "aé" 2 = none ∧ firstBytes? "aé" 4 = none := by decide +kernel

/-- An ending can be cut off by its number of bytes. -/
theorem dropBytes?_append (s : String) {ending : String} {n : Nat} (h : ending.utf8ByteSize = n) :
    dropBytes? (s ++ ending) n = some s := by
  subst h
  unfold dropBytes?
  rw [String.utf8ByteSize_append, if_pos (Nat.le_add_left ..), Nat.add_sub_cancel]
  exact firstBytes?_append s ending

/-! ## The singular -/

/-- The text ends in another. -/
def EndsIn (ending s : String) : Prop := ending.toList <:+ s.toList

instance (ending s : String) : Decidable (EndsIn ending s) :=
  inferInstanceAs (Decidable (ending.toList <:+ s.toList))

/-- A word without its plural ending, where each cut counts bytes from the end of the word. -/
def singularize? (word : String) : Option String :=
  if EndsIn "ies" word ∧ 3 < word.utf8ByteSize then (dropBytes? word 3).map (· ++ "y")
  else if EndsIn "ses" word ∨ EndsIn "xes" word ∨ EndsIn "zes" word then dropBytes? word 2
  else if EndsIn "s" word ∧ ¬ EndsIn "ss" word ∧ 1 < word.utf8ByteSize then dropBytes? word 1
  else some word

theorem endsIn_iff {ending s : String} : EndsIn ending s ↔ ending.toList.reverse <+: s.toList.reverse :=
  List.reverse_prefix.symm

/-- What a word ends in can be cut off, and it is less than the word if something stands before it. -/
theorem dropBytes?_of_reverse {word : String} (ending : String) (rest : List Char) (n : Nat)
    (h : word.toList.reverse = ending.toList.reverse ++ rest) (hn : ending.utf8ByteSize = n) :
    dropBytes? word n = some (String.ofList rest.reverse) ∧ (rest ≠ [] → n < word.utf8ByteSize) := by
  obtain rfl : word = String.ofList rest.reverse ++ ending := by
    have hreverse := congrArg List.reverse h
    rw [List.reverse_append, List.reverse_reverse, List.reverse_reverse] at hreverse
    rw [← String.toList_inj, String.toList_append, String.toList_ofList, hreverse]
  refine ⟨dropBytes?_append _ hn, fun hne => ?_⟩
  have hpos : 0 < (String.ofList rest.reverse).utf8ByteSize := by
    rw [Nat.pos_iff_ne_zero, Ne, String.utf8ByteSize_eq_zero_iff, ← String.toList_inj, String.toList_ofList]
    simpa using hne
  rw [String.utf8ByteSize_append, hn]
  omega

theorem eq_of_reverse {s t : String} (h : s.toList.reverse = t.toList.reverse) : s = t :=
  String.toList_inj.1 (List.reverse_inj.1 h)

/-- No cut goes wrong, whatever the word. -/
theorem singularize?_eq (word : String) : singularize? word = some (String.ofList (singularize word.toList)) := by
  unfold singularize?
  simp only [endsIn_iff]
  fun_cases singularize word.toList with
  | case1 c rest h =>
    obtain ⟨hcut, hsize⟩ := dropBytes?_of_reverse "ies" (c :: rest) 3 h rfl
    simp [h, hcut, hsize, ← String.toList_inj]
  | case2 rest h =>
    obtain ⟨hcut, -⟩ := dropBytes?_of_reverse "es" ('s' :: rest) 2 h rfl
    simp [h, hcut]
  | case3 rest h =>
    obtain ⟨hcut, -⟩ := dropBytes?_of_reverse "es" ('x' :: rest) 2 h rfl
    simp [h, hcut]
  | case4 rest h =>
    obtain ⟨hcut, -⟩ := dropBytes?_of_reverse "es" ('z' :: rest) 2 h rfl
    simp [h, hcut]
  | case5 rest h => simp [h]
  | case6 c rest notIes notSes notXes notZes notSs h =>
    obtain ⟨hcut, hsize⟩ := dropBytes?_of_reverse "s" (c :: rest) 1 h rfl
    have notLong : ¬ ("ies".toList.reverse <+: 's' :: c :: rest ∧ 3 < word.utf8ByteSize) := by
      rintro ⟨⟨before, heq⟩, hlong⟩
      cases heq
      rcases before with _ | ⟨d, before⟩
      · -- the ending is the word
        obtain rfl : word = "ies" := eq_of_reverse h
        exact absurd hlong (by decide)
      · exact notIes d before rfl rfl
    have notEs : ∀ d ∈ ['s', 'x', 'z'], ¬ ['s', 'e', d] <+: 's' :: c :: rest := by
      rintro d hd ⟨before, heq⟩
      cases heq
      simp only [List.mem_cons, List.not_mem_nil, or_false] at hd
      rcases hd with rfl | rfl | rfl
      · exact notSes before rfl rfl
      · exact notXes before rfl rfl
      · exact notZes before rfl rfl
    have notDouble : ¬ "ss".toList.reverse <+: 's' :: c :: rest := by
      rintro ⟨before, heq⟩
      cases heq
      exact notSs rfl
    rw [h, if_neg notLong, if_neg (by simpa using notEs), if_pos ⟨⟨c :: rest, rfl⟩, notDouble, hsize (by simp)⟩, hcut]
  | case7 _ _ _ _ _ notS =>
    have notLong : ∀ d ds, ¬ 's' :: d :: ds <+: word.toList.reverse := by
      rintro d ds ⟨before, heq⟩
      exact notS d (ds ++ before) heq.symm
    have notOne : ¬ (['s'] <+: word.toList.reverse ∧ 1 < word.utf8ByteSize) := by
      rintro ⟨⟨before, heq⟩, hlong⟩
      rcases before with _ | ⟨d, before⟩
      · obtain rfl : word = "s" := eq_of_reverse heq.symm
        exact absurd hlong (by decide)
      · exact notS d before heq.symm
    simp [notLong, notOne]

/-- The singular is spelled with letters of the word and the one that stands for `ies`. -/
theorem mem_singularize {word : List Char} {c : Char} (h : c ∈ singularize word) : c ∈ word ∨ c = 'y' := by
  suffices hreverse : c ∈ word.reverse ∨ c = 'y' from hreverse.imp_left List.mem_reverse.1
  revert h
  fun_cases singularize word with
  | case1 d rest heq =>
    rw [heq, List.mem_reverse, List.mem_cons]
    exact fun h => h.symm.imp_left fun hmem => .tail _ (.tail _ (.tail _ hmem))
  | case2 rest heq =>
    rw [heq, List.mem_reverse]
    exact fun h => .inl (.tail _ (.tail _ h))
  | case3 rest heq =>
    rw [heq, List.mem_reverse]
    exact fun h => .inl (.tail _ (.tail _ h))
  | case4 rest heq =>
    rw [heq, List.mem_reverse]
    exact fun h => .inl (.tail _ (.tail _ h))
  | case5 rest heq => exact fun h => .inl (List.mem_reverse.2 h)
  | case6 d rest _ _ _ _ _ heq =>
    rw [heq, List.mem_reverse]
    exact fun h => .inl (.tail _ h)
  | case7 => exact fun h => .inl (List.mem_reverse.2 h)

end ApiScaffold.Naming
