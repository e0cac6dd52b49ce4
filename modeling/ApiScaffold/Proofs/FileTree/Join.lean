/-
Where joined paths lead. The names of a joined path are those of its two parts one after the other, unless the second
is absolute, so it leads from the place of the first by the names of the second (`place_join`). A place stays below a
directory as long as its names lead up less often than they led down (`staysBelow`).
-/
import ApiScaffold.Proofs.FileTree.Place
import ApiScaffold.Proofs.Text.Split

namespace ApiScaffold

namespace Path

/-- The names behind a slash follow those before it. -/
theorem steps_of_toList {p front back : Path} (h : p.text.toList = front.text.toList ++ '/' :: back.text.toList) :
    p.steps = front.steps ++ back.steps := by
  unfold steps segments Text.split
  rw [h, Text.splitChars_append, List.map_append, List.filter_append]

theorem steps_empty : (Path.mk "").steps = [] := by decide +kernel

/-- A path that is not absolute is put behind a slash, unless the path before it is empty. -/
theorem join_cases (p : Path) {other : String} (h : (Path.mk other).isAbsolute = false) :
    p = ⟨""⟩ ∧ p.join other = ⟨other⟩ ∨
      ∃ front : Path, (p.text.toList = front.text.toList ++ ['/'] ∨ p = front ∧ p ≠ ⟨""⟩) ∧
        (p.join other).text.toList = front.text.toList ++ '/' :: other.toList := by
  unfold join
  by_cases hempty : p = ⟨""⟩
  · subst hempty
    exact .inl ⟨rfl, by simp [h]⟩
  · have hne : p.text.isEmpty = false := by
      rw [Bool.eq_false_iff, Ne, String.isEmpty_iff]
      exact fun htext => hempty (congrArg Path.mk htext)
    rw [h, hne]
    simp only [Bool.or_self, Bool.false_eq_true, if_false]
    -- a slash that is there already is not written again, so the front is what stands before it
    by_cases hslash : (p.text.toList.getLast? == some '/') = true
    · obtain ⟨front, hfront⟩ := List.getLast?_eq_some_iff.1 (eq_of_beq hslash)
      refine .inr ⟨⟨String.ofList front⟩, .inl (by simpa using hfront), ?_⟩
      rw [if_pos hslash]
      simp [String.toList_append, hfront]
    · refine .inr ⟨p, .inr ⟨rfl, hempty⟩, ?_⟩
      rw [if_neg hslash]
      simp [String.toList_append]

/-- A joined path begins where its first part does, and has the names of both parts. -/
theorem join_parts (p : Path) {other : String} (h : (Path.mk other).isAbsolute = false) :
    (p.join other).origin = p.origin ∧ (p.join other).steps = p.steps ++ (Path.mk other).steps := by
  rcases p.join_cases h with ⟨rfl, hjoin⟩ | ⟨front, hp, hjoin⟩
  · rw [hjoin, steps_empty, origin, h]
    exact ⟨rfl, rfl⟩
  · have hsteps : (p.join other).steps = front.steps ++ (Path.mk other).steps := steps_of_toList hjoin
    rcases hp with hp | ⟨rfl, hne⟩
    · -- nothing stands behind the last slash, so it adds no name
      have hfront : p.steps = front.steps ++ (Path.mk "").steps := steps_of_toList hp
      rw [hsteps, hfront, steps_empty, List.append_nil]
      refine ⟨?_, rfl⟩
      unfold origin isAbsolute
      rw [hjoin, hp]
      cases front.text.toList <;> rfl
    · refine ⟨?_, hsteps⟩
      obtain ⟨c, cs, htext⟩ : ∃ c cs, p.text.toList = c :: cs := by
        refine List.exists_cons_of_ne_nil fun hnil => hne ?_
        exact congrArg Path.mk (String.toList_eq_nil_iff.1 hnil)
      unfold origin isAbsolute
      rw [hjoin, htext]
      rfl

/-- A joined path leads on from the place of its first part. -/
theorem place_join (p : Path) {other : String} (h : (Path.mk other).isAbsolute = false) :
    (p.join other).place = (Path.mk other).steps.foldl Place.go p.place := by
  obtain ⟨horigin, hsteps⟩ := p.join_parts h
  unfold place
  rw [horigin, hsteps, List.foldl_append]

end Path

/-! ## Staying below a directory -/

/-- Whether names that begin some levels below a directory never lead above it. -/
def staysBelow : Nat → List String → Bool
  | _, [] => true
  | levels, name :: names =>
    if name == ".." then
      match levels with
      | 0 => false
      | levels + 1 => staysBelow levels names
    else staysBelow (levels + 1) names

/-- Names that are no more than the levels stay below. -/
theorem staysBelow_of_length_le : ∀ {names : List String} {levels : Nat}, names.length ≤ levels → staysBelow levels names
  | [], _, _ => rfl
  | name :: names, 0, h => absurd h (by simp)
  | name :: names, levels + 1, h => by
    have hlength : names.length ≤ levels := by simpa using h
    unfold staysBelow
    split
    · exact staysBelow_of_length_le hlength
    · exact staysBelow_of_length_le (hlength.trans (by omega))

namespace Place

/-- A place that lies at least some levels below a directory. -/
structure Below (dir : Place) (levels : Nat) (p : Place) : Prop where
  base : p.base = dir.base
  names : dir.names <+: p.names
  depth : dir.names.length + levels ≤ p.names.length

theorem Below.isWithin {dir p : Place} {levels : Nat} (h : dir.Below levels p) : p.isWithin dir = true := by
  unfold Place.isWithin
  rw [Bool.and_eq_true, beq_iff_eq, List.isPrefixOf_iff_prefix]
  exact ⟨h.base, h.names⟩

theorem Below.refl (dir : Place) : dir.Below 0 dir := ⟨rfl, List.prefix_refl _, Nat.le_refl _⟩

theorem Below.child {dir p : Place} {levels : Nat} (h : dir.Below levels p) (name : String) :
    dir.Below (levels + 1) (p.child name) := by
  have hdepth := h.depth
  refine ⟨h.base, h.names.trans (List.prefix_append ..), ?_⟩
  rw [show (p.child name).names = p.names ++ [name] from rfl, List.length_append, List.length_singleton]
  omega

theorem Below.parent {dir p : Place} {levels : Nat} (h : dir.Below (levels + 1) p) : dir.Below levels p.parent := by
  have hdepth := h.depth
  have hne : p.names.isEmpty = false := by
    rw [List.isEmpty_eq_false_iff, ← List.length_pos_iff]
    omega
  have hparent : p.parent = { p with names := p.names.dropLast } := by
    unfold Place.parent
    rw [hne]
    rfl
  have hlength : p.names.dropLast.length = p.names.length - 1 := List.length_dropLast
  rw [hparent]
  refine ⟨h.base, List.prefix_of_prefix_length_le h.names (List.dropLast_prefix _) ?_, ?_⟩
  · rw [hlength]
    omega
  · show _ ≤ p.names.dropLast.length
    rw [hlength]
    omega

/-- Names that lead down lead one level further each. -/
theorem Below.foldl {dir : Place} :
    ∀ {names : List String} {levels : Nat} {p : Place}, dir.Below levels p → (∀ name ∈ names, (name != "..") = true) →
      dir.Below (levels + names.length) (names.foldl Place.go p)
  | [], _, _, h, _ => h
  | name :: names, levels, p, h, hdown => by
    obtain ⟨hname, hnames⟩ := List.forall_mem_cons.1 hdown
    have hgo : p.go name = p.child name := by
      unfold Place.go
      rw [if_neg (by simpa using hname)]
    have hrest := Below.foldl (hgo ▸ h.child name) hnames
    rw [List.foldl_cons, List.length_cons, Nat.add_comm names.length, ← Nat.add_assoc]
    exact hrest

/-- Names that never lead above a directory lead to a place within it. -/
theorem Below.isWithin_foldl {dir : Place} :
    ∀ {names : List String} {levels : Nat} {p : Place}, dir.Below levels p → staysBelow levels names = true →
      (names.foldl Place.go p).isWithin dir = true
  | [], _, _, h, _ => h.isWithin
  | name :: names, levels, p, h, hstays => by
    unfold staysBelow at hstays
    rw [List.foldl_cons]
    unfold Place.go
    by_cases hup : (name == "..") = true
    · rw [if_pos hup] at hstays ⊢
      cases levels with
      | zero => cases hstays
      | succ levels => exact isWithin_foldl h.parent hstays
    · rw [if_neg hup] at hstays ⊢
      exact isWithin_foldl (h.child name) hstays

end Place

end ApiScaffold
