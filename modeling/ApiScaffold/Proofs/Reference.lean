/-
The grammar of references. A text is read as a reference exactly if it spells out three keys, none of them empty and
none with a slash (`parse_eq_some`), and it can do that in one way only. Resolving it comes to three looks into mappings,
so each of its three results has its own condition on the text and the document (`resolve_grammar`).
-/
import ApiScaffold.Reference
import ApiScaffold.Proofs.Schema.Chain
import ApiScaffold.Proofs.Text.Split

namespace ApiScaffold

/-- The value is the member of a mapping with that name. -/
def Json.HasMember (j : Json) (key : String) (v : Json) : Prop :=
  ∃ ms : Members, j = .obj ms ∧ Members.get? ms key = some v

theorem Json.hasMember_iff {j v : Json} {key : String} : j.HasMember key v ↔ j.get? key = some v := by
  unfold HasMember
  cases j <;> simp [Json.get?]

namespace Reference

variable {r r' : Reference} {root v : Json} {text : String} {loc : Location}

/-- A piece that can stand between slashes. -/
def Piece (s : String) : Prop := s ≠ "" ∧ '/' ∉ s.toList

/-- The text spells out the keys of the reference, one after the other. -/
structure Spells (text : String) (r : Reference) : Prop where
  part : Piece r.part
  group : Piece r.group
  name : Piece r.name
  text : text = "#/" ++ r.part ++ "/" ++ r.group ++ "/" ++ r.name

/-- The value is found by three looks into mappings, the first of them the document. -/
def Finds (root : Json) (r : Reference) (v : Json) : Prop :=
  ∃ groups names, root.HasMember r.part groups ∧ groups.HasMember r.group names ∧ names.HasMember r.name v

/-! ## Reading -/

theorem split_eq_pieces {a b c : String} : Text.split '/' text = ["#", a, b, c] ↔
    ('/' ∉ a.toList ∧ '/' ∉ b.toList ∧ '/' ∉ c.toList) ∧ text = "#/" ++ a ++ "/" ++ b ++ "/" ++ c := by
  rw [Text.split_eq_iff (List.cons_ne_nil _ _), ← String.toList_inj]
  simp [List.intercalate_cons_cons, and_assoc]

/-- A text is a reference exactly if it spells it out. -/
theorem parse_eq_some : parse text = some r ↔ Spells text r := by
  unfold parse
  constructor
  · intro h
    split at h
    · rename_i part group name hsplit
      obtain ⟨⟨hpart, hgroup, hname⟩, htext⟩ := split_eq_pieces.1 hsplit
      split at h
      · rename_i hne
        simp only [Bool.and_eq_true, bne_iff_ne, ne_eq] at hne
        cases h
        exact ⟨⟨hne.1.1, hpart⟩, ⟨hne.1.2, hgroup⟩, ⟨hne.2, hname⟩, htext⟩
      · cases h
    · cases h
  · intro spells
    have hsplit := split_eq_pieces.2 ⟨⟨spells.part.2, spells.group.2, spells.name.2⟩, spells.text⟩
    rw [hsplit]
    simp [spells.part.1, spells.group.1, spells.name.1]

theorem parse_eq_none : parse text = none ↔ ¬ ∃ r, Spells text r := by
  rw [Option.eq_none_iff_forall_ne_some]
  simp only [ne_eq, parse_eq_some, not_exists]

example : ["other#/components/schemas/Pet", "#/components/schemas", "#//schemas/Pet", "#/a/b/c/d"].map parse =
    [none, none, none, none] := by decide +kernel

/-- A text spells out one reference only. -/
theorem Spells.unique (h : Spells text r) (h' : Spells text r') : r = r' :=
  Option.some.inj ((parse_eq_some.2 h).symm.trans (parse_eq_some.2 h'))

/-! ## Resolving -/

theorem find?_eq_some : r.find? root = some v ↔ Finds root r v := by
  unfold find? Finds
  simp only [Json.hasMember_iff, Option.bind_eq_some_iff]
  constructor
  · rintro ⟨names, ⟨groups, hpart, hgroup⟩, hname⟩
    exact ⟨groups, names, hpart, hgroup, hname⟩
  · rintro ⟨groups, names, hpart, hgroup, hname⟩
    exact ⟨names, ⟨groups, hpart, hgroup⟩, hname⟩

theorem find?_eq_none : r.find? root = none ↔ ¬ ∃ v, Finds root r v := by
  simp only [Option.eq_none_iff_forall_ne_some, ne_eq, find?_eq_some, not_exists]

theorem resolve_eq_ok : resolve root text loc = .ok v ↔ ∃ r, Spells text r ∧ Finds root r v := by
  rw [resolve_ok]
  simp only [parse_eq_some, find?_eq_some]

theorem resolve_eq_invalid :
    resolve root text loc = .error (.invalidRef text loc) ↔ ¬ ∃ r, Spells text r := by
  rw [← parse_eq_none]
  unfold resolve
  rcases parse text with _ | r
  · simp
  · rcases hfind : r.find? root with _ | v <;> simp [hfind]

theorem resolve_eq_notFound :
    resolve root text loc = .error (.referenceNotFound text loc) ↔ ∃ r, Spells text r ∧ ¬ ∃ v, Finds root r v := by
  simp only [← parse_eq_some, ← find?_eq_none]
  unfold resolve
  rcases parse text with _ | r
  · simp
  · rcases hfind : r.find? root with _ | v <;> simp [hfind]

theorem resolve_error {e : ResolveError} (h : resolve root text loc = .error e) :
    e = .invalidRef text loc ∨ e = .referenceNotFound text loc := by
  unfold resolve at h
  split at h
  · cases h
    exact .inl rfl
  · split at h <;> cases h
    exact .inr rfl

theorem nameOf_eq_ok {name : String} : nameOf text loc = .ok name ↔ ∃ r, Spells text r ∧ r.name = name := by
  simp only [← parse_eq_some]
  unfold nameOf
  rcases parse text with _ | r <;> simp

/-- A text that resolves has a name, so asking for the name of the target fails only where resolving does. -/
theorem targetName_eq (root : Json) (text : String) (loc : Location) :
    (∀ name, targetName root text loc = .ok name ↔
      (∃ v, resolve root text loc = .ok v) ∧ nameOf text loc = .ok name) ∧
    ∀ e, targetName root text loc = .error e ↔ resolve root text loc = .error e := by
  unfold targetName
  rcases hresolve : resolve root text loc with e | v
  · simp [Except.bind]
  · obtain ⟨r, spells, -⟩ := resolve_eq_ok.1 hresolve
    have hname : nameOf text loc = .ok r.name := nameOf_eq_ok.2 ⟨r, spells, rfl⟩
    simp [Except.bind, hname]

/-- The results of resolving a text, each with its condition. -/
structure Grammar (root : Json) (text : String) (loc : Location) : Prop where
  unique : ∀ r r', Spells text r → Spells text r' → r = r'
  resolved : ∀ v, resolve root text loc = .ok v ↔ ∃ r, Spells text r ∧ Finds root r v
  invalid : resolve root text loc = .error (.invalidRef text loc) ↔ ¬ ∃ r, Spells text r
  missing : resolve root text loc = .error (.referenceNotFound text loc) ↔ ∃ r, Spells text r ∧ ¬ ∃ v, Finds root r v
  /-- There is no other way to fail. -/
  failed : ∀ e, resolve root text loc = .error e → e = .invalidRef text loc ∨ e = .referenceNotFound text loc
  /-- The last key is known also where the document does not have the target. -/
  named : ∀ name, nameOf text loc = .ok name ↔ ∃ r, Spells text r ∧ r.name = name
  target : ∀ name, targetName root text loc = .ok name ↔
    (∃ v, resolve root text loc = .ok v) ∧ nameOf text loc = .ok name
  targetFailed : ∀ e, targetName root text loc = .error e ↔ resolve root text loc = .error e

/-- Every text is resolved by its grammar, in every document. -/
theorem resolve_grammar (root : Json) (text : String) (loc : Location) : Grammar root text loc where
  unique := fun _ _ => Spells.unique
  resolved := fun _ => resolve_eq_ok
  invalid := resolve_eq_invalid
  missing := resolve_eq_notFound
  failed := fun _ => resolve_error
  named := fun _ => nameOf_eq_ok
  target := (targetName_eq root text loc).1
  targetFailed := (targetName_eq root text loc).2

end Reference

end ApiScaffold
