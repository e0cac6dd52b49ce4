/-
The place that a path denotes, found from its text alone: following a path in a tree leads to this
place or fails. A tree that grows (directories stay, files stay files) keeps every path that could be
followed, and every failure other than a missing name.
-/
import ApiScaffold.FileTree
import ApiScaffold.Proofs.Except

namespace ApiScaffold

/-! ## Places of paths -/

/-- Where a name leads from a directory, whatever stands there. -/
def Place.go (dir : Place) (name : String) : Place :=
  if name == ".." then dir.parent else dir.child name

namespace Path

/-- The names of a path that count when it is followed. -/
def steps (p : Path) : List String := p.segments.filter fun s => s != "" && s != "."

/-- Where a path begins. -/
def origin (p : Path) : Place := if p.isAbsolute then .root else .workingDirectory

/-- The place that a path denotes: empty names and single dots are dropped, and a name is taken back by
`..` behind it. -/
def place (p : Path) : Place := p.steps.foldl Place.go p.origin

end Path

namespace FileTree

/-- The file that stands at a place. -/
def fileAt (t : FileTree) (p : Place) : Option ByteArray :=
  match t.get? p with
  | some (.file c) => some c
  | _ => none

theorem fileAt_eq_some {t : FileTree} {p : Place} {c : ByteArray} :
    t.fileAt p = some c ↔ t.get? p = some (.file c) := by
  unfold fileAt
  rcases t.get? p with _ | (d | _) <;> simp

theorem fileAt_congr {t u : FileTree} {p : Place} (h : u.get? p = t.get? p) : u.fileAt p = t.fileAt p := by
  unfold fileAt; rw [h]

/-- The place of a target. -/
def Target.place : Target → Place
  | .directory p => p
  | .entry p _ => p

theorem enter_place {t : FileTree} {dir p : Place} {name : String} (h : t.enter dir name = .ok p) :
    p = dir.go name := by
  unfold enter at h
  unfold Place.go
  split at h
  · rename_i hup
    rw [if_pos hup]; cases h; rfl
  · rename_i hup
    rw [if_neg hup]
    split at h
    · cases h
    · split at h <;> cases h
      rfl

theorem foldlM_enter_place (t : FileTree) :
    ∀ (names : List String) (dir p : Place), names.foldlM t.enter dir = .ok p → p = names.foldl Place.go dir
  | [], dir, p, h => by cases h; rfl
  | n :: ns, dir, p, h => by
    rw [List.foldlM_cons] at h
    rcases he : t.enter dir n with e | d <;> rw [he] at h
    · cases h
    · rw [List.foldl_cons, ← enter_place he]
      exact foldlM_enter_place t ns d p h

/-- The directory that the names before the last lead to, and the last name in it. -/
def followNames (t : FileTree) (path : Path) : Except FileError Target :=
  match path.steps.getLast? with
  | none => .ok (.directory path.origin)
  | some last =>
    if last == ".." || path.segments.getLast? == some "." then
      (path.steps.foldlM t.enter path.origin).map .directory
    else
      (path.steps.dropLast.foldlM t.enter path.origin).bind fun dir =>
        if last.utf8ByteSize > maxName then .error .nameTooLong
        else .ok (.entry (dir.child last) (path.segments.getLast? == some ""))

/-- What is wrong with the text of a path, whatever the tree. -/
def textFault? (path : Path) : Option FileError :=
  if path.text.toList.any (·.toNat == 0) then some .nulInName
  else if path.text.isEmpty then some .notFound
  else if path.text.utf8ByteSize > maxPath then some .nameTooLong
  else none

theorem follow_eq (t : FileTree) (path : Path) :
    t.follow path = match textFault? path with
      | some e => .error e
      | none => t.followNames path := by
  unfold follow textFault? followNames Path.steps Path.origin
  -- the text is looked at first, so its faults hide what the tree would say
  by_cases h1 : path.text.toList.any (·.toNat == 0) = true
  · simp only [h1, if_true]; rfl
  by_cases h2 : path.text.isEmpty = true
  · simp only [h1, h2, if_true]; rfl
  by_cases h3 : path.text.utf8ByteSize > maxPath
  · simp only [h1, h2, h3, if_true]; rfl
  simp only [h1, h2, h3, if_false, Bool.false_eq_true]
  rcases (path.segments.filter fun s => s != "" && s != ".").getLast? with _ | last
  · rfl
  · by_cases hup : (last == ".." || path.segments.getLast? == some ".") = true
    · simp only [hup, if_true]
      rcases List.foldlM t.enter _ _ with e | d <;> rfl
    · simp only [hup, if_false, Bool.false_eq_true]
      rcases List.foldlM t.enter _ _ with e | d
      · rfl
      · by_cases hlen : last.utf8ByteSize > maxName <;> simp only [hlen, if_true, if_false] <;> rfl

/-- What following a path that leads somewhere comes down to: a directory, or a name in one. -/
theorem follow_ok {t : FileTree} {path : Path} {g : Target} (h : t.follow path = .ok g) :
    textFault? path = none ∧
    ((∃ d, path.steps.foldlM t.enter path.origin = .ok d ∧ g = .directory d) ∨
     (∃ last d, path.steps.getLast? = some last ∧ (last == "..") = false ∧
        path.steps.dropLast.foldlM t.enter path.origin = .ok d ∧
        g = .entry (d.child last) (path.segments.getLast? == some ""))) := by
  rw [follow_eq] at h
  split at h
  · cases h
  rename_i hfault
  refine ⟨hfault, ?_⟩
  unfold followNames at h
  split at h
  · rename_i hnone
    rw [List.getLast?_eq_none_iff.1 hnone]
    cases h
    exact .inl ⟨_, rfl, rfl⟩
  · rename_i last hlast
    split at h
    · obtain ⟨d, hd, rfl⟩ := except_map_ok h
      exact .inl ⟨d, hd, rfl⟩
    · rename_i hup
      obtain ⟨d, hd, h⟩ := except_bind_ok h
      split at h
      · cases h
      · simp only [Bool.or_eq_true, not_or, Bool.not_eq_true] at hup
        cases h
        exact .inr ⟨last, d, hlast, hup.1, hd, rfl⟩

/-- A path that can be followed leads to the place that it denotes. -/
theorem follow_place {t : FileTree} {path : Path} {g : Target} (h : t.follow path = .ok g) :
    g.place = path.place := by
  unfold Path.place
  rcases (follow_ok h).2 with ⟨d, hd, rfl⟩ | ⟨last, d, hlast, hup, hd, rfl⟩
  · exact foldlM_enter_place t _ _ _ hd
  · -- the last name is taken from where the others lead, and it does not lead up
    rw [← List.dropLast_append_getLast? last hlast, List.foldl_append, ← foldlM_enter_place t _ _ _ hd]
    simp [Target.place, Place.go, hup]

/-- The place of a name in a directory is never where names begin. -/
theorem follow_entry_names {t : FileTree} {path : Path} {p : Place} {slash : Bool}
    (h : t.follow path = .ok (.entry p slash)) : p.names ≠ [] := by
  rcases (follow_ok h).2 with ⟨d, -, hg⟩ | ⟨last, d, -, -, -, hg⟩
  · cases hg
  · cases hg; simp [Place.child]

/-! ## Trees that grow -/

/-- What stood in the first tree stands in the second: directories as they were, files with some
content. -/
structure Grows (t u : FileTree) : Prop where
  directory : ∀ {p}, t.get? p = some .directory → u.get? p = some .directory
  file : ∀ {p c}, t.get? p = some (.file c) → ∃ c', u.get? p = some (.file c')

theorem Grows.refl (t : FileTree) : Grows t t := ⟨id, fun {_} c h => ⟨c, h⟩⟩

theorem Grows.trans {t u v : FileTree} (h : Grows t u) (h' : Grows u v) : Grows t v :=
  ⟨fun hd => h'.directory (h.directory hd), fun hf => let ⟨_, hc⟩ := h.file hf; h'.file hc⟩

theorem Grows.enter_ok {t u : FileTree} (h : Grows t u) {dir p : Place} {name : String}
    (he : t.enter dir name = .ok p) : u.enter dir name = .ok p := by
  unfold enter at he ⊢
  split at he
  · rename_i hup; rw [if_pos hup]; exact he
  · rename_i hup
    rw [if_neg hup]
    split at he
    · cases he
    · rename_i hlen
      rw [if_neg hlen]
      rcases hg : t.get? (dir.child name) with _ | (c | _) <;> rw [hg] at he
      · cases he
      · cases he
      · rw [h.directory hg]; exact he

/-- A name that leads nowhere for another reason than that it is missing keeps doing so. -/
theorem Grows.enter_error {t u : FileTree} (h : Grows t u) {dir : Place} {name : String} {e : FileError}
    (he : t.enter dir name = .error e) (hne : e ≠ .notFound) : u.enter dir name = .error e := by
  unfold enter at he ⊢
  split at he
  · cases he
  · rename_i hup
    rw [if_neg hup]
    split at he
    · rename_i hlen; rw [if_pos hlen]; exact he
    · rename_i hlen
      rw [if_neg hlen]
      rcases hg : t.get? (dir.child name) with _ | (c | _) <;> rw [hg] at he
      · cases he; exact absurd rfl hne
      · obtain ⟨c', hc'⟩ := h.file hg
        rw [hc']; exact he
      · cases he

theorem Grows.foldlM_ok {t u : FileTree} (h : Grows t u) :
    ∀ {names : List String} {dir p : Place}, names.foldlM t.enter dir = .ok p → names.foldlM u.enter dir = .ok p
  | [], _, _, he => he
  | n :: ns, dir, p, he => by
    rw [List.foldlM_cons] at he ⊢
    obtain ⟨d, hd, he⟩ := except_bind_ok he
    rw [h.enter_ok hd]
    exact h.foldlM_ok he

theorem Grows.foldlM_error {t u : FileTree} (h : Grows t u) {e : FileError} (hne : e ≠ .notFound) :
    ∀ {names : List String} {dir : Place}, names.foldlM t.enter dir = .error e → names.foldlM u.enter dir = .error e
  | [], _, he => by cases he
  | n :: ns, dir, he => by
    rw [List.foldlM_cons] at he ⊢
    rcases hd : t.enter dir n with e' | d <;> rw [hd] at he
    · cases he
      rw [h.enter_error hd hne]; rfl
    · -- the names before the one that fails lead where they led
      rw [h.enter_ok hd]
      exact h.foldlM_error hne he

theorem Grows.follow_ok {t u : FileTree} (h : Grows t u) {path : Path} {g : Target}
    (hf : t.follow path = .ok g) : u.follow path = .ok g := by
  rw [follow_eq] at hf ⊢
  split at hf
  · cases hf
  unfold followNames at hf ⊢
  split at hf
  · exact hf
  · split at hf
    · rename_i hup
      obtain ⟨d, hd, rfl⟩ := except_map_ok hf
      rw [if_pos hup, h.foldlM_ok hd]; rfl
    · rename_i hup
      obtain ⟨d, hd, hf⟩ := except_bind_ok hf
      rw [if_neg hup, h.foldlM_ok hd]
      exact hf

theorem Grows.follow_error {t u : FileTree} (h : Grows t u) {path : Path} {e : FileError}
    (hf : t.follow path = .error e) (hne : e ≠ .notFound) : u.follow path = .error e := by
  rw [follow_eq] at hf ⊢
  split at hf
  · exact hf
  unfold followNames at hf ⊢
  split at hf
  · cases hf
  · split at hf
    · rename_i hup
      rw [if_pos hup]
      rcases hd : path.steps.foldlM t.enter path.origin with e' | d <;> rw [hd] at hf
      · cases hf
        rw [h.foldlM_error hne hd]; rfl
      · cases hf
    · rename_i hup
      rw [if_neg hup]
      rcases hd : path.steps.dropLast.foldlM t.enter path.origin with e' | d <;> rw [hd] at hf
      · cases hf
        rw [h.foldlM_error hne hd]; rfl
      · rw [h.foldlM_ok hd]
        exact hf

end FileTree

end ApiScaffold
