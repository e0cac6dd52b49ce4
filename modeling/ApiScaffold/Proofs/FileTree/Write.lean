/-
What writing does to a tree. Creating directories only puts directories where nothing was; writing a
file with the directories around it changes the content of the place that the path denotes and no other
file, and a write that fails changes no file at all.
-/
import ApiScaffold.Proofs.FileTree.Place

namespace ApiScaffold.FileTree

/-! ## One entry more -/

theorem lookup_filter_ne {p q : Place} (h : q ≠ p) :
    ∀ es : List (Place × FileEntry), (es.filter fun x => x.1 != p).lookup q = es.lookup q
  | [] => rfl
  | (r, e) :: es => by
    rw [List.filter_cons]
    by_cases hr : r = p
    · subst hr
      have hq : (q == r) = false := by simpa using h
      simp [List.lookup_cons, hq, lookup_filter_ne h es]
    · have hr' : ((r, e).1 != p) = true := by simpa using hr
      rw [if_pos hr', List.lookup_cons, List.lookup_cons, lookup_filter_ne h es]

theorem get?_put_self {t : FileTree} {p : Place} {e : FileEntry} (h : p.names ≠ []) :
    (t.put p e).get? p = some e := by
  have hn : p.names.isEmpty = false := by simpa using h
  simp [get?, put, hn]

theorem get?_put_ne {t : FileTree} {p q : Place} {e : FileEntry} (h : q ≠ p) :
    (t.put p e).get? q = t.get? q := by
  have hq : (q == p) = false := by simpa using h
  unfold get? put
  split
  · rfl
  · rw [List.lookup_cons, hq]
    exact lookup_filter_ne h t.entries

/-! ## Directories -/

/-- The second tree is the first with some directories more. -/
def AddsDirectories (t u : FileTree) : Prop :=
  ∀ p, u.get? p = t.get? p ∨ (t.get? p = none ∧ u.get? p = some .directory)

theorem AddsDirectories.refl (t : FileTree) : AddsDirectories t t := fun _ => .inl rfl

theorem AddsDirectories.trans {t u v : FileTree} (h : AddsDirectories t u) (h' : AddsDirectories u v) :
    AddsDirectories t v := by
  intro p
  rcases h p with h1 | ⟨h1, h2⟩ <;> rcases h' p with h3 | ⟨h3, h4⟩
  · exact .inl (h3.trans h1)
  · exact .inr ⟨h1 ▸ h3, h4⟩
  · exact .inr ⟨h1, h3.trans h2⟩
  · rw [h2] at h3; cases h3

theorem AddsDirectories.fileAt {t u : FileTree} (h : AddsDirectories t u) (p : Place) :
    u.fileAt p = t.fileAt p := by
  rcases h p with h1 | ⟨h1, h2⟩
  · exact fileAt_congr h1
  · unfold FileTree.fileAt; rw [h1, h2]

theorem AddsDirectories.grows {t u : FileTree} (h : AddsDirectories t u) : Grows t u := by
  constructor
  · intro p hp
    rcases h p with h1 | ⟨h1, _⟩
    · exact h1.trans hp
    · rw [hp] at h1; cases h1
  · intro p c hp
    rcases h p with h1 | ⟨h1, _⟩
    · exact ⟨c, h1.trans hp⟩
    · rw [hp] at h1; cases h1

theorem put_directory_adds {t : FileTree} {p : Place} (hn : p.names ≠ []) (h : t.get? p = none) :
    AddsDirectories t (t.put p .directory) := by
  intro q
  by_cases hq : q = p
  · subst hq; exact .inr ⟨h, get?_put_self hn⟩
  · exact .inl (get?_put_ne hq)

theorem isDirectory_iff {t : FileTree} {path : Path} :
    t.isDirectory path = true ↔ t.lookup path = .ok .directory := by
  unfold isDirectory
  rcases t.lookup path with e | (c | _) <;> simp

/-- What stands at a target. -/
def standsAt (t : FileTree) : Target → Except FileError FileEntry
  | .directory _ => .ok .directory
  | .entry p slash => match t.get? p with
    | none => .error .notFound
    | some .directory => .ok .directory
    | some (.file c) => if slash then .error .notADirectory else .ok (.file c)

theorem lookup_eq (t : FileTree) (path : Path) : t.lookup path = (t.follow path).bind t.standsAt := by
  unfold lookup
  rcases t.follow path with e | g
  · rfl
  · simp only [bind, Except.bind]
    rcases g with p | ⟨p, slash⟩
    · rfl
    · unfold standsAt
      rcases t.get? p with _ | (c | _)
      · rfl
      · cases slash <;> rfl
      · rfl

theorem lookup_directory {t : FileTree} {path : Path} :
    t.lookup path = .ok .directory ↔ ∃ g, t.follow path = .ok g ∧ t.standsAt g = .ok .directory := by
  rw [lookup_eq]
  constructor
  · exact except_bind_ok
  · rintro ⟨g, hf, hg⟩
    rw [hf]; exact hg

theorem standsAt_directory {t : FileTree} {g : Target} :
    t.standsAt g = .ok .directory ↔ ∀ p slash, g = .entry p slash → t.get? p = some .directory := by
  rcases g with p | ⟨p, slash⟩
  · simp [standsAt]
  · simp only [standsAt, Target.entry.injEq, and_imp]
    rcases hp : t.get? p with _ | (c | _)
    · simp only [reduceCtorEq, false_iff, not_forall]
      exact ⟨p, slash, rfl, rfl, by simp [hp]⟩
    · have : (if slash = true then Except.error FileError.notADirectory else .ok (FileEntry.file c)) ≠
          .ok .directory := by split <;> simp
      simp only [this, false_iff, not_forall]
      exact ⟨p, slash, rfl, rfl, by simp [hp]⟩
    · simp only [true_iff]
      rintro q slash' rfl -
      exact hp

theorem standsAt_file {t : FileTree} {g : Target} {c : ByteArray} (h : t.standsAt g = .ok (.file c)) :
    g = .entry g.place false ∧ t.get? g.place = some (.file c) := by
  rcases g with p | ⟨p, slash⟩
  · simp [standsAt] at h
  · simp only [standsAt] at h
    rcases hp : t.get? p with _ | (c' | _) <;> simp only [hp] at h
    · cases h
    · cases slash
      · cases h; exact ⟨rfl, hp⟩
      · cases h
    · cases h

theorem Grows.isDirectory {t u : FileTree} (h : Grows t u) {path : Path} (hd : t.isDirectory path = true) :
    u.isDirectory path = true := by
  rw [isDirectory_iff, lookup_directory] at hd ⊢
  obtain ⟨g, hf, hg⟩ := hd
  exact ⟨g, h.follow_ok hf, standsAt_directory.2 fun p slash e => h.directory (standsAt_directory.1 hg p slash e)⟩

theorem createDirectory_ok {t u : FileTree} {path : Path} (h : t.createDirectory path = .ok u) :
    AddsDirectories t u ∧ u.isDirectory path = true := by
  unfold createDirectory at h
  obtain ⟨g, hf, h⟩ := except_bind_ok h
  rcases g with p | ⟨p, slash⟩
  · cases h
  · by_cases hs : (t.get? p).isSome = true
    · simp only [hs, if_true] at h; cases h
    · simp only [hs, Bool.false_eq_true, if_false] at h
      cases h
      have hn := follow_entry_names hf
      -- the path leads to the same place in the tree that has the directory
      have hadd := put_directory_adds hn (Option.not_isSome_iff_eq_none.1 hs)
      refine ⟨hadd, isDirectory_iff.2 (lookup_directory.2 ⟨_, hadd.grows.follow_ok hf, ?_⟩)⟩
      refine standsAt_directory.2 fun q slash' e => ?_
      cases e
      exact get?_put_self hn

theorem ensureDirectory_ok {t u : FileTree} {path : Path} (h : t.ensureDirectory path = .ok u) :
    AddsDirectories t u ∧ u.isDirectory path = true := by
  unfold ensureDirectory at h
  split at h
  · rename_i v hv
    cases h
    exact createDirectory_ok hv
  · split at h
    · rename_i hd
      cases h
      exact ⟨.refl t, hd⟩
    · cases h

/-- A directory that exists needs nothing done. -/
theorem ensureDirectory_of_isDirectory {t : FileTree} {path : Path} (h : t.isDirectory path = true) :
    t.ensureDirectory path = .ok t := by
  unfold ensureDirectory
  have hc : ∃ e, t.createDirectory path = .error e := by
    obtain ⟨g, hf, hg⟩ := lookup_directory.1 (isDirectory_iff.1 h)
    unfold createDirectory
    rw [hf]
    refine ⟨.alreadyExists, ?_⟩
    rcases g with p | ⟨p, slash⟩
    · rfl
    · simp only [bind, Except.bind, standsAt_directory.1 hg p slash rfl]; rfl
  obtain ⟨e, he⟩ := hc
  rw [he]
  simp [h]

theorem createDirectoriesWithin_adds (t : FileTree) :
    ∀ (levels : Nat) (path : Path), AddsDirectories t (t.createDirectoriesWithin levels path).1 ∧
      ((t.createDirectoriesWithin levels path).2 = .ok () →
        path.text.isEmpty = true ∨ (t.createDirectoriesWithin levels path).1.isDirectory path = true)
  | 0, path => ⟨.refl t, fun h => by cases h⟩
  | levels + 1, path => by
    unfold createDirectoriesWithin
    by_cases htext : path.text.isEmpty = true
    · rw [if_pos htext]; exact ⟨.refl t, fun _ => .inl htext⟩
    rw [if_neg htext]
    split
    · rename_i u hu
      obtain ⟨hadd, hdir⟩ := ensureDirectory_ok hu
      exact ⟨hadd, fun _ => .inr hdir⟩
    · split
      · exact ⟨.refl t, fun h => by cases h⟩
      · -- the directory around it comes first, and what was made for it stays when the rest fails
        rename_i parent _
        obtain ⟨hadd, -⟩ := createDirectoriesWithin_adds t levels parent
        rcases hrec : t.createDirectoriesWithin levels parent with ⟨u, e | ⟨⟩⟩ <;> rw [hrec] at hadd
        · exact ⟨hadd, fun h => by cases h⟩
        · simp only
          split
          · rename_i v hv
            obtain ⟨hadd', hdir⟩ := ensureDirectory_ok hv
            exact ⟨hadd.trans hadd', fun _ => .inr hdir⟩
          · exact ⟨hadd, fun h => by cases h⟩
    · exact ⟨.refl t, fun h => by cases h⟩

theorem createDirectories_of_ready {t : FileTree} {path : Path}
    (h : path.text.isEmpty = true ∨ t.isDirectory path = true) : t.createDirectories path = (t, .ok ()) := by
  unfold createDirectories createDirectoriesWithin
  split
  · rfl
  · rename_i htext
    rw [ensureDirectory_of_isDirectory (h.resolve_left htext)]

/-! ## Files -/

/-- What reading a path gives comes from the file at its place. -/
theorem read_ok {t : FileTree} {path : Path} {c : ByteArray} :
    t.read path = .ok c ↔ t.follow path = .ok (.entry path.place false) ∧ t.fileAt path.place = some c := by
  unfold read
  rw [lookup_eq]
  constructor
  · intro h
    obtain ⟨e, hl, h⟩ := except_bind_ok h
    obtain ⟨g, hf, hg⟩ := except_bind_ok hl
    rcases e with c' | _
    · cases h
      obtain ⟨hentry, hc⟩ := standsAt_file hg
      rw [follow_place hf] at hentry hc
      exact ⟨hentry ▸ hf, fileAt_eq_some.2 hc⟩
    · cases h
  · rintro ⟨hf, hc⟩
    rw [hf]
    simp only [Except.bind, standsAt, fileAt_eq_some.1 hc]
    rfl

theorem pathExists_of_read {t : FileTree} {path : Path} {c : ByteArray} (h : t.read path = .ok c) :
    t.pathExists path = true := by
  unfold read at h
  obtain ⟨e, hl, -⟩ := except_bind_ok h
  unfold pathExists
  rw [hl]

/-- A path that leads to a file still leads to it, with whatever content, in a tree that grew. -/
theorem Grows.read {t u : FileTree} (h : Grows t u) {path : Path} {c : ByteArray} (hr : t.read path = .ok c) :
    ∃ c', u.read path = .ok c' ∧ u.fileAt path.place = some c' := by
  obtain ⟨hf, hc⟩ := read_ok.1 hr
  obtain ⟨c', hc'⟩ := h.file (fileAt_eq_some.1 hc)
  exact ⟨c', read_ok.2 ⟨h.follow_ok hf, fileAt_eq_some.2 hc'⟩, fileAt_eq_some.2 hc'⟩

/-- A path that leads to a file leads to the same content when its file was left alone in a tree that grew. -/
theorem Grows.read_same {t u : FileTree} (h : Grows t u) {path : Path} {c : ByteArray} (hr : t.read path = .ok c)
    (hsame : u.fileAt path.place = t.fileAt path.place) : u.read path = .ok c := by
  obtain ⟨c', hr', hc'⟩ := h.read hr
  rw [hsame, (read_ok.1 hr).2] at hc'
  cases hc'
  exact hr'

/-- What a path leads to is there still in a tree that grew. -/
theorem Grows.pathExists {t u : FileTree} (h : Grows t u) {path : Path} (hp : t.pathExists path = true) :
    u.pathExists path = true := by
  unfold FileTree.pathExists at hp
  rcases hl : t.lookup path with err | (c | _) <;> rw [hl] at hp
  · cases hp
  · have hread : t.read path = .ok c := by unfold FileTree.read; rw [hl]; rfl
    obtain ⟨c', hr', -⟩ := h.read hread
    exact pathExists_of_read hr'
  · have hdir := isDirectory_iff.1 (h.isDirectory (isDirectory_iff.2 hl))
    unfold FileTree.pathExists
    rw [hdir]

theorem put_file_grows {t : FileTree} {p : Place} {c : ByteArray} (hn : p.names ≠ [])
    (h : t.get? p ≠ some .directory) : Grows t (t.put p (.file c)) := by
  constructor
  · intro q hq
    by_cases hqp : q = p
    · subst hqp; exact absurd hq h
    · rw [get?_put_ne hqp]; exact hq
  · intro q c' hq
    by_cases hqp : q = p
    · subst hqp; exact ⟨c, get?_put_self hn⟩
    · rw [get?_put_ne hqp]; exact ⟨c', hq⟩

theorem write_ok {t u : FileTree} {path : Path} {c : ByteArray} (h : t.write path c = .ok u) :
    t.follow path = .ok (.entry path.place false) ∧ path.place.names ≠ [] ∧
      t.get? path.place ≠ some .directory ∧ u = t.put path.place (.file c) := by
  unfold write at h
  obtain ⟨g, hf, h⟩ := except_bind_ok h
  have hp := follow_place hf
  rcases g with p | ⟨p, slash⟩
  · cases h
  · simp only [Target.place] at hp
    subst hp
    have hn := follow_entry_names hf
    simp only at h
    rcases hg : t.get? path.place with _ | (c' | _) <;> rw [hg] at h
    · cases slash <;> cases h
      exact ⟨hf, hn, by simp, rfl⟩
    · cases slash <;> cases h
      exact ⟨hf, hn, by simp, rfl⟩
    · cases h

/-- A file that can be reached can be written. -/
theorem write_of_follow {t : FileTree} {path : Path} {c : ByteArray}
    (hf : t.follow path = .ok (.entry path.place false)) (h : t.get? path.place ≠ some .directory) :
    t.write path c = .ok (t.put path.place (.file c)) := by
  unfold write
  rw [hf]
  simp only [bind, Except.bind]
  rcases hg : t.get? path.place with _ | (c' | _)
  · rfl
  · rfl
  · exact absurd hg h

/-- What writing a file with the directories around it does. -/
inductive WriteDeepSpec (t : FileTree) (path : Path) (c : ByteArray) :
    FileTree × Except Failure Unit → Prop
  | done {u : FileTree} (adds : AddsDirectories t u)
      (ready : ∀ parent, path.parent? = some parent → parent.text.isEmpty = true ∨ u.isDirectory parent = true)
      (reached : u.follow path = .ok (.entry path.place false)) (named : path.place.names ≠ [])
      (free : u.get? path.place ≠ some .directory) :
      WriteDeepSpec t path c (u.put path.place (.file c), .ok ())
  | failed {u : FileTree} {f : Failure} (adds : AddsDirectories t u) : WriteDeepSpec t path c (u, .error f)

theorem writeDeep_spec (t : FileTree) (path : Path) (c : ByteArray) :
    WriteDeepSpec t path c (t.writeDeep path c) := by
  unfold writeDeep
  rcases hp : path.parent? with _ | parent
  · simp only
    rcases hw : t.write path c with e | u
    · exact .failed (.refl t)
    · obtain ⟨hf, hn, hd, rfl⟩ := write_ok hw
      exact .done (.refl t) (fun q hq => by rw [hp] at hq; cases hq) hf hn hd
  · simp only
    obtain ⟨hadd, hready⟩ := createDirectoriesWithin_adds t (parent.segments.length + 1) parent
    unfold createDirectories
    rcases hc : t.createDirectoriesWithin (parent.segments.length + 1) parent with ⟨u, e | ⟨⟩⟩
    · rw [hc] at hadd
      exact .failed hadd
    · rw [hc] at hadd hready
      simp only [Except.mapError]
      rcases hw : u.write path c with e | v
      · exact .failed hadd
      · obtain ⟨hf, hn, hd, rfl⟩ := write_ok hw
        refine .done hadd (fun q hq => ?_) hf hn hd
        rw [hp] at hq
        cases hq
        exact hready rfl

theorem writeDeep_fileAt_ne {t u : FileTree} {path : Path} {c : ByteArray} {r : Except Failure Unit}
    (h : t.writeDeep path c = (u, r)) {q : Place} (hq : q ≠ path.place) : u.fileAt q = t.fileAt q := by
  have hs := writeDeep_spec t path c
  rw [h] at hs
  cases hs with
  | done adds _ _ _ _ => exact (fileAt_congr (get?_put_ne hq)).trans (adds.fileAt q)
  | failed adds => exact adds.fileAt q

theorem writeDeep_grows {t u : FileTree} {path : Path} {c : ByteArray} {r : Except Failure Unit}
    (h : t.writeDeep path c = (u, r)) : Grows t u := by
  have hs := writeDeep_spec t path c
  rw [h] at hs
  cases hs with
  | done adds _ _ named free => exact adds.grows.trans (put_file_grows named free)
  | failed adds => exact adds.grows

theorem writeDeep_error {t u : FileTree} {path : Path} {c : ByteArray} {f : Failure}
    (h : t.writeDeep path c = (u, .error f)) : AddsDirectories t u := by
  have hs := writeDeep_spec t path c
  rw [h] at hs
  cases hs with
  | failed adds => exact adds

theorem writeDeep_read {t u : FileTree} {path : Path} {c : ByteArray} (h : t.writeDeep path c = (u, .ok ())) :
    u.read path = .ok c := by
  have hs := writeDeep_spec t path c
  rw [h] at hs
  cases hs with
  | done _ _ reached named free =>
    exact read_ok.2 ⟨(put_file_grows named free).follow_ok reached, fileAt_eq_some.2 (get?_put_self named)⟩

/-- Writing what was just written succeeds and changes nothing. -/
theorem writeDeep_again {t u : FileTree} {path : Path} {c : ByteArray} (h : t.writeDeep path c = (u, .ok ())) :
    ∃ v, u.writeDeep path c = (v, .ok ()) ∧ ∀ q, v.get? q = u.get? q := by
  have hs := writeDeep_spec t path c
  rw [h] at hs
  cases hs with
  | @done u' _ ready reached named free =>
    have hgrows : Grows u' (u'.put path.place (.file c)) := put_file_grows named free
    have hself : (u'.put path.place (.file c)).get? path.place = some (.file c) := get?_put_self named
    have hwrite : (u'.put path.place (.file c)).write path c =
        .ok ((u'.put path.place (.file c)).put path.place (.file c)) :=
      write_of_follow (hgrows.follow_ok reached) (by rw [hself]; simp)
    refine ⟨(u'.put path.place (.file c)).put path.place (.file c), ?_, fun q => ?_⟩
    · -- the directories around the file are there already
      unfold writeDeep
      rcases hp : path.parent? with _ | parent
      · simp only [hwrite]
      · simp only [createDirectories_of_ready ((ready parent hp).imp_right hgrows.isDirectory), Except.mapError, hwrite]
    · by_cases hq : q = path.place
      · subst hq
        rw [get?_put_self named, hself]
      · exact get?_put_ne hq

/-- Something can be written to a path, with the directories around it. -/
def Writable (t : FileTree) (path : Path) : Prop := ∃ c, (t.writeDeep path c).2 = .ok ()

theorem write_other {t u : FileTree} {path : Path} {b : ByteArray} (h : t.write path b = .ok u) (c : ByteArray) :
    t.write path c = .ok (t.put path.place (.file c)) := by
  obtain ⟨reached, -, free, -⟩ := write_ok h
  exact write_of_follow reached free

/-- Whether a path can be written to does not depend on what is written. -/
theorem Writable.writeDeep {t : FileTree} {path : Path} (h : t.Writable path) (c : ByteArray) :
    ∃ u, t.writeDeep path c = (u, .ok ()) := by
  obtain ⟨b, hb⟩ := h
  unfold FileTree.writeDeep at hb ⊢
  rcases hp : path.parent? with _ | parent
  · simp only [hp] at hb ⊢
    rcases hw : t.write path b with e | u
    · rw [hw] at hb; cases hb
    · rw [write_other hw c]; exact ⟨_, rfl⟩
  · -- the directories are made before the content is looked at
    simp only [hp] at hb ⊢
    rcases hc : t.createDirectories parent with ⟨u, e | ⟨⟩⟩
    · rw [hc] at hb; cases hb
    · rw [hc] at hb
      simp only [Except.mapError] at hb ⊢
      rcases hw : u.write path b with e | v
      · rw [hw] at hb; cases hb
      · rw [write_other hw c]; exact ⟨_, rfl⟩

end ApiScaffold.FileTree
