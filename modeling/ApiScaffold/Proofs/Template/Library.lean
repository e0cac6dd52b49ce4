/-
Looking up templates while files are written. A tree between two others, in which every file is as in the
first or as in the second, reads like both wherever these read alike; so a library finds the same templates
in all three, and what is rendered from them is the same.
-/
import ApiScaffold.Proofs.FileTree.Write
import ApiScaffold.Proofs.Ledger.Persistence
import ApiScaffold.Proofs.Template.Consult
import ApiScaffold.Template.Library

namespace ApiScaffold

namespace FileTree

/-! ## Trees between two others -/

/-- A tree on the way from one to another: each file is as at the beginning or as at the end. -/
structure Between (t m u : FileTree) : Prop where
  before : Grows t m
  after : Grows m u
  file : ∀ p, m.fileAt p = t.fileAt p ∨ m.fileAt p = u.fileAt p

/-- A path that cannot be read for another reason than that nothing is there stays so. -/
theorem Grows.read_error {t u : FileTree} (h : Grows t u) {path : Path} {e : FileError}
    (hr : t.read path = .error e) (hne : e ≠ .notFound) : u.read path = .error e := by
  unfold FileTree.read at hr ⊢
  rw [lookup_eq] at hr ⊢
  rcases hf : t.follow path with e' | g <;> rw [hf] at hr
  · cases hr
    rw [h.follow_error hf hne]
    rfl
  · rw [h.follow_ok hf]
    rcases g with p | ⟨p, slash⟩
    · exact hr
    · rcases hg : t.get? p with _ | (c | _)
      · simp only [Except.bind, standsAt, hg] at hr
        cases hr
        exact absurd rfl hne
      · obtain ⟨c', hc'⟩ := h.file hg
        cases slash
        · simp only [Except.bind, standsAt, hg] at hr
          cases hr
        · simp only [Except.bind, standsAt, hg] at hr
          simp only [Except.bind, standsAt, hc']
          exact hr
      · simp only [Except.bind, standsAt, hg] at hr
        simp only [Except.bind, standsAt, h.directory hg]
        exact hr

theorem readText_of_error {t : FileTree} {path : Path} {e : FileError} (h : t.read path = .error e) :
    t.readText path = .error e := by
  rw [readText_eq, h]; rfl

/-- What is read does not depend on more than the content. -/
theorem readText_congr {t u : FileTree} {path : Path} (h : u.read path = t.read path) :
    u.readText path = t.readText path := by
  rw [readText_eq, readText_eq, h]

theorem readText_ne_notFound {t : FileTree} {path : Path} {c : ByteArray} (h : t.read path = .ok c) :
    t.readText path ≠ .error .notFound := by
  rw [readText_eq, h]
  simp only [Except.bind]
  rcases String.fromUTF8? c with _ | text <;> simp

/-- A path that reads alike in two trees reads so in every tree between them. -/
theorem Between.readText {t m u : FileTree} (h : Between t m u) {path : Path}
    (hsame : u.readText path = t.readText path) : m.readText path = t.readText path := by
  rcases ht : t.read path with e | c
  · by_cases hne : e = .notFound
    · subst hne
      -- nothing is found at the beginning nor at the end, so nothing is found in between
      rw [readText_of_error ht] at hsame ⊢
      rcases hm : m.read path with e | c
      · by_cases hne : e = .notFound
        · subst hne; exact readText_of_error hm
        · rw [readText_of_error (h.after.read_error hm hne)] at hsame
          rw [readText_of_error hm]; exact hsame
      · obtain ⟨c', hu, -⟩ := h.after.read hm
        exact absurd hsame (readText_ne_notFound hu)
    · exact readText_congr ((h.before.read_error ht hne).trans ht.symm)
  · obtain ⟨c', hm, hfile⟩ := h.before.read ht
    obtain ⟨c'', hu, hfile'⟩ := h.after.read hm
    rcases h.file path.place with heq | heq
    · rw [hfile, (read_ok.1 ht).2] at heq
      cases heq
      exact readText_congr (hm.trans ht.symm)
    · rw [hfile, hfile'] at heq
      cases heq
      exact (readText_congr (hm.trans hu.symm)).trans hsame

end FileTree

namespace Template.Library

/-! ## Libraries -/

/-- Wherever a user's own template of some names may be looked for, two trees read alike. -/
def SameTemplates (names : List String) (userDirectory : Option Path) (t u : FileTree) : Prop :=
  ∀ dir, userDirectory = some dir → ∀ name ∈ names, ∀ p ∈ candidates dir name, u.readText p = t.readText p

theorem SameTemplates.between {names : List String} {userDirectory : Option Path} {t m u : FileTree}
    (h : SameTemplates names userDirectory t u) (hm : FileTree.Between t m u) : SameTemplates names userDirectory m u := by
  intro dir hdir name hname p hp
  have hsame := h dir hdir name hname p hp
  rw [hm.readText hsame]
  exact hsame

theorem firstFile_congr {t u : FileTree} :
    ∀ {ps : List Path}, (∀ p ∈ ps, u.readText p = t.readText p) → firstFile u ps = firstFile t ps
  | [], _ => rfl
  | p :: ps, h => by
    unfold firstFile
    rw [h p (List.mem_cons_self ..), firstFile_congr fun q hq => h q (List.mem_cons_of_mem _ hq)]

theorem find_congr {names : List String} {l : Library} {t u : FileTree} (h : SameTemplates names l.userDirectory t u)
    {name : String} (hname : name ∈ names) : l.find t name = l.find u name := by
  unfold find
  rcases hdir : l.userDirectory with _ | dir
  · rfl
  · simp only [firstFile_congr (h dir hdir name hname)]

theorem render_ok {l l' : Library} {t : FileTree} {name text : String} {context : Frame}
    (h : l.render t name context = .ok (text, l')) : ∃ x, Template.render (l.find t) name context = some x := by
  unfold render at h
  split at h
  · cases h
  · split at h
    · rename_i hx; exact ⟨_, hx⟩
    · cases h

/-- A rendering that needs some names alone gives the same wherever these names have the same templates. -/
theorem render_congr {names : List String} {l l' : Library} {t u : FileTree} {name text : String} {context : Frame}
    (h : SameTemplates names l.userDirectory t u)
    (honly : (Template.render (only names (l.find t)) name context).isSome = true)
    (hr : l.render t name context = .ok (text, l')) : l.render u name context = .ok (text, l') := by
  obtain ⟨x, hx⟩ := Option.isSome_iff_exists.1 honly
  obtain ⟨hname, source, hsource⟩ := source_of_render_only hx
  have ht := render_of_extends (only_extends fun _ _ => rfl) hx
  have hu := render_of_extends (only_extends fun _ hn => find_congr h hn) hx
  unfold render at hr ⊢
  rw [← find_congr h hname, hu]
  rw [ht] at hr
  exact hr

theorem render_userDirectory {l l' : Library} {t : FileTree} {name text : String} {context : Frame}
    (h : l.render t name context = .ok (text, l')) : l'.userDirectory = l.userDirectory := by
  unfold render at h
  split at h
  · cases h
  · split at h
    · cases h; rfl
    · cases h

end Template.Library

end ApiScaffold
