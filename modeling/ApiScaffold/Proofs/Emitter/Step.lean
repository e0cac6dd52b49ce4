/-
What bringing one text to one path does. `emit_spec` says it once, with the reason for every decision;
what an emit keeps of the tree, the ledger and the emitter follows from it, and callers go by these.
-/
import ApiScaffold.Emitter
import ApiScaffold.Proofs.Ledger.Persistence

namespace ApiScaffold

/-- Whether the bytes of the file were replaced. -/
def Decision.writes : Decision → Bool
  | .written => true
  | .overwritten => true
  | _ => false

/-- A summary counts the decisions to write as changes. -/
theorem RunSummary.changed_ofDecisions : ∀ ds : List Decision, (ofDecisions ds).changed = ds.countP Decision.writes
  | [] => rfl
  | d :: ds => by
    have ih := changed_ofDecisions ds
    unfold changed ofDecisions at ih ⊢
    rw [List.countP_cons]
    cases d <;> simp [Decision.writes] at ih ⊢ <;> omega

namespace Emitter

/-- The emitter when it has taken up a path and asked some questions about it. -/
def takeUp (e : Emitter) (path : Path) (qs : List Question) : Emitter :=
  { e with emitted := ledgerKey path :: e.emitted, asked := e.asked ++ qs }

/-- The emitter when it has brought a text to its path. -/
def conclude (e : Emitter) (text : String) (path : Path) (d : Decision) : Emitter :=
  { e with emissions := e.emissions ++ [⟨path, text, d⟩] }

/-! ## Reasons -/

/-- The file is there, and its content is what decides. -/
structure Compares (e : Emitter) (t : FileTree) (path : Path) (c : ByteArray) : Prop where
  uncovered : e.options.protection.covers (ledgerKey path) = false
  unforced : e.options.force = false
  read : t.read path = .ok c

/-- A file has one content. -/
theorem Compares.unique {e : Emitter} {t : FileTree} {path : Path} {b c : ByteArray} (looked : Compares e t path c)
    (hread : t.read path = .ok b) : b = c :=
  Except.ok.inj (hread.symm.trans looked.read)

/-- The file has to be asked about: it is neither the new output nor what the ledger knows. -/
structure Doubts (e : Emitter) (t : FileTree) (text : String) (path : Path) (c : ByteArray) : Prop
    extends Compares e t path c where
  unknown : e.ledger.get? (ledgerKey path) = none → e.options.untracked = .prompt ∧ c ≠ text.toUTF8
  edited : ∀ d, e.ledger.get? (ledgerKey path) = some d → Digest.ofText text ≠ d ∧ Digest.ofBytes c ≠ d

/-- Why a file is written, and what is asked before. -/
inductive Writes (e : Emitter) (t : FileTree) (text : String) (path : Path) : Decision → List Question → Prop
  | missing (uncovered : e.options.protection.covers (ledgerKey path) = false) (h : t.pathExists path = false) :
      Writes e t text path .written []
  | forced (uncovered : e.options.protection.covers (ledgerKey path) = false) (h : e.options.force = true) :
      Writes e t text path .overwritten []
  | untracked {c : ByteArray} (looked : Compares e t path c)
      (unknown : e.ledger.get? (ledgerKey path) = none ∧ e.options.untracked = .overwrite) :
      Writes e t text path .overwritten []
  | unedited {c : ByteArray} (looked : Compares e t path c)
      (known : e.ledger.get? (ledgerKey path) = some (Digest.ofBytes c))
      (outdated : Digest.ofText text ≠ Digest.ofBytes c) : Writes e t text path .overwritten []
  | accepted {c : ByteArray} (doubts : Doubts e t text path c)
      (answer : e.prompt (e.asked ++ [question text path c]) = .accept) :
      Writes e t text path .overwritten [question text path c]

/-- Why a file is left alone, and what is asked before. -/
inductive Keeps (e : Emitter) (t : FileTree) (text : String) (path : Path) : Decision → List Question → Prop
  | guarded (h : e.options.protection.covers (ledgerKey path) = true) : Keeps e t text path .guarded []
  | unchanged {c : ByteArray} (looked : Compares e t path c)
      (known : e.ledger.get? (ledgerKey path) = some (Digest.ofText text)) : Keeps e t text path .unchanged []
  | declined {c : ByteArray} (doubts : Doubts e t text path c)
      (answer : e.prompt (e.asked ++ [question text path c]) = .decline) :
      Keeps e t text path .declined [question text path c]

/-- Every question is about the file of the path, and with reason. -/
def Founded (e : Emitter) (t : FileTree) (text : String) (path : Path) (qs : List Question) : Prop :=
  ∀ q ∈ qs, ∃ c, Doubts e t text path c ∧ q = question text path c

theorem founded_nil {e : Emitter} {t : FileTree} {text : String} {path : Path} : Founded e t text path [] :=
  fun _ h => by cases h

theorem founded_one {e : Emitter} {t : FileTree} {text : String} {path : Path} {c : ByteArray}
    (h : Doubts e t text path c) : Founded e t text path [question text path c] := by
  intro q hq
  exact ⟨c, h, List.mem_singleton.1 hq⟩

theorem Writes.founded {e : Emitter} {t : FileTree} {text : String} {path : Path} {d : Decision}
    {qs : List Question} (h : Writes e t text path d qs) : Founded e t text path qs := by
  cases h with
  | accepted doubts _ => exact founded_one doubts
  | _ => exact founded_nil

theorem Keeps.founded {e : Emitter} {t : FileTree} {text : String} {path : Path} {d : Decision}
    {qs : List Question} (h : Keeps e t text path d qs) : Founded e t text path qs := by
  cases h with
  | declined doubts _ => exact founded_one doubts
  | _ => exact founded_nil

theorem Writes.writes {e : Emitter} {t : FileTree} {text : String} {path : Path} {d : Decision}
    {qs : List Question} (h : Writes e t text path d qs) : d.writes = true := by
  cases h <;> rfl

theorem Keeps.writes {e : Emitter} {t : FileTree} {text : String} {path : Path} {d : Decision}
    {qs : List Question} (h : Keeps e t text path d qs) : d.writes = false := by
  cases h <;> rfl

/-- A file that is left alone is asked about only if that is declined. -/
theorem Keeps.unasked {e : Emitter} {t : FileTree} {text : String} {path : Path} {d : Decision}
    {qs : List Question} (h : Keeps e t text path d qs) (hd : d ≠ .declined) : qs = [] := by
  cases h with
  | declined _ _ => exact absurd rfl hd
  | _ => rfl

/-- No protected file is written. -/
theorem Writes.uncovered {e : Emitter} {t : FileTree} {text : String} {path : Path} {d : Decision}
    {qs : List Question} (h : Writes e t text path d qs) : e.options.protection.covers (ledgerKey path) = false := by
  cases h with
  | missing uncovered _ => exact uncovered
  | forced uncovered _ => exact uncovered
  | untracked looked _ => exact looked.uncovered
  | unedited looked _ _ => exact looked.uncovered
  | accepted doubts _ => exact doubts.uncovered

/-! ## The emit -/

/-- What an emit does. -/
inductive EmitSpec (e : Emitter) (t : FileTree) (text : String) (path : Path) :
    Emitter × FileTree × Except EmitError Decision → Prop
  | duplicate (again : ledgerKey path ∈ e.emitted) : EmitSpec e t text path (e, t, .error (.duplicateOutput path))
  | failed {u : FileTree} {qs : List Question} {err : EmitError} (fresh : ledgerKey path ∉ e.emitted)
      (founded : Founded e t text path qs) (adds : FileTree.AddsDirectories t u) :
      EmitSpec e t text path (e.takeUp path qs, u, .error err)
  | kept {d : Decision} {qs : List Question} (fresh : ledgerKey path ∉ e.emitted)
      (why : Keeps e t text path d qs) :
      EmitSpec e t text path ((e.takeUp path qs).conclude text path d, t, .ok d)
  | adopted (fresh : ledgerKey path ∉ e.emitted) (looked : Compares e t path text.toUTF8)
      (unknown : e.ledger.get? (ledgerKey path) = none ∧ e.options.untracked = .prompt) :
      EmitSpec e t text path (((e.takeUp path []).record text path).conclude text path .unchanged, t, .ok .unchanged)
  | wrote {d : Decision} {qs : List Question} {u : FileTree} (fresh : ledgerKey path ∉ e.emitted)
      (why : Writes e t text path d qs) (done : t.writeDeep path text.toUTF8 = (u, .ok ())) :
      EmitSpec e t text path (((e.takeUp path qs).record text path).conclude text path d, u, .ok d)

/-- What is planned for a path, with the reason. -/
inductive PlanSpec (e : Emitter) (t : FileTree) (text : String) (path : Path) :
    Except FileTree.Failure Plan → Prop
  | unreadable {cause : FileError} (uncovered : e.options.protection.covers (ledgerKey path) = false)
      (unforced : e.options.force = false) (present : t.pathExists path = true) (unread : t.read path = .error cause) :
      PlanSpec e t text path (.error ⟨path, cause⟩)
  | keep {d : Decision} (why : Keeps e t text path d []) : PlanSpec e t text path (.ok (.skip d))
  | adopt (looked : Compares e t path text.toUTF8)
      (unknown : e.ledger.get? (ledgerKey path) = none ∧ e.options.untracked = .prompt) :
      PlanSpec e t text path (.ok .adopt)
  | write {d : Decision} (why : Writes e t text path d []) : PlanSpec e t text path (.ok (.write d))
  | ask {c : ByteArray} (doubts : Doubts e t text path c) : PlanSpec e t text path (.ok (.ask c))

theorem plan_spec (e : Emitter) (t : FileTree) (text : String) (path : Path) :
    PlanSpec e t text path (e.plan t text path) := by
  unfold plan
  -- the cases follow the checks in the order in which they are made
  by_cases hcov : e.options.protection.covers (ledgerKey path) = true
  · rw [if_pos hcov]; exact .keep (.guarded hcov)
  rw [if_neg hcov]
  rw [Bool.not_eq_true] at hcov
  rcases hex : t.pathExists path with _ | _
  · exact .write (.missing hcov hex)
  simp only [Bool.not_true, Bool.false_eq_true, if_false]
  rcases hforce : e.options.force with _ | _
  swap
  · exact .write (.forced hcov hforce)
  simp only [Bool.false_eq_true, if_false]
  rcases hread : t.read path with cause | c
  · exact .unreadable hcov hforce hex hread
  have looked : Compares e t path c := ⟨hcov, hforce, hread⟩
  simp only
  rcases hentry : e.ledger.get? (ledgerKey path) with _ | old
  · simp only
    rcases hun : e.options.untracked with _ | _
    · simp only
      split
      · rename_i hsame
        obtain rfl : c = text.toUTF8 := ByteArray.ext hsame
        exact .adopt looked ⟨hentry, hun⟩
      · rename_i hdiff
        refine .ask ⟨looked, fun _ => ⟨hun, fun h => hdiff (h ▸ rfl)⟩, ?_⟩
        intro d hd
        rw [hentry] at hd
        cases hd
    · exact .write (.untracked looked ⟨hentry, hun⟩)
  · simp only
    split
    · rename_i hnew
      subst hnew
      exact .keep (.unchanged looked hentry)
    · rename_i hnew
      split
      · rename_i hcur
        subst hcur
        exact .write (.unedited looked hentry hnew)
      · rename_i hcur
        refine .ask ⟨looked, fun h => ?_, fun d hd => ?_⟩
        · rw [hentry] at h; cases h
        · rw [hentry] at hd
          cases hd
          exact ⟨hnew, hcur⟩

/-- A plan does not depend on which paths were taken up, nor on what was asked. -/
theorem plan_takeUp (e : Emitter) (t : FileTree) (text : String) (path q : Path) :
    (e.takeUp q []).plan t text path = e.plan t text path := rfl

theorem takeUp_nil (e : Emitter) (path : Path) :
    e.takeUp path [] = { e with emitted := ledgerKey path :: e.emitted } := by
  simp [takeUp]

theorem emit_spec (e : Emitter) (t : FileTree) (text : String) (path : Path) :
    EmitSpec e t text path (e.emit t text path) := by
  unfold emit
  by_cases hdup : e.emitted.contains (ledgerKey path) = true
  · rw [if_pos hdup]; exact .duplicate (by simpa using hdup)
  rw [if_neg hdup, ← takeUp_nil]
  simp only [plan_takeUp]
  have fresh : ledgerKey path ∉ e.emitted := by simpa using hdup
  have hplan := plan_spec e t text path
  generalize e.plan t text path = p at hplan ⊢
  cases hplan with
  | unreadable _ _ _ _ => exact .failed fresh founded_nil (.refl t)
  | keep why => exact .kept fresh why
  | adopt looked unknown => exact .adopted fresh looked unknown
  | write why =>
    simp only [carryOut, write]
    rcases hw : t.writeDeep path text.toUTF8 with ⟨u, f | ⟨⟩⟩
    · exact .failed fresh founded_nil (FileTree.writeDeep_error hw)
    · exact .wrote fresh why hw
  | @ask c doubts =>
    -- the question is noted before the prompt sees it
    have hq : ({ (e.takeUp path []) with asked := (e.takeUp path []).asked ++ [question text path c] } : Emitter)
        = e.takeUp path [question text path c] := by
      simp [takeUp]
    simp only [carryOut, hq]
    have hp : (e.takeUp path []).prompt ((e.takeUp path []).asked ++ [question text path c])
        = e.prompt (e.asked ++ [question text path c]) := by
      simp [takeUp]
    rw [hp]
    rcases ha : e.prompt (e.asked ++ [question text path c]) with _ | _ | reason
    · simp only [write]
      rcases hw : t.writeDeep path text.toUTF8 with ⟨u, f | ⟨⟩⟩
      · exact .failed fresh (founded_one doubts) (FileTree.writeDeep_error hw)
      · exact .wrote fresh (.accepted doubts ha) hw
    · exact .kept fresh (.declined doubts ha)
    · exact .failed fresh (founded_one doubts) (.refl t)

/-- A file with a reason to be left alone is left alone. -/
theorem emit_of_keeps {e : Emitter} {t : FileTree} {text : String} {path : Path} {d : Decision} {qs : List Question}
    (fresh : ledgerKey path ∉ e.emitted) (why : Keeps e t text path d qs) :
    e.emit t text path = ((e.takeUp path qs).conclude text path d, t, .ok d) := by
  have hdup : ¬ e.emitted.contains (ledgerKey path) = true := by simpa using fresh
  unfold emit
  rw [if_neg hdup, ← takeUp_nil]
  simp only [plan_takeUp]
  cases why with
  | guarded h => unfold plan; rw [if_pos h]; rfl
  | unchanged looked known =>
    unfold plan
    rw [if_neg (by rw [looked.uncovered]; exact Bool.false_ne_true), FileTree.pathExists_of_read looked.read,
      looked.unforced, looked.read]
    simp only [known, Bool.not_true, Bool.false_eq_true, if_false, if_true]
    rfl
  | @declined c doubts answer =>
    have hplan : e.plan t text path = .ok (.ask c) := by
      unfold plan
      rw [if_neg (by rw [doubts.uncovered]; exact Bool.false_ne_true), FileTree.pathExists_of_read doubts.read,
        doubts.unforced, doubts.read]
      simp only [Bool.not_true, Bool.false_eq_true, if_false]
      rcases hentry : e.ledger.get? (ledgerKey path) with _ | old
      · obtain ⟨hun, hdiff⟩ := doubts.unknown hentry
        simp only [hun]
        rw [if_neg fun h => hdiff (ByteArray.ext h)]
      · obtain ⟨hnew, hcur⟩ := doubts.edited old hentry
        simp only [hnew, hcur, if_false]
    rw [hplan]
    simp [carryOut, takeUp, conclude, answer]

/-! ## What an emit keeps -/

theorem options_emit (e : Emitter) (t : FileTree) (text : String) (path : Path) :
    (e.emit t text path).1.options = e.options := by
  have hs := emit_spec e t text path
  generalize e.emit t text path = r at hs ⊢
  cases hs <;> rfl

theorem prompt_emit (e : Emitter) (t : FileTree) (text : String) (path : Path) :
    (e.emit t text path).1.prompt = e.prompt := by
  have hs := emit_spec e t text path
  generalize e.emit t text path = r at hs ⊢
  cases hs <;> rfl

theorem ledgerPath_emit (e : Emitter) (t : FileTree) (text : String) (path : Path) :
    (e.emit t text path).1.ledger.path = e.ledger.path := by
  have hs := emit_spec e t text path
  generalize e.emit t text path = r at hs ⊢
  cases hs <;> rfl

/-- An emit takes the key of its path, even if it fails, and no other. -/
theorem mem_emitted_emit {e : Emitter} {t : FileTree} {text : String} {path : Path} {k : String} :
    k ∈ (e.emit t text path).1.emitted ↔ k = ledgerKey path ∨ k ∈ e.emitted := by
  have hs := emit_spec e t text path
  generalize e.emit t text path = r at hs ⊢
  cases hs with
  | duplicate again =>
    refine ⟨.inr, ?_⟩
    rintro (rfl | h)
    · exact again
    · exact h
  | _ => exact List.mem_cons

/-- A key stays taken, and after an emit that of its path is taken too, even if the emit failed. -/
theorem emitted_emit (e : Emitter) (t : FileTree) (text : String) (path : Path) :
    ledgerKey path ∈ (e.emit t text path).1.emitted ∧ e.emitted ⊆ (e.emit t text path).1.emitted :=
  ⟨mem_emitted_emit.2 (.inl rfl), fun _ hk => mem_emitted_emit.2 (.inr hk)⟩

/-- A path whose key is taken is refused, and nothing else happens. -/
theorem emit_of_taken {e : Emitter} {t : FileTree} {text : String} {path : Path} (h : ledgerKey path ∈ e.emitted) :
    e.emit t text path = (e, t, .error (.duplicateOutput path)) := by
  unfold emit
  rw [if_pos (List.contains_iff_mem.2 h)]

/-- An emit only touches the ledger entry of its own path. -/
theorem get?_emit_ne {e : Emitter} {t : FileTree} {text : String} {path : Path} {k : String}
    (h : k ≠ ledgerKey path) : (e.emit t text path).1.ledger.get? k = e.ledger.get? k := by
  have hs := emit_spec e t text path
  generalize e.emit t text path = r at hs ⊢
  cases hs with
  | adopted _ _ _ => exact (Ledger.get?_insert _ _ _ _).trans (if_neg h)
  | wrote _ _ _ => exact (Ledger.get?_insert _ _ _ _).trans (if_neg h)
  | _ => rfl

theorem emit_grows (e : Emitter) (t : FileTree) (text : String) (path : Path) :
    FileTree.Grows t (e.emit t text path).2.1 := by
  have hs := emit_spec e t text path
  generalize e.emit t text path = r at hs ⊢
  cases hs with
  | failed _ _ adds => exact adds.grows
  | wrote _ _ done => exact FileTree.writeDeep_grows done
  | _ => exact .refl t

/-- An emit only touches the file at the place of its path. -/
theorem fileAt_emit_ne {e : Emitter} {t : FileTree} {path : Path} (text : String) {q : Place}
    (h : q ≠ path.place) : (e.emit t text path).2.1.fileAt q = t.fileAt q := by
  have hs := emit_spec e t text path
  generalize e.emit t text path = r at hs ⊢
  cases hs with
  | failed _ _ adds => exact adds.fileAt q
  | wrote _ _ done => exact FileTree.writeDeep_fileAt_ne done h
  | _ => rfl

/-- What is left of the ledger are the entries of the paths that were taken up. -/
theorem get?_prune (e : Emitter) (key : String) :
    e.prune.ledger.get? key = if key ∈ e.emitted then e.ledger.get? key else none := by
  have hretain := e.ledger.get?_retain e.emitted.contains key
  simp only [List.contains_iff_mem] at hretain
  exact hretain

/-! ## An emit that succeeds -/

section

variable {e e' : Emitter} {t t' : FileTree} {text : String} {path : Path} {d : Decision}

/-- An emit that succeeds is about a path that was not taken up, takes it up and adds its text. -/
theorem emit_ok (h : e.emit t text path = (e', t', .ok d)) :
    ledgerKey path ∉ e.emitted ∧ e'.emitted = ledgerKey path :: e.emitted ∧ e'.options = e.options ∧
      e'.emissions = e.emissions ++ [⟨path, text, d⟩] := by
  have hs := emit_spec e t text path
  rw [h] at hs
  cases hs with
  | kept fresh _ => exact ⟨fresh, rfl, rfl, rfl⟩
  | adopted fresh _ _ => exact ⟨fresh, rfl, rfl, rfl⟩
  | wrote fresh _ _ => exact ⟨fresh, rfl, rfl, rfl⟩

/-- With force nothing is asked, so nothing is declined. -/
theorem unforced_of_declined (h : e.emit t text path = (e', t', .ok .declined)) : e.options.force = false := by
  have hs := emit_spec e t text path
  rw [h] at hs
  cases hs with
  | kept _ why => cases why with
    | declined doubts _ => exact doubts.unforced
  | wrote _ why _ => cases why

theorem emit_ok_grows (h : e.emit t text path = (e', t', .ok d)) : FileTree.Grows t t' := by
  have hg := emit_grows e t text path
  rw [h] at hg
  exact hg

theorem emit_ok_fileAt_ne (h : e.emit t text path = (e', t', .ok d)) {q : Place} (hq : q ≠ path.place) :
    t'.fileAt q = t.fileAt q := by
  have hf := fileAt_emit_ne (e := e) (t := t) text hq
  rw [h] at hf
  exact hf

end

end Emitter

end ApiScaffold
