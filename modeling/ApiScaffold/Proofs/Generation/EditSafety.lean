/-
Edits survive. The ledger file never holds a digest that no successful run vouches for, whatever
is written, adopted, left alone, dropped or aborted, and whatever others do to all files but the ledger;
so a file that a run finds and replaces still has the digest of a text that an earlier run produced.
-/
import ApiScaffold.Proofs.Generation.History

namespace ApiScaffold

/-- A job that replaces nothing by itself, in a history with one ledger. -/
structure Job.Careful (ledger : Path) (j : Job) : Prop where
  unforced : j.config.overwrite = false
  prompts : j.config.untracked = .prompt
  ledgerPath : j.config.ledgerPath = ledger
  declines : ∀ asked, j.prompt asked ≠ .accept
  apart : ∀ p ∈ j.outputs, p.place ≠ ledger.place

/-- A change by others to anything but the file of the ledger. -/
def SparesLedger (ledger : Path) (t u : FileTree) : Prop := u.fileAt ledger.place = t.fileAt ledger.place

/-- A run that succeeded rendered a text with a digest for a ledger key. -/
def Vouched (rs : List Run) (key digest : String) : Prop :=
  ∃ r ∈ rs, r.Succeeded ∧ ∃ m ∈ r.outcome.emissions, Emitter.ledgerKey m.path = key ∧ Digest.ofText m.text = digest

theorem Vouched.cons {rs : List Run} {key digest : String} (h : Vouched rs key digest) (r : Run) :
    Vouched (r :: rs) key digest :=
  let ⟨r', hr, h⟩ := h
  ⟨r', List.mem_cons_of_mem _ hr, h⟩

/-! ## Entries during a run -/

/-- Where the entries of an emitter come from: the ledger that the run began with, and what the run
emitted. Paths that were not taken up have their old entries. -/
structure Sourced (base : Ledger) (e : Emitter) : Prop where
  entry : ∀ k d, e.ledger.get? k = some d → base.get? k = some d ∨
    ∃ m ∈ e.emissions, Emitter.ledgerKey m.path = k ∧ Digest.ofText m.text = d
  fresh : ∀ k, k ∉ e.emitted → e.ledger.get? k = base.get? k

/-- Recording a text under its path, with the emission that goes with it, keeps entries sourced. -/
theorem Sourced.record {base : Ledger} {e : Emitter} (h : Sourced base e) (text : String) (path : Path)
    (qs : List Question) (d : Decision) :
    Sourced base (((e.takeUp path qs).record text path).conclude text path d) := by
  have hget : ∀ k, (((e.takeUp path qs).record text path).conclude text path d).ledger.get? k =
      if k = Emitter.ledgerKey path then some (Digest.ofText text) else e.ledger.get? k :=
    fun k => Ledger.get?_insert _ _ _ _
  constructor
  · intro k dg hk
    rw [hget] at hk
    split at hk
    · rename_i hkey
      cases hk
      exact .inr ⟨⟨path, text, d⟩, List.mem_append_right _ (List.mem_singleton_self _), hkey.symm, rfl⟩
    · rcases h.entry k dg hk with hb | ⟨m, hm, hmk⟩
      · exact .inl hb
      · exact .inr ⟨m, List.mem_append_left _ hm, hmk⟩
  · intro k hk
    rw [Emitter.conclude, Emitter.record, Emitter.takeUp, List.mem_cons, not_or] at hk
    obtain ⟨hne, hk⟩ := hk
    rw [hget, if_neg hne]
    exact h.fresh k hk

theorem sourced_emit {base : Ledger} {e : Emitter} (h : Sourced base e) (t : FileTree) (text : String) (path : Path) :
    Sourced base (e.emit t text path).1 := by
  have hs := Emitter.emit_spec e t text path
  generalize e.emit t text path = r at hs ⊢
  cases hs with
  | duplicate _ => exact h
  | failed _ _ _ => exact ⟨h.entry, fun k hk => h.fresh k (List.not_mem_of_not_mem_cons hk)⟩
  | kept _ _ =>
    refine ⟨fun k d hk => ?_, fun k hk => h.fresh k (List.not_mem_of_not_mem_cons hk)⟩
    rcases h.entry k d hk with hb | ⟨m, hm, hmk⟩
    · exact .inl hb
    · exact .inr ⟨m, List.mem_append_left _ hm, hmk⟩
  | adopted _ _ _ => exact h.record ..
  | wrote _ _ _ => exact h.record ..

/-! ## The ledger file over histories -/

/-- Every entry in the file of the ledger is vouched for. -/
def LedgerVouched (ledger : Path) (t : FileTree) (rs : List Run) : Prop :=
  ∀ k d, Ledger.entryAt t ledger k = some d → Vouched rs k d

theorem LedgerVouched.run {ledger : Path} {t : FileTree} {rs : List Run} (h : LedgerVouched ledger t rs) {j : Job}
    (hj : j.Careful ledger) : LedgerVouched ledger (j.run t).tree (⟨j, t⟩ :: rs) := by
  obtain rfl := hj.ledgerPath
  have hsourced : Sourced (j.ledger t) (j.final t).emitter :=
    j.final_induction t (P := fun e _ => Sourced (j.ledger t) e) ⟨fun _ _ => .inl, fun _ _ => rfl⟩
      fun e t' text path _ he => sourced_emit he t' text path
  intro k d hk
  rcases j.run_entryAt (t := t) hj.apart with ⟨-, hsame⟩ | ⟨hok, hentry⟩
  · rw [hsame] at hk
    exact (h k d hk).cons _
  · -- the file now holds the entries of this run's emitter
    rw [hentry] at hk
    split at hk
    · rcases hsourced.entry k d hk with hbase | ⟨m, hm, hmk⟩
      · exact (h k d (Ledger.entryAt_of_load hbase)).cons _
      · refine ⟨⟨j, t⟩, List.mem_cons_self .., hok, m, ?_, hmk⟩
        rw [← j.run_emissions t] at hm
        exact hm
    · cases hk

theorem History.ledgerVouched {ledger : Path} {start t : FileTree} {rs : List Run}
    (h : History (Job.Careful ledger) (SparesLedger ledger) start t rs)
    (hstart : start.fileAt ledger.place = none) : LedgerVouched ledger t rs := by
  induction h with
  | start =>
    intro k d hk
    rw [Ledger.entryAt_of_none hstart] at hk
    cases hk
  | run _ hj ih => exact ih.run hj
  | change _ hu ih =>
    intro k d hk
    rw [Ledger.entryAt_congr hu] at hk
    exact ih k d hk

/-! ## What an emit replaces -/

/-- An emit that changes a file that is there writes to the place of that file, and if the path led to the
file before, then the ledger knew the digest of the old content under the key of the path. -/
theorem replaced_known {e : Emitter} {t : FileTree} {text : String} {path : Path} {p : Place} {old : ByteArray}
    (hforce : e.options.force = false) (huntracked : e.options.untracked = .prompt)
    (hdeclines : ∀ asked, e.prompt asked ≠ .accept) (hold : t.fileAt p = some old)
    (hnew : (e.emit t text path).2.1.fileAt p ≠ some old) :
    p = path.place ∧ (t.pathExists path = true → Emitter.ledgerKey path ∉ e.emitted ∧
      e.ledger.get? (Emitter.ledgerKey path) = some (Digest.ofBytes old)) := by
  have hp : p = path.place := by
    by_contra hne
    exact hnew ((Emitter.fileAt_emit_ne text hne).trans hold)
  subst hp
  refine ⟨rfl, fun hexists => ?_⟩
  have hs := Emitter.emit_spec e t text path
  generalize e.emit t text path = r at hs hnew
  cases hs with
  | duplicate _ => exact absurd hold hnew
  | failed _ _ adds => exact absurd ((adds.fileAt _).trans hold) hnew
  | kept _ _ => exact absurd hold hnew
  | adopted _ _ _ => exact absurd hold hnew
  | wrote fresh why _ =>
    cases why with
    | missing _ h => rw [h] at hexists; cases hexists
    | forced _ h => rw [hforce] at h; cases h
    | untracked _ unknown => rw [huntracked] at unknown; cases unknown.2
    | unedited looked known _ =>
      -- the only reason left under these settings, and it compares the file with the ledger
      have hc := (FileTree.read_ok.1 looked.read).2
      rw [hold] at hc
      cases hc
      exact ⟨fresh, known⟩
    | accepted _ answer => exact absurd answer (hdeclines _)

/-- Edit safety. In any history of careful runs and of changes by others to all files but the ledger, from
a tree without a ledger: when a further run changes the bytes of a file, it does so at the place of the
path that it emits, and if that path led to the file when the emit began, then the replaced bytes have the
digest of a text that an earlier successful run rendered for the same ledger key. -/
theorem replaced_was_generated {ledger : Path} {start t : FileTree} {rs : List Run}
    (hstart : start.fileAt ledger.place = none)
    (h : History (Job.Careful ledger) (SparesLedger ledger) start t rs)
    {j : Job} (hj : j.Careful ledger) {c : Call} (hc : c ∈ j.calls t) {p : Place} {old : ByteArray}
    (hold : c.tree.fileAt p = some old) (hnew : c.after.fileAt p ≠ some old) :
    p = c.path.place ∧ (c.tree.pathExists c.path = true →
      Vouched rs (Emitter.ledgerKey c.path) (Digest.ofBytes old)) := by
  obtain rfl := hj.ledgerPath
  obtain ⟨hoptions, hprompt⟩ := j.calls_options t c hc
  have hsourced : Sourced (j.ledger t) c.emitter :=
    (j.calls_induction t (P := fun e _ => Sourced (j.ledger t) e) ⟨fun _ _ => .inl, fun _ _ => rfl⟩
      (fun e t' text path _ he => sourced_emit he t' text path) c hc).1
  obtain ⟨hp, hknown⟩ := replaced_known (by rw [hoptions]; exact hj.unforced) (by rw [hoptions]; exact hj.prompts)
    (by rw [hprompt]; exact hj.declines) hold hnew
  refine ⟨hp, fun hexists => ?_⟩
  obtain ⟨hfresh, hentry⟩ := hknown hexists
  rw [hsourced.fresh _ hfresh] at hentry
  exact h.ledgerVouched hstart _ _ (Ledger.entryAt_of_load hentry)

/-- A second run of other templates replaces the index of the small project, which the first run wrote. -/
theorem replaced_was_generated_index :
    Vouched [buildRun.run] "out/index.ts" (Digest.ofBytes "a".toUTF8) := by
  have hcalls : ((clientJob (clientConfig "c")).calls buildRun.left).map (fun c =>
      (c.path, c.tree.pathExists c.path, c.tree.fileAt ⟨.above 0, ["out", "index.ts"]⟩,
        c.after.fileAt ⟨.above 0, ["out", "index.ts"]⟩)) =
      [(⟨"out/index.ts"⟩, true, some "a".toUTF8, some "b".toUTF8)] := by
    decide +kernel
  obtain ⟨c, hc, hfacts⟩ := List.mem_map.1 (hcalls ▸ List.mem_singleton_self _)
  simp only [Prod.mk.injEq] at hfacts
  obtain ⟨hpath, hexists, hold, hnew⟩ := hfacts
  have hapart : ∀ p ∈ buildRun.job.outputs, p.place ≠ (Path.mk "ledger").place := by
    rw [buildRun.outputs_eq]
    decide +kernel
  have hother : (clientJob (clientConfig "c")).Careful ⟨"ledger"⟩ := ⟨rfl, rfl, rfl, fun _ h => (by cases h), hapart⟩
  have hbuild : buildRun.job.Careful ⟨"ledger"⟩ := ⟨rfl, rfl, rfl, fun _ h => (by cases h), hapart⟩
  have hstart : buildRun.found.fileAt (Path.mk "ledger").place = none := by decide +kernel
  rw [← buildRun.tree_eq] at hc
  have hvouched := (replaced_was_generated hstart (.run .start hbuild) hother hc hold (by rw [hnew]; decide)).2 hexists
  rw [hpath] at hvouched
  exact hvouched

/-- A file of others, and settings with an output directory that leads to it through one that is not there. -/
def hiddenProject : FileTree := ⟨fileEntry ["index.ts"] "mine" :: clientTemplates "t" "a" broken⟩

def hidingConfig : Config := { clientConfig "t" with output := ⟨"missing/.."⟩ }

/-- Without the condition on the path this fails: a path through a directory that is missing leads nowhere, so
the emit takes its file for missing too, makes the directory, and with it finds the file and replaces it. -/
theorem hidden_file_replaced :
    ¬ ∀ (ledger : Path) (start t : FileTree) (rs : List Run) (j : Job) (c : Call) (p : Place) (old : ByteArray),
      start.fileAt ledger.place = none → History (Job.Careful ledger) (SparesLedger ledger) start t rs →
      j.Careful ledger → c ∈ j.calls t → c.tree.fileAt p = some old → c.after.fileAt p ≠ some old →
      Vouched rs (Emitter.ledgerKey c.path) (Digest.ofBytes old) := by
  intro claim
  have hcareful : (clientJob hidingConfig).Careful ⟨"ledger"⟩ :=
    ⟨rfl, rfl, rfl, fun _ h => (by cases h), by decide +kernel⟩
  have hcalls : ((clientJob hidingConfig).calls hiddenProject).map (fun c =>
      (c.tree.fileAt ⟨.above 0, ["index.ts"]⟩, c.after.fileAt ⟨.above 0, ["index.ts"]⟩)) =
      [(some "mine".toUTF8, some "a".toUTF8)] := by
    decide +kernel
  obtain ⟨c, hc, hfacts⟩ := List.mem_map.1 (hcalls ▸ List.mem_singleton_self _)
  obtain ⟨hold, hnew⟩ := Prod.mk.inj hfacts
  obtain ⟨r, hr, -⟩ := claim ⟨"ledger"⟩ hiddenProject hiddenProject [] _ c _ _ (by decide +kernel) .start hcareful hc
    hold (by rw [hnew]; decide)
  cases hr

end ApiScaffold
