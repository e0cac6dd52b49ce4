/-
A run with force repairs what it finds. Whatever stood in the files and in the ledger, an emitter with force puts
every text into its file and its digest into the ledger, but for the files that are protected (`Forces`). What the
run leaves is therefore up to date, and a run without force leaves it alone.
-/
import ApiScaffold.Proofs.Generation.Again
import ApiScaffold.Proofs.Generation.Saved

namespace ApiScaffold

open Emitter (ledgerKey)

/-- An emitter that puts texts into their files by force. -/
structure Emitter.Forces (outs : List Path) (e : Emitter) (t : FileTree) : Prop where
  force : e.options.force = true
  taken : ∀ m ∈ e.emissions, m.path ∈ outs ∧ ledgerKey m.path ∈ e.emitted
  /-- A text whose file is not protected stands there, and the ledger knows it. -/
  stands : ∀ m ∈ e.emissions, e.options.protection.covers (ledgerKey m.path) = false →
    t.read m.path = .ok m.text.toUTF8 ∧ e.ledger.get? (ledgerKey m.path) = some (Digest.ofText m.text)

namespace Emitter.Forces

variable {outs : List Path} {e : Emitter} {t u : FileTree} {text : String} {path : Path} {qs : List Question}

/-- A file that is left alone by force is protected. -/
theorem protected_of_keeps (h : Forces outs e t) {d : Decision} (why : Keeps e t text path d qs) :
    e.options.protection.covers (ledgerKey path) = true := by
  have unforced : ∀ {c}, ¬ Compares e t path c := fun looked => Bool.false_ne_true (looked.unforced.symm.trans h.force)
  cases why with
  | guarded hcovered => exact hcovered
  | unchanged looked _ => exact absurd looked unforced
  | declined doubts _ => exact absurd doubts.toCompares unforced

/-- What is emitted next has a place and a key of its own. -/
theorem apart (h : Forces outs e t) (places : ∀ p ∈ outs, ∀ q ∈ outs, p.place = q.place → p = q) (hpath : path ∈ outs)
    (fresh : ledgerKey path ∉ e.emitted) {m : Emission} (hm : m ∈ e.emissions) :
    m.path.place ≠ path.place ∧ ledgerKey m.path ≠ ledgerKey path := by
  obtain ⟨hout, htaken⟩ := h.taken m hm
  have hkey : ledgerKey m.path ≠ ledgerKey path := fun heq => fresh (heq ▸ htaken)
  exact ⟨fun heq => hkey (congrArg ledgerKey (places _ hout _ hpath heq)), hkey⟩

theorem emit (h : Forces outs e t) (places : ∀ p ∈ outs, ∀ q ∈ outs, p.place = q.place → p = q) (hpath : path ∈ outs)
    (text : String) : Forces outs (e.emit t text path).1 (e.emit t text path).2.1 := by
  have taken : ∀ {d : Decision}, ∀ m ∈ e.emissions ++ [⟨path, text, d⟩],
      m.path ∈ outs ∧ ledgerKey m.path ∈ ledgerKey path :: e.emitted := by
    intro d m hm
    rcases List.mem_append.1 hm with hm | hm
    · exact ⟨(h.taken m hm).1, List.mem_cons_of_mem _ (h.taken m hm).2⟩
    · cases List.mem_singleton.1 hm
      exact ⟨hpath, List.mem_cons_self ..⟩
  have hs := emit_spec e t text path
  generalize e.emit t text path = r at hs ⊢
  cases hs with
  | duplicate _ => exact h
  | failed _ _ adds =>
    refine ⟨h.force, fun m hm => ⟨(h.taken m hm).1, List.mem_cons_of_mem _ (h.taken m hm).2⟩, fun m hm hcov => ?_⟩
    obtain ⟨hread, hentry⟩ := h.stands m hm hcov
    exact ⟨adds.grows.read_same hread (adds.fileAt _), hentry⟩
  | kept _ why =>
    refine ⟨h.force, taken, fun m hm hcov => ?_⟩
    rcases List.mem_append.1 hm with hm | hm
    · exact h.stands m hm hcov
    · cases List.mem_singleton.1 hm
      exact absurd ((h.protected_of_keeps why).symm.trans hcov) (by decide)
  | adopted _ looked _ => exact absurd (looked.unforced.symm.trans h.force) Bool.false_ne_true
  | wrote fresh _ done =>
    refine ⟨h.force, taken, fun m hm hcov => ?_⟩
    rcases List.mem_append.1 hm with hm | hm
    · -- older texts stand at other places, and have other entries
      obtain ⟨hplace, hkey⟩ := h.apart places hpath fresh hm
      obtain ⟨hread, hentry⟩ := h.stands m hm hcov
      exact ⟨(FileTree.writeDeep_grows done).read_same hread (FileTree.writeDeep_fileAt_ne done hplace),
        ((Ledger.get?_insert _ _ _ _).trans (if_neg hkey)).trans hentry⟩
    · cases List.mem_singleton.1 hm
      exact ⟨FileTree.writeDeep_read done, (Ledger.get?_insert _ _ _ _).trans (if_pos rfl)⟩

end Emitter.Forces

theorem Job.final_forces {j : Job} (t : FileTree) (hforce : j.config.overwrite = true)
    (hplaces : ∀ p ∈ j.outputs, ∀ q ∈ j.outputs, p.place = q.place → p = q) :
    (j.final t).emitter.Forces j.outputs (j.final t).tree := by
  refine j.final_induction t (P := fun e u => e.Forces j.outputs u) ?_
    fun e u text path hpath h => h.emit hplaces hpath text
  refine ⟨hforce, ?_, ?_⟩ <;> exact fun m hm => by cases hm

/-- What a run with force leaves behind when it succeeds. -/
structure Job.Repairs (j : Job) (t : FileTree) : Prop where
  emissions : (j.run t).emissions.map (·.path) = j.outputs
  /-- A file that is not protected holds the new text, and the ledger in its file has the digest. -/
  repaired : ∀ m ∈ (j.run t).emissions, j.config.emitOptions.protection.covers (ledgerKey m.path) = false →
    (j.run t).tree.read m.path = .ok m.text.toUTF8 ∧
      (Ledger.load (j.run t).tree j.config.ledgerPath).get? (ledgerKey m.path) = some (Digest.ofText m.text)
  /-- A run without force then changes nothing and asks nothing. -/
  settled : j.SparesTemplates t → ∀ prompt, ∃ s', ((j.unforced prompt).run (j.run t).tree).result = .ok s' ∧
    s'.changed = 0 ∧ ((j.unforced prompt).run (j.run t).tree).asked = [] ∧
    ∀ p, ((j.unforced prompt).run (j.run t).tree).tree.get? p = (j.run t).tree.get? p

/-- A run with force repairs any state of the files and of the ledger. It is assumed that distinct outputs have
distinct places and that none is the ledger; the run after it needs the same templates again. -/
theorem forced_repairs {j : Job} {t : FileTree} {s : RunSummary} (hforce : j.config.overwrite = true)
    (hplaces : ∀ p ∈ j.outputs, ∀ q ∈ j.outputs, p.place = q.place → p = q)
    (hledger : ∀ p ∈ j.outputs, p.place ≠ j.config.ledgerPath.place) (hok : (j.run t).result = .ok s) :
    j.Repairs t := by
  obtain ⟨performed, hload⟩ := Job.run_saved hok
  have hpaths : (j.final t).emitter.emissions.map (·.path) = j.outputs := emissions_of_ok performed
  have hforces := Job.final_forces t hforce hplaces
  have hoptions : (j.final t).emitter.options = j.config.emitOptions := j.final_options t
  constructor
  · rw [j.run_emissions t]
    exact hpaths
  · rw [j.run_emissions t]
    intro m hm hcov
    obtain ⟨hread, hentry⟩ := hforces.stands m hm (hoptions ▸ hcov)
    obtain ⟨hout, htaken⟩ := hforces.taken m hm
    -- what the tasks left is there still when the ledger has been saved
    refine ⟨(j.run_grows_final t).read_same hread (j.run_fileAt_of_ne (hledger _ hout)), ?_⟩
    rw [hload, Emitter.get?_prune, if_pos htaken]
    exact hentry
  · intro htemplates prompt
    -- a run with force has declined nothing, whatever the prompt of the next one answers
    obtain ⟨s', hs', hnone, hsame, -, hasked⟩ := Job.run_unforced prompt
      (fun h => absurd (h.symm.trans hforce) Bool.false_ne_true) hplaces hledger htemplates hok
    exact ⟨s', hs', hnone, hasked hforce, hsame⟩

/-- A run with force in a project whose index was edited and whose ledger is no ledger. -/
def repairRun : KnownRun where
  job := clientJob { clientConfig "a" with overwrite := true }
  found := projectWith [fileEntry ["ledger"] "\x7b", fileEntry ["out", "index.ts"] "mine", directoryEntry ["out"]]
  outputs := clientOutputs
  left := builtProject
  emissions := [⟨⟨"out/index.ts"⟩, "a", .overwritten⟩]
  asked := []
  succeeds := true
  outputs_eq := outputs_clientJob "a"
  course_eq := by decide +kernel

theorem forced_repairs_edited : repairRun.job.Repairs repairRun.found ∧
    repairRun.left.read ⟨"out/index.ts"⟩ = .ok "a".toUTF8 ∧ repairRun.job.SparesTemplates repairRun.found := by
  have hplaces : ∀ p ∈ repairRun.job.outputs, ∀ q ∈ repairRun.job.outputs, p.place = q.place → p = q := by
    rw [repairRun.outputs_eq]
    decide +kernel
  have hledger : ∀ p ∈ repairRun.job.outputs, p.place ≠ repairRun.job.config.ledgerPath.place := by
    rw [repairRun.outputs_eq]
    decide +kernel
  obtain ⟨s, hok⟩ : ∃ s, (repairRun.job.run repairRun.found).result = .ok s := repairRun.succeeded rfl
  have hrepairs := forced_repairs rfl hplaces hledger hok
  refine ⟨hrepairs, ?_, ?_⟩
  · have hindex := hrepairs.repaired _ (repairRun.mem_emissions (List.mem_singleton_self _)) (by decide +kernel)
    rw [repairRun.tree_eq] at hindex
    exact hindex.1
  · intro dir hdir
    cases hdir
    refine ⟨["index", "variables", "configuration", "api_ts", "models"].map ("client_typescript/" ++ · ++ ".j2"),
      by decide +kernel, ?_⟩
    rw [repairRun.tree_eq]
    decide +kernel

/-! ## A ledger among the templates -/

/-- Saves its ledger where a template of the user's own is looked for. -/
def ledgerTemplateRun : KnownRun where
  job := clientJob { clientConfig "t" with overwrite := true, checksumFile := some ⟨"t/client_typescript/index.j2"⟩ }
  found := ⟨clientTemplates "t" "x" "x"⟩
  outputs := clientOutputs
  left := ⟨[fileEntry ["t", "client_typescript", "index.j2"] (ledgerText [("out/index.ts", "9dd4e461268c8034f5c8564e155c67a6")]),
    directoryEntry ["t", "client_typescript"], fileEntry ["out", "index.ts"] "x", directoryEntry ["out"]] ++
    clientTemplates "t" "x" "x"⟩
  emissions := [⟨⟨"out/index.ts"⟩, "x", .written⟩]
  asked := []
  succeeds := true
  outputs_eq := outputs_clientJob "t"
  course_eq := by decide +kernel

/-- It is not enough that no output is a template of the user's own: the ledger may become one, and then the next run
renders another text. -/
theorem forced_unsettled :
    ¬ ∀ (j : Job) (t : FileTree) (s : RunSummary), j.config.overwrite = true →
      (∀ p ∈ j.outputs, ∀ q ∈ j.outputs, p.place = q.place → p = q) →
      (∀ p ∈ j.outputs, p.place ≠ j.config.ledgerPath.place) →
      (∀ dir, j.config.templates = some dir → ∀ p ∈ j.outputs, p.place.isWithin dir.place = false) →
      (j.run t).result = .ok s →
      ∃ s', ((j.unforced .alwaysDecline).run (j.run t).tree).result = .ok s' ∧ s'.changed = 0 := by
  intro claim
  have hplaces : ∀ p ∈ ledgerTemplateRun.job.outputs, ∀ q ∈ ledgerTemplateRun.job.outputs, p.place = q.place → p = q := by
    rw [ledgerTemplateRun.outputs_eq]
    decide +kernel
  have hledger : ∀ p ∈ ledgerTemplateRun.job.outputs, p.place ≠ ledgerTemplateRun.job.config.ledgerPath.place := by
    rw [ledgerTemplateRun.outputs_eq]
    decide +kernel
  have houtside : ∀ p ∈ ledgerTemplateRun.job.outputs, p.place.isWithin (Path.mk "t").place = false := by
    rw [ledgerTemplateRun.outputs_eq]
    decide +kernel
  have hchanged : ((ledgerTemplateRun.job.unforced .alwaysDecline).run ledgerTemplateRun.left).result.toOption.map
      (·.changed) = some 1 := by decide +kernel
  obtain ⟨s, hok⟩ : ∃ s, (ledgerTemplateRun.job.run ledgerTemplateRun.found).result = .ok s :=
    ledgerTemplateRun.succeeded rfl
  obtain ⟨s', hs', hnone⟩ := claim ledgerTemplateRun.job ledgerTemplateRun.found s rfl hplaces hledger
    (fun dir hdir => by cases hdir; exact houtside) hok
  rw [ledgerTemplateRun.tree_eq] at hs'
  rw [hs'] at hchanged
  simp only [Except.toOption, Option.map_some, hnone] at hchanged
  cases hchanged

end ApiScaffold
