/-
Running again with the same inputs changes nothing. The second run goes in step with the first: it finds the
same templates, renders the same texts, and for each of them finds the file and the ledger entry that the
first run left, so it leaves alone whatever the first run wrote, adopted or left alone. The first run may use
force (`Job.run_unforced`), the second one does not.
-/
import ApiScaffold.Proofs.Generation.Success
import ApiScaffold.Proofs.Template.Library

namespace ApiScaffold

open Emitter (ledgerKey)

/-- What becomes of a decision when the run is repeated. -/
def Decision.again : Decision → Decision
  | .written => .unchanged
  | .overwritten => .unchanged
  | d => d

theorem Decision.writes_again (d : Decision) : d.again.writes = false := by cases d <;> rfl

theorem Decision.again_eq_declined {d : Decision} : d.again = .declined ↔ d = .declined := by
  cases d <;> simp [Decision.again]

def Emission.again (m : Emission) : Emission := { m with decision := m.decision.again }

/-! ## Templates that are needed -/

/-- Whether tasks can be rendered with the templates of some names alone. -/
def rendersWith (names : List String) : List Task → Workspace → Bool
  | [], _ => true
  | k :: ks, w =>
    (Template.render (Template.only names (w.library.find w.tree)) k.template k.context.frame).isSome &&
      rendersWith names ks (k.perform w).2

theorem rendersWith_of_subset {names names' : List String} (h : names ⊆ names') :
    ∀ {ks : List Task} {w : Workspace}, rendersWith names ks w = true → rendersWith names' ks w = true
  | [], _, _ => rfl
  | k :: ks, w, hw => by
    obtain ⟨hhead, htail⟩ := Bool.and_eq_true_iff.1 hw
    obtain ⟨x, hx⟩ := Option.isSome_iff_exists.1 hhead
    have hx' := Template.render_of_extends (Template.only_extends_only h _) hx
    exact Bool.and_eq_true_iff.2 ⟨Option.isSome_iff_exists.2 ⟨x, hx'⟩, rendersWith_of_subset h htail⟩

/-- Tasks that succeed need the templates of some names only. -/
theorem exists_rendersWith :
    ∀ {ks : List Task} {w w' : Workspace}, performAll ks w = (.ok (), w') → ∃ names, rendersWith names ks w = true
  | [], _, _, _ => ⟨[], rfl⟩
  | k :: ks, w, w', h => by
    obtain ⟨text, library, e, t, d, hr, he, hrest⟩ := performAll_cons_ok h
    obtain ⟨x, hx⟩ := Template.Library.render_ok hr
    obtain ⟨names, hnames⟩ := Template.exists_render_only hx
    obtain ⟨names', hrest⟩ := exists_rendersWith hrest
    have hperform : (k.perform w).2 = ⟨library, t, e⟩ := perform_of_emit hr he
    refine ⟨names ++ names', Bool.and_eq_true_iff.2 ⟨?_, ?_⟩⟩
    · exact Option.isSome_iff_exists.2
        ⟨x, Template.render_of_extends (Template.only_extends_only (List.subset_append_left ..) _) hnames⟩
    · rw [hperform]
      exact rendersWith_of_subset (List.subset_append_right ..) hrest

/-- Whether a run leaves alone the templates of the user's own: those of the names that it needs read after
the run as before, wherever they are looked for. -/
def Job.SparesTemplates (j : Job) (t : FileTree) : Prop :=
  ∀ dir, j.config.templates = some dir → ∃ names, rendersWith names j.tasks (j.workspace t) = true ∧
    ∀ name ∈ names, ∀ p ∈ Template.Library.candidates dir name, (j.run t).tree.readText p = t.readText p

/-! ## The same emit again -/

/-- Where an emit left a file and an entry, the same emit without force finds a reason to leave the file alone. -/
theorem keeps_again {e e' v : Emitter} {t t' u : FileTree} {text : String} {path : Path} {d : Decision}
    (h : e.emit t text path = (e', t', .ok d)) (hoptions : v.options = { e.options with force := false })
    (hdeclines : d = .declined → ∀ asked, v.prompt asked = .decline)
    (hentry : v.ledger.get? (ledgerKey path) = e'.ledger.get? (ledgerKey path))
    (hgrows : FileTree.Grows t' u) (hfile : u.fileAt path.place = t'.fileAt path.place) :
    ∃ qs, Emitter.Keeps v u text path d.again qs := by
  have compares : ∀ {c}, e.options.protection.covers (ledgerKey path) = false → t'.read path = .ok c →
      Emitter.Compares v u path c :=
    fun hcov hread => ⟨by rw [hoptions]; exact hcov, by rw [hoptions], hgrows.read_same hread hfile⟩
  -- an entry that was recorded is that of the text
  have recorded : ∀ {qs}, e' = ((e.takeUp path qs).record text path).conclude text path d →
      v.ledger.get? (ledgerKey path) = some (Digest.ofText text) := by
    rintro qs rfl
    exact hentry.trans ((Ledger.get?_insert _ _ _ _).trans (if_pos rfl))
  have hs := Emitter.emit_spec e t text path
  rw [h] at hs
  cases hs with
  | kept _ why =>
    cases why with
    | guarded hcov => exact ⟨_, .guarded (by rw [hoptions]; exact hcov)⟩
    | unchanged looked known => exact ⟨_, .unchanged (compares looked.uncovered looked.read) (hentry.trans known)⟩
    | declined doubts _ =>
      refine ⟨_, .declined ⟨compares doubts.uncovered doubts.read, ?_, ?_⟩ (hdeclines rfl _)⟩
      · intro hnone
        rw [hoptions]
        exact doubts.unknown (hentry.symm.trans hnone)
      · exact fun d' hd' => doubts.edited d' (hentry.symm.trans hd')
  | adopted _ looked _ =>
    exact ⟨_, .unchanged (compares looked.uncovered looked.read) (recorded rfl)⟩
  | wrote _ why done =>
    have hread := FileTree.writeDeep_read done
    have hunchanged : d.again = .unchanged := by cases why <;> rfl
    rw [hunchanged]
    exact ⟨_, .unchanged (compares why.uncovered hread) (recorded rfl)⟩

/-! ## In step -/

/-- What a run whose tasks ended in `w'` left behind of some of them: their files in the tree `u`, and their
entries in the ledger `kept`. -/
structure Left (u : FileTree) (kept : Ledger) (ks : List Task) (w' : Workspace) : Prop where
  grows : FileTree.Grows w'.tree u
  file : ∀ k ∈ ks, u.fileAt k.path.place = w'.tree.fileAt k.path.place
  entry : ∀ k ∈ ks, kept.get? (ledgerKey k.path) = w'.emitter.ledger.get? (ledgerKey k.path)

/-- A run before some of its tasks, on the way from the tree `found` to the tree `u`, with templates that read
alike in both. -/
structure Midway (names : List String) (found u : FileTree) (ks : List Task) (w : Workspace) : Prop where
  places : ∀ k ∈ ks, ∀ k' ∈ ks, k.path.place = k'.path.place → k.path = k'.path
  grows : FileTree.Grows found w.tree
  file : ∀ p, w.tree.fileAt p = found.fileAt p ∨ w.tree.fileAt p = u.fileAt p
  rendered : rendersWith names ks w = true
  templates : Template.Library.SameTemplates names w.library.userDirectory found u

/-- The second run where the first was: it works without force, on the tree and with the ledger that the first
left, and so far has left everything alone. If the first one used force, it had no reason to ask. -/
structure InStep (u : FileTree) (kept : Ledger) (w v : Workspace) : Prop where
  library : v.library = w.library
  tree : v.tree = u
  ledger : v.emitter.ledger = kept
  options : v.emitter.options = { w.emitter.options with force := false }
  declines : w.emitter.options.force = false → ∀ asked, v.emitter.prompt asked = .decline
  unasked : w.emitter.options.force = true → v.emitter.asked = []
  emitted : v.emitter.emitted = w.emitter.emitted
  emissions : v.emitter.emissions = w.emitter.emissions.map Emission.again

section

variable {names : List String} {found u : FileTree} {kept : Ledger} {k : Task} {ks : List Task} {w w' v : Workspace}
  {text : String} {library : Template.Library} {e : Emitter} {t : FileTree} {d : Decision}

theorem Left.tail (h : Left u kept (k :: ks) w') : Left u kept ks w' :=
  ⟨h.grows, fun k' hk' => h.file k' (List.mem_cons_of_mem _ hk'), fun k' hk' => h.entry k' (List.mem_cons_of_mem _ hk')⟩

/-- The file and the entry of a first task are left as its emit left them: later tasks are about others. -/
theorem Left.head (h : Left u kept (k :: ks) w') (hm : Midway names found u (k :: ks) w)
    (hrun : performAll (k :: ks) w = (.ok (), w')) (hrest : performAll ks ⟨library, t, e⟩ = (.ok (), w')) :
    u.fileAt k.path.place = t.fileAt k.path.place ∧
      kept.get? (ledgerKey k.path) = e.ledger.get? (ledgerKey k.path) := by
  have hkeys := head_key_ne hrun
  have hplaces : ∀ k' ∈ ks, k'.path.place ≠ k.path.place := fun k' hk' heq =>
    hkeys k' hk' (congrArg ledgerKey (hm.places k' (List.mem_cons_of_mem _ hk') k (List.mem_cons_self ..) heq))
  exact ⟨(h.file k (List.mem_cons_self ..)).trans (performAll_fileAt hrest hplaces),
    (h.entry k (List.mem_cons_self ..)).trans (performAll_get? hrest hkeys)⟩

/-- A run stays midway when a task has succeeded and its file is as it will be left. -/
theorem Midway.next (h : Midway names found u (k :: ks) w)
    (hr : w.library.render w.tree k.template k.context.frame = .ok (text, library))
    (he : w.emitter.emit w.tree text k.path = (e, t, .ok d)) (hfile : u.fileAt k.path.place = t.fileAt k.path.place) :
    Midway names found u ks ⟨library, t, e⟩ := by
  have hperform : (k.perform w).2 = ⟨library, t, e⟩ := perform_of_emit hr he
  constructor
  · exact fun a ha b hb => h.places a (List.mem_cons_of_mem _ ha) b (List.mem_cons_of_mem _ hb)
  · exact h.grows.trans (Emitter.emit_ok_grows he)
  · intro p
    show t.fileAt p = _ ∨ t.fileAt p = _
    by_cases hp : p = k.path.place
    · subst hp; exact .inr hfile.symm
    · rw [Emitter.emit_ok_fileAt_ne he hp]; exact h.file p
  · rw [← hperform]
    exact (Bool.and_eq_true_iff.1 h.rendered).2
  · show Template.Library.SameTemplates names library.userDirectory found u
    rw [Template.Library.render_userDirectory hr]
    exact h.templates

/-- A run in step stays so when it leaves alone what the first run brought to its path. -/
theorem InStep.next (h : InStep u kept w v) (he : w.emitter.emit w.tree text k.path = (e, t, .ok d)) {qs : List Question}
    (why : Emitter.Keeps v.emitter u text k.path d.again qs) :
    InStep u kept ⟨library, t, e⟩ ⟨library, u, (v.emitter.takeUp k.path qs).conclude text k.path d.again⟩ := by
  obtain ⟨-, hemitted, hoptions, hemissions⟩ := Emitter.emit_ok he
  refine ⟨rfl, rfl, h.ledger, ?_, ?_, ?_, ?_, ?_⟩
  · show v.emitter.options = { e.options with force := false }
    rw [hoptions]
    exact h.options
  · intro hforce
    rw [show e.options = w.emitter.options from hoptions] at hforce
    exact h.declines hforce
  · -- with force the first emit did not decline, and only where it declined is the second one asked about
    intro hforce
    rw [show e.options = w.emitter.options from hoptions] at hforce
    have hqs : qs = [] := why.unasked fun hagain =>
      Bool.false_ne_true ((Emitter.unforced_of_declined (Decision.again_eq_declined.1 hagain ▸ he)).symm.trans hforce)
    show v.emitter.asked ++ qs = []
    rw [h.unasked hforce, hqs]
    rfl
  · show ledgerKey k.path :: v.emitter.emitted = e.emitted
    rw [h.emitted, hemitted]
  · show v.emitter.emissions ++ [⟨k.path, text, d.again⟩] = e.emissions.map Emission.again
    rw [h.emissions, hemissions, List.map_append]
    rfl

end

/-- When the rest of the tasks of the first run succeed, so do those of the second, in step. -/
theorem performAll_again {names : List String} {found u : FileTree} {kept : Ledger} :
    ∀ {ks : List Task} {w w' v : Workspace}, performAll ks w = (.ok (), w') → Left u kept ks w' →
      Midway names found u ks w → InStep u kept w v → ∃ v', performAll ks v = (.ok (), v') ∧ InStep u kept w' v'
  | [], w, w', v, h, _, _, hstep => by
    cases h
    exact ⟨v, rfl, hstep⟩
  | k :: ks, w, w', v, h, hleft, hmid, hstep => by
    obtain ⟨text, library, e, t, d, hr, he, hrest⟩ := performAll_cons_ok h
    obtain ⟨hfile, hentry⟩ := hleft.head hmid h hrest
    have hgrows : FileTree.Grows t u := (performAll_grows hrest).trans hleft.grows
    -- the second run finds the same templates, and then the file and the entry that the first one left
    have hrender : v.library.render v.tree k.template k.context.frame = .ok (text, library) := by
      rw [hstep.library, hstep.tree]
      exact Template.Library.render_congr
        (hmid.templates.between ⟨hmid.grows, (Emitter.emit_ok_grows he).trans hgrows, hmid.file⟩)
        (Bool.and_eq_true_iff.1 hmid.rendered).1 hr
    obtain ⟨qs, why⟩ := keeps_again he hstep.options
      (fun hd => hstep.declines (Emitter.unforced_of_declined (hd ▸ he))) (by rw [hstep.ledger]; exact hentry) hgrows hfile
    have hemit : v.emitter.emit v.tree text k.path =
        ((v.emitter.takeUp k.path qs).conclude text k.path d.again, u, .ok d.again) := by
      rw [hstep.tree]
      exact Emitter.emit_of_keeps (by rw [hstep.emitted]; exact (Emitter.emit_ok he).1) why
    rw [performAll_cons_of hrender hemit]
    exact performAll_again hrest hleft.tail (hmid.next hr he hfile) (hstep.next he why)

/-! ## The run again -/

theorem changed_again (ms : List Emission) :
    (RunSummary.ofDecisions ((ms.map Emission.again).map (·.decision))).changed = 0 := by
  rw [RunSummary.changed_ofDecisions, List.countP_eq_zero]
  intro d hd
  obtain ⟨m', hm', rfl⟩ := List.mem_map.1 hd
  obtain ⟨m, -, rfl⟩ := List.mem_map.1 hm'
  rw [Bool.not_eq_true]
  exact m.decision.writes_again

/-- The job without force, and with a prompt of its own. -/
def Job.unforced (j : Job) (prompt : Prompt) : Job :=
  { j with config := { j.config with overwrite := false }, prompt := prompt }

/-- A run without force after one that succeeded goes in step with it. -/
theorem Job.run_unforced {j : Job} {t : FileTree} {s : RunSummary} (prompt : Prompt)
    (hdeclines : j.config.overwrite = false → ∀ asked, prompt asked = .decline)
    (hplaces : ∀ p ∈ j.outputs, ∀ q ∈ j.outputs, p.place = q.place → p = q)
    (hledger : ∀ p ∈ j.outputs, p.place ≠ j.config.ledgerPath.place)
    (htemplates : j.SparesTemplates t) (hok : (j.run t).result = .ok s) :
    ∃ s', ((j.unforced prompt).run (j.run t).tree).result = .ok s' ∧ s'.changed = 0 ∧
      (∀ p, ((j.unforced prompt).run (j.run t).tree).tree.get? p = (j.run t).tree.get? p) ∧
      ((j.unforced prompt).run (j.run t).tree).emissions = (j.run t).emissions.map Emission.again ∧
      (j.config.overwrite = true → ((j.unforced prompt).run (j.run t).tree).asked = []) := by
  have hs := j.run_spec t
  have hfinal : (j.final t).emitter.ledger.path = j.config.ledgerPath := j.final_ledgerPath t
  have hoptions : (j.final t).emitter.options = j.config.emitOptions := j.final_options t
  unfold Job.SparesTemplates at htemplates
  generalize j.run t = o at hs hok htemplates ⊢
  generalize j.final t = w at hs hfinal hoptions
  cases hs with
  | aborted => cases hok
  | unsaved _ => cases hok
  | @saved u p planned performed done =>
    have hload : Ledger.load u j.config.ledgerPath = w.emitter.prune.ledger := by
      rw [← hfinal]
      exact Ledger.load_save done
    have hleft : Left u w.emitter.prune.ledger j.tasks w := by
      refine ⟨Ledger.save_grows done, fun k hk => Ledger.save_fileAt_ne done ?_, fun k hk => ?_⟩
      · show _ ≠ w.emitter.ledger.path.place
        rw [hfinal]
        exact hledger k.path (j.task_path_mem k hk)
      · refine (Ledger.get?_retain _ _ _).trans (if_pos ?_)
        exact List.contains_iff_mem.2 (emitted_of_ok performed k hk)
    obtain ⟨names, hnames, hsame⟩ : ∃ names, rendersWith names j.tasks (j.workspace t) = true ∧
        Template.Library.SameTemplates names j.config.templates t u := by
      rcases hdir : j.config.templates with _ | dir
      · obtain ⟨names, hnames⟩ := exists_rendersWith performed
        exact ⟨names, hnames, fun _ h => by cases h⟩
      · obtain ⟨names, hnames, hsame⟩ := htemplates dir hdir
        exact ⟨names, hnames, fun _ h => by cases h; exact hsame⟩
    have hmid : Midway names t u j.tasks (j.workspace t) :=
      ⟨fun k hk k' hk' => hplaces _ (j.task_path_mem k hk) _ (j.task_path_mem k' hk'), .refl t,
        fun _ => .inl rfl, hnames, hsame⟩
    have hstart : InStep u w.emitter.prune.ledger (j.workspace t) ((j.unforced prompt).workspace u) :=
      ⟨rfl, rfl, hload, rfl, hdeclines, fun _ => rfl, rfl, rfl⟩
    obtain ⟨v, hv, hstep⟩ := performAll_again performed hleft hmid hstart
    -- the second run keeps every entry, and saves the same ledger
    have hprune : v.emitter.prune.ledger = w.emitter.prune.ledger := by
      show v.emitter.ledger.retain v.emitter.emitted.contains = _
      rw [hstep.ledger, hstep.emitted]
      refine Ledger.retain_eq_self fun k dg hk => ?_
      have hkept := (Ledger.get?_retain w.emitter.ledger w.emitter.emitted.contains k).symm.trans hk
      split at hkept
      · rename_i hmem; exact hmem
      · cases hkept
    obtain ⟨u', hsave, hsaved⟩ := FileTree.writeDeep_again done
    have hagain : (j.unforced prompt).run u = ⟨u', v.emitter.emissions, v.emitter.asked, .ok v.emitter.summary⟩ := by
      rw [Job.run_of_performed (j := j.unforced prompt) planned hv]
      unfold Generation.conclude
      rw [hprune, hstep.tree, show w.emitter.prune.ledger.save u = _ from hsave]
    rw [hagain]
    refine ⟨_, rfl, ?_, hsaved, hstep.emissions, fun hforce => hstep.unasked (hoptions ▸ hforce)⟩
    unfold Emitter.summary
    rw [hstep.emissions]
    exact changed_again _

/-- Idempotence. A run that succeeds, without force and with a prompt that declines, can be repeated at once
on the tree that it left: the second run succeeds, reports no change, leaves every file with the ledger as it
is, and takes the decision of the first run for every path again, but that it finds unchanged what the first
one wrote. It is assumed that distinct outputs have distinct places, that none is the ledger, and that the
first run left alone the templates of the user's own. -/
theorem run_again {j : Job} {t : FileTree} {s : RunSummary} (hforce : j.config.overwrite = false)
    (hdeclines : ∀ asked, j.prompt asked = .decline)
    (hplaces : ∀ p ∈ j.outputs, ∀ q ∈ j.outputs, p.place = q.place → p = q)
    (hledger : ∀ p ∈ j.outputs, p.place ≠ j.config.ledgerPath.place)
    (htemplates : j.SparesTemplates t) (hok : (j.run t).result = .ok s) :
    ∃ s', (j.run (j.run t).tree).result = .ok s' ∧ s'.changed = 0 ∧
      (∀ p, (j.run (j.run t).tree).tree.get? p = (j.run t).tree.get? p) ∧
      (j.run (j.run t).tree).emissions = (j.run t).emissions.map Emission.again := by
  have hself : j.unforced j.prompt = j := by
    unfold Job.unforced
    rw [← hforce]
  obtain ⟨s', hs', hnone, hsame, hemissions, -⟩ :=
    Job.run_unforced j.prompt (fun _ => hdeclines) hplaces hledger htemplates hok
  rw [hself] at hs' hsame hemissions
  exact ⟨s', hs', hnone, hsame, hemissions⟩

/-- The small project built again. -/
theorem run_again_build :
    ∃ s, (buildRun.job.run buildRun.left).result = .ok s ∧ s.changed = 0 ∧
      (∀ p, (buildRun.job.run buildRun.left).tree.get? p = buildRun.left.get? p) ∧
      (buildRun.job.run buildRun.left).emissions = (buildRun.job.run buildRun.found).emissions.map Emission.again := by
  have hplaces : ∀ p ∈ buildRun.job.outputs, ∀ q ∈ buildRun.job.outputs, p.place = q.place → p = q := by
    rw [buildRun.outputs_eq]
    decide +kernel
  have hledger : ∀ p ∈ buildRun.job.outputs, p.place ≠ buildRun.job.config.ledgerPath.place := by
    rw [buildRun.outputs_eq]
    decide +kernel
  have htemplates : buildRun.job.SparesTemplates buildRun.found := by
    intro dir hdir
    cases hdir
    refine ⟨["index", "variables", "configuration", "api_ts", "models"].map ("client_typescript/" ++ · ++ ".j2"),
      by decide +kernel, ?_⟩
    rw [buildRun.tree_eq]
    decide +kernel
  obtain ⟨s, hok⟩ : ∃ s, (buildRun.job.run buildRun.found).result = .ok s := buildRun.succeeded rfl
  have hagain := run_again rfl (fun _ => rfl) hplaces hledger htemplates hok
  rw [buildRun.tree_eq] at hagain
  exact hagain

/-! ## Templates that change -/

/-- A template that takes in what the last run put out. -/
def echoRun : KnownRun where
  job := clientJob (clientConfig "t")
  found := ⟨clientTemplates "t" "x\x7b% include \"../out/index.ts\" ignore missing %\x7d" "x"⟩
  outputs := clientOutputs
  left := ⟨[fileEntry ["ledger"] (ledgerText [("out/index.ts", "9dd4e461268c8034f5c8564e155c67a6")]),
    fileEntry ["out", "index.ts"] "x", directoryEntry ["out"]] ++
    clientTemplates "t" "x\x7b% include \"../out/index.ts\" ignore missing %\x7d" "x"⟩
  emissions := [⟨⟨"out/index.ts"⟩, "x", .written⟩]
  asked := []
  succeeds := true
  outputs_eq := outputs_clientJob "t"
  course_eq := by decide +kernel

/-- It is not enough that no output lies in the directory of templates: a template there may take in an output
by a name that leads out of the directory, and what it took in is put out again. -/
theorem included_output_changes :
    ¬ ∀ (j : Job) (t : FileTree) (s : RunSummary), j.config.overwrite = false →
      (∀ asked, j.prompt asked = .decline) → (∀ p ∈ j.outputs, ∀ q ∈ j.outputs, p.place = q.place → p = q) →
      (∀ p ∈ j.outputs, p.place ≠ j.config.ledgerPath.place) →
      (∀ dir, j.config.templates = some dir → ∀ p ∈ j.outputs, p.place.isWithin dir.place = false) →
      (j.run t).result = .ok s →
      ∃ s', (j.run (j.run t).tree).result = .ok s' ∧ s'.changed = 0 := by
  intro claim
  have hplaces : ∀ p ∈ echoRun.job.outputs, ∀ q ∈ echoRun.job.outputs, p.place = q.place → p = q := by
    rw [echoRun.outputs_eq]
    decide +kernel
  have hledger : ∀ p ∈ echoRun.job.outputs, p.place ≠ echoRun.job.config.ledgerPath.place := by
    rw [echoRun.outputs_eq]
    decide +kernel
  have houtside : ∀ p ∈ echoRun.job.outputs, p.place.isWithin (Path.mk "t").place = false := by
    rw [echoRun.outputs_eq]
    decide +kernel
  have hchanged : (echoRun.job.run echoRun.left).result.toOption.map (·.changed) = some 1 := by decide +kernel
  obtain ⟨s, hok⟩ : ∃ s, (echoRun.job.run echoRun.found).result = .ok s := echoRun.succeeded rfl
  obtain ⟨s', hs', hnone⟩ := claim echoRun.job echoRun.found s rfl (fun _ => rfl) hplaces hledger
    (fun dir hdir => by cases hdir; exact houtside) hok
  rw [echoRun.tree_eq] at hs'
  rw [hs'] at hchanged
  simp only [Except.toOption, Option.map_some, hnone] at hchanged
  cases hchanged

end ApiScaffold
