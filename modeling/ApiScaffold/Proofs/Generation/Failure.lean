/-
Runs that fail. Without a plan nothing happens at all. A run that fails at one of its tasks has done those before it,
and nothing comes of those after it: the file of the ledger stays as it was, and every other file that changed is that
of a text which was written before. The last way to fail is that the ledger itself cannot be saved.
-/
import ApiScaffold.Proofs.Generation.Success

namespace ApiScaffold

/-! ## Tasks up to a failure -/

/-- Tasks that fail do so at one of them, after those before it have succeeded. -/
theorem performAll_error :
    ∀ {ks : List Task} {w w' : Workspace} {err : GenerateError}, performAll ks w = (.error err, w') →
      ∃ done k rest v, ks = done ++ k :: rest ∧ performAll done w = (.ok (), v) ∧ k.perform v = (.error err, w')
  | [], _, _, _, h => by cases h
  | k :: ks, w, w', err, h => by
    unfold performAll at h
    rcases hk : k.perform w with ⟨e | ⟨⟩, v⟩ <;> rw [hk] at h
    · cases h
      exact ⟨[], k, ks, w, rfl, rfl, hk⟩
    · obtain ⟨done, k', rest, v', rfl, hdone, hfail⟩ := performAll_error h
      refine ⟨k :: done, k', rest, v', rfl, ?_, hfail⟩
      rw [performAll, hk]
      exact hdone

/-- A task that fails cannot be rendered or emitted, and makes no emission. -/
theorem perform_error {k : Task} {w w' : Workspace} {err : GenerateError} (h : k.perform w = (.error err, w')) :
    ((∃ e, err = .template e) ∨ ∃ e, err = .emit e) ∧ w'.emitter.emissions = w.emitter.emissions := by
  unfold Task.perform at h
  rcases hr : w.library.render w.tree k.template k.context.frame with e | ⟨text, library⟩ <;> rw [hr] at h
  · cases h
    exact ⟨.inl ⟨e, rfl⟩, rfl⟩
  · have hs := Emitter.emit_spec w.emitter w.tree text k.path
    simp only at h
    rcases he : w.emitter.emit w.tree text k.path with ⟨e, t, err' | d⟩ <;> rw [he] at h hs <;> cases h
    refine ⟨.inr ⟨err', rfl⟩, ?_⟩
    cases hs <;> rfl

/-! ## How a run fails -/

/-- A plan fails at the document or at the options of the backend. -/
theorem plan_error {doc : Document} {b : Backend} {config : Config} {err : GenerateError}
    (h : Generation.plan doc b config = .error err) : (∃ e, err = .resolve e) ∨ ∃ e, err = .config e := by
  unfold Generation.plan at h
  rcases hapi : Api.ofDocument doc b.words with e | api <;> rw [hapi] at h
  · cases h
    exact .inl ⟨e, rfl⟩
  rcases hcontext : b.prepare (.start api config.options) with e | context
  · simp only [Except.mapError, hcontext, bind, Except.bind] at h
    cases h
    exact .inr ⟨e, rfl⟩
  rcases hstages : b.outputs config.options with e | stages <;>
    simp only [Except.mapError, hcontext, hstages, bind, Except.bind] at h <;> cases h
  exact .inr ⟨e, rfl⟩

theorem Decision.writes_iff {d : Decision} : d.writes = true ↔ d ∈ [.written, .overwritten] := by
  cases d <;> simp [Decision.writes]

namespace Job

variable {j : Job} {t : FileTree} {err : GenerateError}

/-- A file that a run changed before it saved its ledger is that of a text that it wrote. -/
theorem final_changed {p : Place} (h : (j.final t).tree.fileAt p ≠ t.fileAt p) :
    ∃ m ∈ (j.final t).emitter.emissions, m.path.place = p ∧ m.decision.writes = true := by
  -- at every moment a file that is no longer as it was found belongs to an emission that wrote it
  refine j.final_induction t (P := fun e u => u.fileAt p ≠ t.fileAt p →
    ∃ m ∈ e.emissions, m.path.place = p ∧ m.decision.writes = true) (fun h => absurd rfl h) ?_ h
  intro e u text path _ ih
  have hs := Emitter.emit_spec e u text path
  generalize e.emit u text path = r at hs ⊢
  intro hchanged
  have older : (∃ m ∈ e.emissions, m.path.place = p ∧ m.decision.writes = true) → ∀ {m' : Emission},
      ∃ m ∈ e.emissions ++ [m'], m.path.place = p ∧ m.decision.writes = true :=
    fun ⟨m, hm, hwrote⟩ _ => ⟨m, List.mem_append_left _ hm, hwrote⟩
  cases hs with
  | duplicate _ => exact ih hchanged
  | failed _ _ adds => exact ih fun heq => hchanged ((adds.fileAt p).trans heq)
  | kept _ _ => exact older (ih hchanged)
  | adopted _ _ _ => exact older (ih hchanged)
  | wrote _ why done =>
    by_cases hp : p = path.place
    · exact ⟨_, List.mem_append_right _ (List.mem_singleton_self _), hp.symm, why.writes⟩
    · exact older (ih fun heq => hchanged ((FileTree.writeDeep_fileAt_ne done hp).trans heq))

/-- A run that stopped at a task `k`, in a workspace `v` that it left as `w`: those before it are done, and of those
after it nothing is to be seen. -/
structure Stopped (j : Job) (t : FileTree) (err : GenerateError) (done : List Task) (k : Task) (rest : List Task)
    (v w : Workspace) : Prop where
  tasks : j.tasks = done ++ k :: rest
  performed : performAll done (j.workspace t) = (.ok (), v)
  failed : k.perform v = (.error err, w)
  outcome : j.run t = ⟨w.tree, w.emitter.emissions, w.emitter.asked, .error err⟩
  /-- What was emitted are the texts of the tasks that were done. -/
  emissions : (j.run t).emissions.map (·.path) = done.map (·.path)
  ledger : (j.run t).tree.fileAt j.config.ledgerPath.place = t.fileAt j.config.ledgerPath.place
  changed : ∀ {p}, (j.run t).tree.fileAt p ≠ t.fileAt p →
    ∃ m ∈ (j.run t).emissions, m.path.place = p ∧ m.decision ∈ [.written, .overwritten]

/-- How a run fails, and with which errors. -/
inductive Failed (j : Job) (t : FileTree) (err : GenerateError) : Prop
  | unplanned (why : (∃ e, err = .resolve e) ∨ ∃ e, err = .config e)
      (outcome : j.run t = ⟨t, [], [], .error err⟩)
  | stopped {done : List Task} {k : Task} {rest : List Task} {v w : Workspace}
      (why : (∃ e, err = .template e) ∨ ∃ e, err = .emit e) (stopped : Stopped j t err done k rest v w)
  | unsaved {w : Workspace} {u : FileTree} {f : FileTree.Failure} (why : err = .emit (.io f))
      (performed : performAll j.tasks (j.workspace t) = (.ok (), w))
      (failed : w.emitter.prune.ledger.save w.tree = (u, .error f))

/-- A run with a failing task stops there. -/
theorem stopped_of_error (hledger : ∀ p ∈ j.outputs, p.place ≠ j.config.ledgerPath.place) {w : Workspace}
    (hperformed : performAll j.tasks (j.workspace t) = (.error err, w))
    (houtcome : j.run t = ⟨w.tree, w.emitter.emissions, w.emitter.asked, .error err⟩) : Failed j t err := by
  obtain ⟨done, k, rest, v, htasks, hdone, hfailed⟩ := performAll_error hperformed
  obtain ⟨why, hemissions⟩ := perform_error hfailed
  have hfinal : j.final t = w := congrArg (·.2) hperformed
  refine .stopped why ⟨htasks, hdone, hfailed, houtcome, ?_, ?_, fun {p} hp => ?_⟩
  · -- the failing task adds no emission to those before it
    rw [houtcome]
    show w.emitter.emissions.map (·.path) = _
    rw [hemissions]
    exact emissions_of_ok hdone
  · rcases run_ledgerFile (t := t) hledger with ⟨-, hsame⟩ | ⟨⟨s, hs⟩, -⟩
    · exact hsame
    · rw [houtcome] at hs
      cases hs
  · rw [houtcome, ← hfinal] at hp ⊢
    obtain ⟨m, hm, hplace, hwrites⟩ := final_changed hp
    exact ⟨m, hm, hplace, Decision.writes_iff.1 hwrites⟩

theorem failed_run (hledger : ∀ p ∈ j.outputs, p.place ≠ j.config.ledgerPath.place)
    (h : (j.run t).result = .error err) : Failed j t err := by
  rcases hplan : Generation.plan j.doc j.backend j.config with e | p
  · have houtcome : j.run t = ⟨t, [], [], .error e⟩ := run_of_unplanned hplan
    rw [houtcome] at h
    cases h
    exact .unplanned (plan_error hplan) houtcome
  rcases hperformed : performAll j.tasks (j.workspace t) with ⟨e | ⟨⟩, w⟩
  · have houtcome := run_of_failed hplan hperformed
    rw [houtcome] at h
    cases h
    exact stopped_of_error hledger hperformed houtcome
  · rw [run_of_performed hplan hperformed] at h
    unfold Generation.conclude at h
    rcases hsave : w.emitter.prune.ledger.save w.tree with ⟨u, f | ⟨⟩⟩ <;> rw [hsave] at h <;> cases h
    exact .unsaved rfl hperformed hsave

theorem failed_run_spoil : ∃ err, (spoilRun.job.run spoilRun.found).result = .error err ∧
    Failed spoilRun.job spoilRun.found err := by
  have hledger : ∀ p ∈ spoilRun.outputs, p.place ≠ (Path.mk "ledger").place := by
    show ∀ p ∈ clientOutputs, p.place ≠ (Path.mk "ledger").place
    decide +kernel
  obtain ⟨err, hresult⟩ := spoilRun.failed rfl
  exact ⟨err, hresult, failed_run (fun p hp => hledger p (spoilRun.outputs_eq ▸ hp)) hresult⟩

end Job

end ApiScaffold
