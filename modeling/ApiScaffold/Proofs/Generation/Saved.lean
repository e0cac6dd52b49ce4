/-
The ledger that a successful run leaves. While tasks are performed the ledger has the digest of every text that was
written or found unchanged, and is as it was loaded otherwise (`Follows`); what is saved at the end are the entries
of the paths of the run. So each entry of the saved ledger belongs to one output, and nothing else survives.
-/
import ApiScaffold.Proofs.Generation.Success

namespace ApiScaffold

open Emitter (ledgerKey)

/-- Whether a decision enters the digest of the new text into the ledger, or finds it there. -/
def Decision.records : Decision → Bool
  | .written => true
  | .overwritten => true
  | .unchanged => true
  | .guarded => false
  | .declined => false

theorem Decision.records_of_writes {d : Decision} (h : d.writes = true) : d.records = true := by cases d <;> trivial

/-- The entry that an emission leaves under its key, from the one that the ledger was loaded with. -/
def Emission.entry (m : Emission) (loaded : Ledger) : Option String :=
  if m.decision.records then some (Digest.ofText m.text) else loaded.get? (ledgerKey m.path)

/-- The ledger of an emitter follows from what was loaded and from what was emitted. -/
structure Emitter.Follows (loaded : Ledger) (e : Emitter) : Prop where
  taken : ∀ m ∈ e.emissions, ledgerKey m.path ∈ e.emitted
  entry : ∀ m ∈ e.emissions, e.ledger.get? (ledgerKey m.path) = m.entry loaded
  other : ∀ key, key ∉ e.emitted → e.ledger.get? key = loaded.get? key

namespace Emitter.Follows

variable {loaded : Ledger} {e : Emitter} {text : String} {path : Path}

theorem start (loaded : Ledger) (options : EmitOptions) (prompt : Prompt) :
    Follows loaded (.start loaded options prompt) := by
  refine ⟨?_, ?_, fun _ _ => rfl⟩ <;> exact fun m hm => by cases hm

theorem takeUp (h : Follows loaded e) (path : Path) (qs : List Question) : Follows loaded (e.takeUp path qs) where
  taken := fun m hm => List.mem_cons_of_mem _ (h.taken m hm)
  entry := h.entry
  other := fun key hkey => h.other key fun hold => hkey (List.mem_cons_of_mem _ hold)

/-- One more emission, whose key nobody had taken up and whose entry may have changed. -/
theorem conclude (h : Follows loaded e) (qs : List Question) {d : Decision} {ledger : Ledger}
    (fresh : ledgerKey path ∉ e.emitted)
    (hentry : ledger.get? (ledgerKey path) = (⟨path, text, d⟩ : Emission).entry loaded)
    (hother : ∀ key, key ≠ ledgerKey path → ledger.get? key = e.ledger.get? key) :
    Follows loaded ({ e.takeUp path qs with ledger := ledger }.conclude text path d) where
  taken := fun m hm => by
    rcases List.mem_append.1 hm with hm | hm
    · exact List.mem_cons_of_mem _ (h.taken m hm)
    · cases List.mem_singleton.1 hm
      exact List.mem_cons_self ..
  entry := fun m hm => by
    rcases List.mem_append.1 hm with hm | hm
    · -- the keys of older emissions were taken up, so theirs is another entry
      have hne : ledgerKey m.path ≠ ledgerKey path := fun heq => fresh (heq ▸ h.taken m hm)
      exact (hother _ hne).trans (h.entry m hm)
    · cases List.mem_singleton.1 hm
      exact hentry
  other := fun key hkey => by
    obtain ⟨hne, hold⟩ := not_or.1 (fun h => hkey (List.mem_cons.2 h))
    exact (hother key hne).trans (h.other key hold)

theorem emit (h : Follows loaded e) (t : FileTree) (text : String) (path : Path) :
    Follows loaded (e.emit t text path).1 := by
  have recorded : ∀ {qs : List Question} {d : Decision}, ledgerKey path ∉ e.emitted → d.records = true →
      Follows loaded (((e.takeUp path qs).record text path).conclude text path d) := by
    intro qs d fresh hd
    refine h.conclude qs fresh ?_ fun key hne => (Ledger.get?_insert ..).trans (if_neg hne)
    exact (Ledger.get?_insert ..).trans (by simp [Emission.entry, hd])
  have hs := emit_spec e t text path
  generalize e.emit t text path = r at hs ⊢
  cases hs with
  | duplicate _ => exact h
  | failed _ _ _ => exact h.takeUp path _
  | kept fresh why =>
    -- the ledger stays: the entry that was found is that of the text, or it is the one that was loaded
    refine h.conclude _ fresh ?_ fun _ _ => rfl
    cases why with
    | unchanged _ known => exact known
    | guarded _ => exact h.other _ fresh
    | declined _ _ => exact h.other _ fresh
  | adopted fresh _ _ => exact recorded fresh rfl
  | wrote fresh why _ => exact recorded fresh (Decision.records_of_writes why.writes)

end Emitter.Follows

theorem Job.final_follows (j : Job) (t : FileTree) : (j.final t).emitter.Follows (j.ledger t) :=
  j.final_induction t (P := fun e _ => e.Follows (j.ledger t)) (.start ..) fun _ t text path _ h => h.emit t text path

theorem Emission.entry_eq_some {m : Emission} {loaded : Ledger} {digest : String} :
    m.entry loaded = some digest ↔
      m.decision ∈ [.written, .overwritten, .unchanged] ∧ digest = Digest.ofText m.text ∨
        m.decision ∈ [.guarded, .declined] ∧ loaded.get? (ledgerKey m.path) = some digest := by
  unfold entry
  rcases m with ⟨path, text, decision⟩
  cases decision <;> simp [Decision.records, eq_comm]

/-- The ledger in the file of a run that succeeded is that of its emitter, kept to the paths of the run. -/
theorem Job.run_saved {j : Job} {t : FileTree} {s : RunSummary} (h : (j.run t).result = .ok s) :
    performAll j.tasks (j.workspace t) = (.ok (), j.final t) ∧
      Ledger.load (j.run t).tree j.config.ledgerPath = (j.final t).emitter.prune.ledger := by
  have hpath : (j.final t).emitter.prune.ledger.path = j.config.ledgerPath := j.final_ledgerPath t
  have hs := j.run_spec t
  generalize j.run t = o at hs h ⊢
  cases hs with
  | aborted => cases h
  | unsaved _ => cases h
  | saved _ performed done => exact ⟨performed, hpath ▸ Ledger.load_save done⟩

/-- A run that succeeded made one emission for each output. -/
theorem Job.map_path_emissions {j : Job} {t : FileTree} {s : RunSummary} (h : (j.run t).result = .ok s) :
    (j.run t).emissions.map (·.path) = j.outputs := by
  rw [j.run_emissions t]
  exact emissions_of_ok (Job.run_saved h).1

/-- The ledger of a run that succeeded has the entry of each of its emissions, one for each output, and no other. -/
theorem saved_ledger {j : Job} {t : FileTree} {s : RunSummary} (h : (j.run t).result = .ok s) :
    (j.run t).emissions.map (·.path) = j.outputs ∧ ∀ key digest,
      (Ledger.load (j.run t).tree j.config.ledgerPath).get? key = some digest ↔
        ∃ m ∈ (j.run t).emissions, ledgerKey m.path = key ∧
          (m.decision ∈ [.written, .overwritten, .unchanged] ∧ digest = Digest.ofText m.text ∨
            m.decision ∈ [.guarded, .declined] ∧ (j.ledger t).get? key = some digest) := by
  obtain ⟨performed, hload⟩ := Job.run_saved h
  have hpaths := Job.map_path_emissions h
  rw [j.run_emissions t] at hpaths ⊢
  rw [hload]
  refine ⟨hpaths, fun key digest => ?_⟩
  have hfollows := j.final_follows t
  -- when all tasks have succeeded, what was taken up is what was emitted
  have hkey : key ∈ (j.final t).emitter.emitted ↔ ∃ m ∈ (j.final t).emitter.emissions, ledgerKey m.path = key := by
    rw [mem_emitted_of_ok performed]
    have hstart : key ∉ (j.workspace t).emitter.emitted := List.not_mem_nil
    rw [or_iff_right hstart]
    constructor
    · rintro ⟨k, hk, rfl⟩
      obtain ⟨m, hm, hpath⟩ := List.mem_map.1 (hpaths ▸ j.task_path_mem k hk)
      exact ⟨m, hm, congrArg ledgerKey hpath⟩
    · rintro ⟨m, hm, rfl⟩
      obtain ⟨k, hk, hpath⟩ := List.mem_map.1 (show m.path ∈ j.outputs from hpaths ▸ List.mem_map_of_mem hm)
      exact ⟨k, hk, congrArg ledgerKey hpath⟩
  rw [Emitter.get?_prune]
  constructor
  · intro hget
    split at hget
    · rename_i hemitted
      obtain ⟨m, hm, rfl⟩ := hkey.1 hemitted
      exact ⟨m, hm, rfl, Emission.entry_eq_some.1 ((hfollows.entry m hm).symm.trans hget)⟩
    · cases hget
  · rintro ⟨m, hm, rfl, hdigest⟩
    rw [if_pos (hkey.2 ⟨m, hm, rfl⟩), hfollows.entry m hm]
    exact Emission.entry_eq_some.2 hdigest

theorem saved_ledger_build : ∃ s, (buildRun.job.run buildRun.found).result = .ok s ∧
    (Ledger.load buildRun.left buildRun.job.config.ledgerPath).get? "out/index.ts" = some (Digest.ofText "a") := by
  obtain ⟨s, hs⟩ := buildRun.succeeded rfl
  refine ⟨s, hs, ?_⟩
  rw [← buildRun.tree_eq]
  refine ((saved_ledger hs).2 _ _).2 ⟨_, buildRun.mem_emissions (List.mem_singleton_self _), ?_, .inl ⟨?_, rfl⟩⟩
  · decide +kernel
  · exact List.mem_cons_self ..

end ApiScaffold
