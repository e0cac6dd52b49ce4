/-
Unchanged means up to date. A run writes its files at once and its ledger at the end, and only if it succeeds:
after a run that was aborted the ledger speaks of older texts. Apart from that, what the ledger file says of
an output is true (`LedgerTrue`) as long as nobody but the runs touches the outputs, and so a path that a run
leaves as unchanged holds what the run rendered for it.
-/
import ApiScaffold.Proofs.Generation.Tracking

namespace ApiScaffold

open Emitter (ledgerKey)

/-- Different contents that their digests do not tell apart. -/
def Digest.Collides (b c : ByteArray) : Prop := b ≠ c ∧ Digest.ofBytes b = Digest.ofBytes c

theorem Digest.eq_or_collides {b c : ByteArray} (h : Digest.ofBytes b = Digest.ofBytes c) :
    b = c ∨ Digest.Collides b c := by
  by_cases hbc : b = c
  · exact .inl hbc
  · exact .inr ⟨hbc, h⟩

/-! ## The ledger file over histories -/

section

variable {outs : Path → Prop} {ledger : Path} {start t : FileTree} {rs : List Run}

/-- What the ledger file says of an output is true of its file, unless the run that wrote the file last did
not succeed. -/
def LedgerTrue (outs : Path → Prop) (ledger : Path) (t : FileTree) (rs : List Run) : Prop :=
  ∀ p, outs p → ∀ d, Ledger.entryAt t ledger (ledgerKey p) = some d →
    (∃ b, t.fileAt p.place = some b ∧ Digest.ofBytes b = d) ∨ ∃ w, lastWriter rs p = some w ∧ ¬ w.Succeeded

theorem LedgerTrue.run (h : LedgerTrue outs ledger t rs) (apart : Apart outs ledger) {j : Job}
    (hj : j.Within outs ledger) : LedgerTrue outs ledger (j.run t).tree (⟨j, t⟩ :: rs) := by
  have hentries := j.run_entryAt (t := t) (hj.apart apart)
  rw [hj.ledgerPath] at hentries
  intro p hp d hd
  rcases hw : (Run.mk j t).writes p with _ | _
  · -- not written: the entry is old, or that of a file that was adopted
    obtain ⟨hfile, hentry⟩ := spared_after_run apart hj hp hw
    rw [hfile, lastWriter_cons hw]
    rcases hentries with ⟨-, hsame⟩ | ⟨-, hnew⟩
    · rw [hsame] at hd
      exact h p hp d hd
    · rw [hnew] at hd
      split at hd
      · rcases hentry with hbase | ⟨b, hb, hadopted⟩
        · rw [hbase, Job.ledger, hj.ledgerPath] at hd
          exact h p hp d (Ledger.entryAt_of_load hd)
        · rw [hadopted] at hd
          cases hd
          exact .inl ⟨b, hb, rfl⟩
      · cases hd
  · rcases hentries with ⟨hno, -⟩ | ⟨-, hnew⟩
    · exact .inr ⟨_, lastWriter_cons_self hw, hno⟩
    · obtain ⟨b, hb, hkey, hentry⟩ := written_after_run apart hj hp hw
      rw [hnew, if_pos hkey, hentry] at hd
      cases hd
      exact .inl ⟨b, hb, rfl⟩

theorem History.ledgerTrue (apart : Apart outs ledger)
    (h : History (Job.Within outs ledger) (Spares outs ledger) start t rs)
    (hstart : start.fileAt ledger.place = none) : LedgerTrue outs ledger t rs := by
  induction h with
  | start =>
    intro p _ d hd
    rw [Ledger.entryAt_of_none hstart] at hd
    cases hd
  | run _ hj ih => exact ih.run apart hj
  | change _ hu ih =>
    intro p hp d hd
    rw [Ledger.entryAt_congr hu.file] at hd
    rw [hu.output p hp]
    exact ih p hp d hd

/-! ## Files left as unchanged -/

/-- Unchanged means up to date. In any history that starts without a ledger, in which nobody but the runs
touches the outputs and the ledger: when a run leaves a path as unchanged, the file at that path, which the
run found and left as it is, holds the text that the run rendered for it, or a text with the same digest,
unless the last run that wrote the file was aborted. -/
theorem unchanged_up_to_date (apart : Apart outs ledger) (hstart : start.fileAt ledger.place = none)
    (h : History (Job.Within outs ledger) (Spares outs ledger) start t rs) {j : Job} (hj : j.Within outs ledger)
    {m : Emission} (hm : m ∈ (j.run t).emissions) (hd : m.decision = .unchanged) :
    ∃ b, t.fileAt m.path.place = some b ∧ (j.run t).tree.read m.path = .ok b ∧
      (b = m.text.toUTF8 ∨ Digest.Collides b m.text.toUTF8 ∨
        ∃ w, lastWriter rs m.path = some w ∧ ¬ w.Succeeded) := by
  have hprogress := j.progress apart hj t
  rw [j.run_emissions t] at hm
  have houts := (hprogress.emissions m hm).1
  obtain ⟨b, hread, hfound, hcontent⟩ := hprogress.unchanged m hm hd
  have hplace : m.path.place ≠ j.config.ledgerPath.place := by rw [hj.ledgerPath]; exact apart.ledger houts
  refine ⟨b, hfound, ?_, ?_⟩
  · exact (j.run_grows_final t).read_same hread (j.run_fileAt_of_ne hplace)
  · -- the file was compared with the text, or only its digest with the ledger that the run began with
    rcases hcontent with hsame | hbase
    · exact .inl hsame
    · rw [Job.ledger, hj.ledgerPath] at hbase
      rcases h.ledgerTrue apart hstart m.path houts _ (Ledger.entryAt_of_load hbase) with ⟨b', hb', hdigest⟩ | hw
      · rw [hfound] at hb'
        cases hb'
        exact (Digest.eq_or_collides hdigest).imp_right .inl
      · exact .inr (.inr hw)

end

/-- The small project built a second time. -/
def rebuildRun : KnownRun where
  job := clientJob (clientConfig "a")
  found := buildRun.left
  outputs := clientOutputs
  left := buildRun.left
  emissions := [⟨⟨"out/index.ts"⟩, "a", .unchanged⟩]
  asked := []
  succeeds := true
  outputs_eq := buildRun.outputs_eq
  course_eq := by decide +kernel

theorem unchanged_up_to_date_rebuild :
    ∃ b, buildRun.left.fileAt (Path.mk "out/index.ts").place = some b ∧
      (rebuildRun.job.run buildRun.left).tree.read ⟨"out/index.ts"⟩ = .ok b ∧
      (b = "a".toUTF8 ∨ Digest.Collides b "a".toUTF8 ∨
        ∃ w, lastWriter [buildRun.run] ⟨"out/index.ts"⟩ = some w ∧ ¬ w.Succeeded) := by
  have hbuild : buildRun.job.Within (· ∈ extraOutputs) ⟨"ledger"⟩ := buildRun.within rfl rfl fun _ => mem_extraOutputs
  have hhistory : History (Job.Within (· ∈ extraOutputs) ⟨"ledger"⟩) (Spares (· ∈ extraOutputs) ⟨"ledger"⟩) smallProject
      buildRun.left [buildRun.run] := buildRun.tree_eq ▸ .run .start hbuild
  exact unchanged_up_to_date apart_extraOutputs (smallProject_empty _ (List.mem_cons_self ..)) hhistory hbuild
    (rebuildRun.mem_emissions (List.mem_singleton_self _)) rfl

/-! ## Files left as unchanged that are out of date -/

/-- A job that leaves a path as unchanged whose file holds another text. -/
def Job.LeavesStale (j : Job) (t : FileTree) : Prop :=
  ∃ m ∈ (j.run t).emissions, m.decision = .unchanged ∧ (j.run t).tree.fileAt m.path.place ≠ some m.text.toUTF8

theorem KnownRun.leavesStale {k : KnownRun} {m : Emission} (hm : m ∈ k.emissions) (hd : m.decision = .unchanged)
    (hfile : k.left.fileAt m.path.place ≠ some m.text.toUTF8) : k.job.LeavesStale k.found :=
  ⟨m, k.mem_emissions hm, hd, by rw [k.tree_eq]; exact hfile⟩

def rebuildSpoiledRun : KnownRun where
  job := clientJob (clientConfig "a")
  found := spoilRun.left
  outputs := clientOutputs
  left := projectWith [fileEntry ["ledger"] (ledgerText [("out/index.ts", digestOfA)]), fileEntry ["out", "index.ts"] "b",
    directoryEntry ["out"]]
  emissions := [⟨⟨"out/index.ts"⟩, "a", .unchanged⟩]
  asked := []
  succeeds := true
  outputs_eq := buildRun.outputs_eq
  course_eq := by decide +kernel

def rebuildMixedRun : KnownRun where
  job := mixRun.job
  found := mixRun.left
  outputs := clientOutputs
  left := mixRun.left
  emissions := [⟨⟨"out/index.ts"⟩, "a", .unchanged⟩]
  asked := []
  succeeds := true
  outputs_eq := mixRun.outputs_eq
  course_eq := by decide +kernel

def rebuildCrossedRun : KnownRun where
  job := extraJob "b" "p/q"
  found := crossRun.left
  outputs := buildExtraRun.outputs
  left := crossRun.left
  emissions := [⟨⟨"out/index.ts"⟩, "b", .unchanged⟩, ⟨⟨"out/p/q"⟩, "b", .unchanged⟩]
  asked := []
  succeeds := true
  outputs_eq := outputs_extraJob "b"
  course_eq := by decide +kernel

/-- Files that are out of date can be left as unchanged, even though nobody but the runs touches them: after a
run that was aborted, when an output is the ledger, and when two outputs have one ledger key. -/
theorem unchanged_out_of_date :
    Leads MayFail Job.LeavesStale ∧ Leads MayMix Job.LeavesStale ∧ Leads MayCross Job.LeavesStale := by
  refine ⟨?_, ?_, ?_⟩
  · have hbuild : buildRun.job.Within (· ∈ extraOutputs) ⟨"ledger"⟩ := buildRun.within rfl rfl fun _ => mem_extraOutputs
    have hspoil : spoilRun.job.Within (· ∈ extraOutputs) ⟨"ledger"⟩ := spoilRun.within rfl rfl fun _ => mem_extraOutputs
    have hstart : FromScratch (· ∈ extraOutputs) ⟨"ledger"⟩ buildRun.found [] :=
      fromScratch_small (fun _ => mem_crossedOutputs) (List.mem_cons_self ..)
    exact ⟨_, _, _, _, _, apart_extraOutputs, FromScratch.follow (k := spoilRun) (hstart.follow hbuild) hspoil, hbuild,
      rebuildSpoiledRun.leavesStale (List.mem_singleton_self _) rfl (by decide +kernel)⟩
  · exact leads_mixed (rebuildMixedRun.within rfl rfl fun _ => mem_extraOutputs)
      (rebuildMixedRun.leavesStale (List.mem_singleton_self _) rfl (by decide +kernel))
  · exact leads_crossed (rebuildCrossedRun.within rfl rfl fun _ hp => mem_crossedOutputs (extraOutputs_of_append hp))
      (rebuildCrossedRun.leavesStale (List.mem_cons_of_mem _ (List.mem_singleton_self _)) rfl (by decide +kernel))

end ApiScaffold
