/-
Questions have a reason. As long as nobody but the runs touches the outputs, every file at an output place was
written by a run, and the ledger file has its digest unless it was lost (`Accounted`): because the run that
wrote the file was aborted, or because a run that succeeded later did not produce the path and dropped its
entry. So the prompt is only asked about files whose entries were lost in one of these ways.
-/
import ApiScaffold.Proofs.Generation.Tracking

namespace ApiScaffold

open Emitter (ledgerKey)

section

variable {outs : Path → Prop} {ledger : Path} {start t : FileTree} {rs : List Run}

/-! ## The ledger file over histories -/

/-- Every file at an output place was written by a run that was aborted, or was left out of a run that
succeeded since, or has its digest in the ledger file. -/
structure Accounted (outs : Path → Prop) (ledger : Path) (t : FileTree) (rs : List Run) : Prop where
  readable : Ledger.Readable t ledger
  file : ∀ p, outs p → ∀ b, t.fileAt p.place = some b → ∃ w, lastWriter rs p = some w ∧
    (¬ w.Succeeded ∨ (∃ r ∈ sinceWritten rs p, r.Succeeded ∧ r.emits p = false) ∨
      Ledger.entryAt t ledger (ledgerKey p) = some (Digest.ofBytes b))

theorem Accounted.run (h : Accounted outs ledger t rs) (apart : Apart outs ledger) {j : Job}
    (hj : j.Within outs ledger) : Accounted outs ledger (j.run t).tree (⟨j, t⟩ :: rs) := by
  have hentries := j.run_entryAt (t := t) (hj.apart apart)
  have hreadable := j.run_readable (t := t) (hj.apart apart)
  rw [hj.ledgerPath] at hentries hreadable
  refine ⟨hreadable h.readable, fun p hp b hb => ?_⟩
  rcases hw : (Run.mk j t).writes p with _ | _
  · obtain ⟨hfile, hentry⟩ := spared_after_run apart hj hp hw
    rw [hfile] at hb
    rw [lastWriter_cons hw, sinceWritten_cons hw]
    obtain ⟨w, hlast, hw'⟩ := h.file p hp b hb
    refine ⟨w, hlast, ?_⟩
    rcases hw' with hfailed | ⟨r, hr, hlost⟩ | hknown
    · exact .inl hfailed
    · exact .inr (.inl ⟨r, List.mem_cons_of_mem _ hr, hlost⟩)
    · rcases hentries with ⟨-, hsame⟩ | ⟨hok, hnew⟩
      · exact .inr (.inr ((hsame _).trans hknown))
      · -- a run that succeeds drops the entry if it did not emit the path, and keeps it otherwise
        rcases he : (Run.mk j t).emits p with _ | _
        · exact .inr (.inl ⟨_, List.mem_cons_self .., hok, he⟩)
        · refine .inr (.inr ?_)
          rw [hnew, if_pos (emitted_of_emits apart hj he)]
          rcases hentry with hbase | ⟨b', hb', hadopted⟩
          · rw [hbase, Job.ledger, hj.ledgerPath, h.readable.get?_load]
            exact hknown
          · rw [hb] at hb'
            cases hb'
            exact hadopted
  · -- written: lost if the run was aborted, in the ledger otherwise
    refine ⟨_, lastWriter_cons_self hw, ?_⟩
    rcases hentries with ⟨hno, -⟩ | ⟨-, hnew⟩
    · exact .inl hno
    · obtain ⟨b', hb', hkey, hentry⟩ := written_after_run apart hj hp hw
      rw [hb] at hb'
      cases hb'
      exact .inr (.inr ((hnew _).trans ((if_pos hkey).trans hentry)))

theorem History.accounted (apart : Apart outs ledger)
    (h : History (Job.Within outs ledger) (Spares outs ledger) start t rs)
    (hstart : start.fileAt ledger.place = none) (hempty : ∀ p, outs p → start.fileAt p.place = none) :
    Accounted outs ledger t rs := by
  induction h with
  | start =>
    refine ⟨.inl hstart, fun p hp b hb => ?_⟩
    rw [hempty p hp] at hb
    cases hb
  | run _ hj ih => exact ih.run apart hj
  | change _ hu ih =>
    constructor
    · rcases ih.readable with hnone | ⟨c, hc⟩
      · exact .inl (hu.file.trans hnone)
      · exact .inr ⟨c, hu.reads.trans hc⟩
    · intro p hp b hb
      rw [hu.output p hp] at hb
      rw [Ledger.entryAt_congr hu.file]
      exact ih.file p hp b hb

/-! ## Files asked about -/

/-- No false alarms but for what the ledger has lost. In any history that starts without a ledger and
without the outputs, in which nobody but the runs touches them: a run asks about a path only if the last run
that wrote its file was aborted, or if a run since then succeeded without producing the path. -/
theorem asked_accounted (apart : Apart outs ledger) (hstart : start.fileAt ledger.place = none)
    (hempty : ∀ p, outs p → start.fileAt p.place = none)
    (h : History (Job.Within outs ledger) (Spares outs ledger) start t rs) {j : Job} (hj : j.Within outs ledger)
    {q : Question} (hq : q ∈ (j.run t).asked) :
    ∃ w, lastWriter rs q.path = some w ∧
      (¬ w.Succeeded ∨ ∃ r ∈ sinceWritten rs q.path, r.Succeeded ∧ r.emits q.path = false) := by
  rw [j.run_asked t] at hq
  obtain ⟨houts, b, hfound, hentry⟩ := (j.progress apart hj t).asked q hq
  have haccounted := h.accounted apart hstart hempty
  obtain ⟨w, hlast, hw⟩ := haccounted.file q.path houts b hfound
  refine ⟨w, hlast, ?_⟩
  rcases hw with hfailed | hlost | hknown
  · exact .inl hfailed
  · exact .inr hlost
  · -- the run began with the digest of the file it found, and then nobody is asked
    rw [Job.ledger, hj.ledgerPath, haccounted.readable.get?_load] at hentry
    exact absurd hknown hentry

end

/-- A first run that is aborted once it has written its index, and one that comes after it. -/
def abortRun : KnownRun where
  job := clientJob (clientConfig "c")
  found := smallProject
  outputs := clientOutputs
  left := projectWith [fileEntry ["out", "index.ts"] "b", directoryEntry ["out"]]
  emissions := [⟨⟨"out/index.ts"⟩, "b", .written⟩]
  asked := []
  succeeds := false
  outputs_eq := outputs_clientJob "c"
  course_eq := by decide +kernel

def recoverRun : KnownRun where
  job := clientJob (clientConfig "a")
  found := abortRun.left
  outputs := clientOutputs
  left := projectWith [fileEntry ["ledger"] "\x7b\x7d\n", fileEntry ["out", "index.ts"] "b", directoryEntry ["out"]]
  emissions := [⟨⟨"out/index.ts"⟩, "a", .declined⟩]
  asked := [⟨"out/index.ts"⟩]
  succeeds := true
  outputs_eq := buildRun.outputs_eq
  course_eq := by decide +kernel

theorem asked_accounted_recover :
    ∃ w, lastWriter [abortRun.run] ⟨"out/index.ts"⟩ = some w ∧ (¬ w.Succeeded ∨
      ∃ r ∈ sinceWritten [abortRun.run] ⟨"out/index.ts"⟩, r.Succeeded ∧ r.emits ⟨"out/index.ts"⟩ = false) := by
  have habort : abortRun.job.Within (· ∈ extraOutputs) ⟨"ledger"⟩ := abortRun.within rfl rfl fun _ => mem_extraOutputs
  have hrecover : recoverRun.job.Within (· ∈ extraOutputs) ⟨"ledger"⟩ := recoverRun.within rfl rfl fun _ => mem_extraOutputs
  have hempty : ∀ p, p ∈ extraOutputs → smallProject.fileAt p.place = none :=
    fun p hp => smallProject_empty p (List.mem_cons_of_mem _ (mem_crossedOutputs hp))
  have hhistory : History (Job.Within (· ∈ extraOutputs) ⟨"ledger"⟩) (Spares (· ∈ extraOutputs) ⟨"ledger"⟩) smallProject
      abortRun.left [abortRun.run] := abortRun.tree_eq ▸ .run .start habort
  have hasked : Path.mk "out/index.ts" ∈ (recoverRun.job.run recoverRun.found).asked.map (·.path) := by
    rw [recoverRun.asked_eq]
    exact List.mem_singleton_self _
  obtain ⟨q, hq, hpath⟩ := List.mem_map.1 hasked
  have haccounted := asked_accounted apart_extraOutputs (smallProject_empty _ (List.mem_cons_self ..)) hempty hhistory
    hrecover hq
  rw [hpath] at haccounted
  exact haccounted

/-! ## Questions without edits -/

/-- A job that asks. -/
def Job.Asks (j : Job) (t : FileTree) : Prop := (j.run t).asked ≠ []

theorem KnownRun.asks {k : KnownRun} (h : k.asked ≠ []) : k.job.Asks k.found := by
  intro hnone
  apply h
  rw [← k.asked_eq, hnone]
  rfl

/-- Drops a file that was there from its outputs. -/
def dropRun : KnownRun where
  job := clientJob (clientConfig "a")
  found := buildExtraRun.left
  outputs := clientOutputs
  left := projectWith [fileEntry ["ledger"] (ledgerText [("out/index.ts", digestOfA)]), fileEntry ["out", "p", "q"] "a",
    directoryEntry ["out", "p"], fileEntry ["out", "index.ts"] "a", directoryEntry ["out"]]
  emissions := [⟨⟨"out/index.ts"⟩, "a", .unchanged⟩]
  asked := []
  succeeds := true
  outputs_eq := buildRun.outputs_eq
  course_eq := by decide +kernel

/-- Puts the file out again, with another text. -/
def bringBackRun : KnownRun where
  job := extraJob "b" "p/q"
  found := dropRun.left
  outputs := buildExtraRun.outputs
  left := projectWith [fileEntry ["ledger"] (ledgerText [("out/index.ts", digestOfB)]), fileEntry ["out", "index.ts"] "b",
    fileEntry ["out", "p", "q"] "a", directoryEntry ["out", "p"], directoryEntry ["out"]]
  emissions := [⟨⟨"out/index.ts"⟩, "b", .overwritten⟩, ⟨⟨"out/p/q"⟩, "b", .declined⟩]
  asked := [⟨"out/p/q"⟩]
  succeeds := true
  outputs_eq := outputs_extraJob "b"
  course_eq := by decide +kernel

def changeMixedRun : KnownRun where
  job := mixedJob "c"
  found := mixRun.left
  outputs := clientOutputs
  left := mixRun.left
  emissions := [⟨⟨"out/index.ts"⟩, "b", .declined⟩]
  asked := [⟨"out/index.ts"⟩]
  succeeds := false
  outputs_eq := outputs_mixedJob "c"
  course_eq := by decide +kernel

def changeCrossedRun : KnownRun where
  job := extraJob "a" "p/q"
  found := crossRun.left
  outputs := buildExtraRun.outputs
  left := projectWith [fileEntry ["ledger"] (ledgerText [("out/index.ts", digestOfA), ("out/p/q", digestOfB)]),
    fileEntry ["out", "index.ts"] "a", fileEntry ["out", "p\\q"] "b", fileEntry ["out", "p", "q"] "a",
    directoryEntry ["out", "p"], directoryEntry ["out"]]
  emissions := [⟨⟨"out/index.ts"⟩, "a", .overwritten⟩, ⟨⟨"out/p/q"⟩, "a", .declined⟩]
  asked := [⟨"out/p/q"⟩]
  succeeds := true
  outputs_eq := outputs_extraJob "a"
  course_eq := by decide +kernel

/-- Runs can ask even though nobody but the runs touches the outputs: after a run that was aborted, about a path
that was left out for a while, when an output is the ledger, and when two outputs have one ledger key. -/
theorem asked_without_edits :
    Leads MayFail Job.Asks ∧ Leads Succeeding Job.Asks ∧ Leads MayMix Job.Asks ∧ Leads MayCross Job.Asks := by
  have hscratch : FromScratch (· ∈ extraOutputs) ⟨"ledger"⟩ smallProject [] :=
    fromScratch_small (fun _ => mem_crossedOutputs) (List.mem_cons_self ..)
  refine ⟨?_, ?_, ?_, ?_⟩
  · have habort : abortRun.job.Within (· ∈ extraOutputs) ⟨"ledger"⟩ := abortRun.within rfl rfl fun _ => mem_extraOutputs
    have hrecover : recoverRun.job.Within (· ∈ extraOutputs) ⟨"ledger"⟩ := recoverRun.within rfl rfl fun _ => mem_extraOutputs
    exact ⟨_, _, _, _, _, apart_extraOutputs, hscratch.follow (k := abortRun) habort, hrecover,
      recoverRun.asks (by decide)⟩
  · have hextra : buildExtraRun.job.Within (· ∈ extraOutputs) ⟨"ledger"⟩ :=
      buildExtraRun.within rfl rfl fun _ => extraOutputs_of_append
    have hdrop : dropRun.job.Within (· ∈ extraOutputs) ⟨"ledger"⟩ := dropRun.within rfl rfl fun _ => mem_extraOutputs
    have hback : bringBackRun.job.Within (· ∈ extraOutputs) ⟨"ledger"⟩ := bringBackRun.within rfl rfl fun _ => extraOutputs_of_append
    have hbuilt : FromScratch (· ∈ extraOutputs) ⟨"ledger"⟩ dropRun.found _ := hscratch.follow (k := buildExtraRun) hextra
    refine ⟨_, _, _, _, _, ⟨apart_extraOutputs, ?_⟩, hbuilt.follow hdrop, hback, bringBackRun.asks (by decide)⟩
    exact List.forall_mem_cons.2 ⟨dropRun.succeeded rfl, List.forall_mem_singleton.2 (buildExtraRun.succeeded rfl)⟩
  · exact leads_mixed (changeMixedRun.within rfl rfl fun _ => mem_extraOutputs) (changeMixedRun.asks (by decide))
  · exact leads_crossed (changeCrossedRun.within rfl rfl fun _ hp => mem_crossedOutputs (extraOutputs_of_append hp))
      (changeCrossedRun.asks (by decide))

end ApiScaffold
