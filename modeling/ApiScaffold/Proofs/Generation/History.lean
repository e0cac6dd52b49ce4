/-
Runs one after the other on one tree, with outside changes in between. What every emit keeps holds when
a run ends (`Job.final_induction`); how the run then ends is one of three ways (`Job.run_spec`); and a
history is any sequence of runs and outside changes, the newest run first.
-/
import ApiScaffold.Backend.TypeScript
import ApiScaffold.Proofs.Generation.Task

namespace ApiScaffold

/-! ## Emits of a run -/

/-- A text that is about to be brought to a path, with the state in which this happens. -/
structure Call where
  emitter : Emitter
  tree : FileTree
  text : String
  path : Path

/-- The tree after the call. -/
def Call.after (c : Call) : FileTree := (c.emitter.emit c.tree c.text c.path).2.1

/-- The calls that tasks make, in order. -/
def callsOf : List Task → Workspace → List Call
  | [], _ => []
  | k :: ks, w =>
    match w.library.render w.tree k.template k.context.frame with
    | .error _ => []
    | .ok (text, _) =>
      ⟨w.emitter, w.tree, text, k.path⟩ :: match k.perform w with
        | (.ok (), w) => callsOf ks w
        | (.error _, _) => []

/-- Whether calls lead from one tree to another, each beginning where the one before it ended. -/
def Follow : FileTree → List Call → FileTree → Prop
  | t, [], u => u = t
  | t, c :: cs, u => c.tree = t ∧ Follow c.after cs u

/-- The calls that tasks make are all that they do to the tree. -/
theorem callsOf_follow : ∀ (ks : List Task) (w : Workspace), Follow w.tree (callsOf ks w) (performAll ks w).2.tree
  | [], _ => rfl
  | k :: ks, w => by
    unfold callsOf performAll Task.perform
    rcases w.library.render w.tree k.template k.context.frame with e | ⟨text, library⟩
    · rfl
    · refine ⟨rfl, ?_⟩
      unfold Call.after
      simp only
      rcases he : w.emitter.emit w.tree text k.path with ⟨e, t, err | d⟩
      · rfl
      · exact callsOf_follow ks ⟨library, t, e⟩

/-- A task that renders nothing changes nothing, and one that does makes one emit. -/
theorem perform_cases (k : Task) (w : Workspace) :
    (k.perform w).2 = w ∨ ∃ text, (k.perform w).2.emitter = (w.emitter.emit w.tree text k.path).1 ∧
      (k.perform w).2.tree = (w.emitter.emit w.tree text k.path).2.1 := by
  unfold Task.perform
  rcases w.library.render w.tree k.template k.context.frame with e | ⟨text, library⟩
  · exact .inl rfl
  · refine .inr ⟨text, ?_⟩
    simp only
    rcases w.emitter.emit w.tree text k.path with ⟨e, t, err | d⟩ <;> exact ⟨rfl, rfl⟩

/-- A property that every emit to one of some paths keeps. -/
def Kept (paths : List Path) (P : Emitter → FileTree → Prop) : Prop :=
  ∀ (e : Emitter) (t : FileTree) (text : String) (path : Path), path ∈ paths → P e t →
    P (e.emit t text path).1 (e.emit t text path).2.1

section

variable {P : Emitter → FileTree → Prop}

theorem perform_kept {paths : List Path} (hP : Kept paths P) {k : Task} (hk : k.path ∈ paths) {w : Workspace}
    (h : P w.emitter w.tree) : P (k.perform w).2.emitter (k.perform w).2.tree := by
  rcases perform_cases k w with hw | ⟨text, he, ht⟩
  · rw [hw]; exact h
  · rw [he, ht]
    exact hP _ _ _ _ hk h

theorem performAll_kept {paths : List Path} (hP : Kept paths P) :
    ∀ {ks : List Task} {w : Workspace}, (∀ k ∈ ks, k.path ∈ paths) → P w.emitter w.tree →
      P (performAll ks w).2.emitter (performAll ks w).2.tree
  | [], _, _, h => h
  | k :: ks, w, hks, h => by
    have h' := perform_kept hP (hks k (List.mem_cons_self ..)) h
    unfold performAll
    rcases hp : k.perform w with ⟨e | ⟨⟩, w'⟩ <;> rw [hp] at h'
    · exact h'
    · exact performAll_kept hP (fun k' hk' => hks k' (List.mem_cons_of_mem _ hk')) h'

theorem callsOf_kept {paths : List Path} (hP : Kept paths P) :
    ∀ {ks : List Task} {w : Workspace}, (∀ k ∈ ks, k.path ∈ paths) → P w.emitter w.tree →
      ∀ c ∈ callsOf ks w, P c.emitter c.tree ∧ c.path ∈ paths
  | [], _, _, _, c, hc => by cases hc
  | k :: ks, w, hks, h, c, hc => by
    have hk := hks k (List.mem_cons_self ..)
    have h' := perform_kept hP hk h
    unfold callsOf at hc
    split at hc
    · cases hc
    · rcases List.mem_cons.1 hc with rfl | hc
      · exact ⟨h, hk⟩
      · split at hc
        · rename_i w' hw'
          rw [hw'] at h'
          exact callsOf_kept hP (fun k' hk' => hks k' (List.mem_cons_of_mem _ hk')) h' c hc
        · cases hc

end

/-! ## Jobs -/

/-- What is given to a run. -/
structure Job where
  doc : Document
  backend : Backend
  config : Config
  prompt : Prompt

namespace Job

def run (j : Job) (t : FileTree) : Outcome := Generation.run t j.doc j.backend j.config j.prompt

def tasks (j : Job) : List Task := Generation.tasks j.doc j.backend j.config

/-- The paths that a run may write. -/
def outputs (j : Job) : List Path := j.tasks.map (·.path)

/-- The state in which the tasks begin. -/
def workspace (j : Job) (t : FileTree) : Workspace := Generation.workspaceAt t j.backend j.config j.prompt

/-- The state in which the tasks end. -/
def final (j : Job) (t : FileTree) : Workspace := (performAll j.tasks (j.workspace t)).2

/-- The ledger that a run begins with. -/
def ledger (j : Job) (t : FileTree) : Ledger := Ledger.load t j.config.ledgerPath

/-- The emits of a run, in order. -/
def calls (j : Job) (t : FileTree) : List Call := callsOf j.tasks (j.workspace t)

theorem task_path_mem (j : Job) : ∀ k ∈ j.tasks, k.path ∈ j.outputs := fun _ hk => List.mem_map_of_mem hk

/-- What holds before the first emit and is kept by every emit holds after the last. -/
theorem final_induction {P : Emitter → FileTree → Prop} (j : Job) (t : FileTree)
    (start : P (.start (j.ledger t) j.config.emitOptions j.prompt) t) (kept : Kept j.outputs P) :
    P (j.final t).emitter (j.final t).tree :=
  performAll_kept kept j.task_path_mem start

/-- The emits of a run lead from the tree that it found to the tree in which its tasks ended. -/
theorem calls_follow (j : Job) (t : FileTree) : Follow t (j.calls t) (j.final t).tree :=
  callsOf_follow j.tasks (j.workspace t)

/-- It also holds before every emit. -/
theorem calls_induction {P : Emitter → FileTree → Prop} (j : Job) (t : FileTree)
    (start : P (.start (j.ledger t) j.config.emitOptions j.prompt) t) (kept : Kept j.outputs P) :
    ∀ c ∈ j.calls t, P c.emitter c.tree ∧ c.path ∈ j.outputs :=
  callsOf_kept kept j.task_path_mem start

/-- How a run ends, from the state in which its tasks ended. -/
inductive RunSpec (j : Job) (t : FileTree) (w : Workspace) : Outcome → Prop
  | aborted {err : GenerateError} : RunSpec j t w ⟨w.tree, w.emitter.emissions, w.emitter.asked, .error err⟩
  | unsaved {u : FileTree} {f : FileTree.Failure} (failed : w.emitter.prune.ledger.save w.tree = (u, .error f)) :
      RunSpec j t w ⟨u, w.emitter.emissions, w.emitter.asked, .error (.emit (.io f))⟩
  | saved {u : FileTree} {p : Generation.Plan} (planned : Generation.plan j.doc j.backend j.config = .ok p)
      (performed : performAll j.tasks (j.workspace t) = (.ok (), w))
      (done : w.emitter.prune.ledger.save w.tree = (u, .ok ())) :
      RunSpec j t w ⟨u, w.emitter.emissions, w.emitter.asked, .ok w.emitter.summary⟩

/-- A run whose plan can be made performs its tasks. -/
theorem run_of_planned {j : Job} {t : FileTree} {p : Generation.Plan}
    (planned : Generation.plan j.doc j.backend j.config = .ok p) :
    j.run t = match performAll j.tasks (j.workspace t) with
      | (.ok (), w) => Generation.conclude w
      | (.error e, w) => ⟨w.tree, w.emitter.emissions, w.emitter.asked, .error e⟩ := by
  unfold run
  rw [Generation.run_eq, planned]
  rfl

theorem run_of_unplanned {j : Job} {t : FileTree} {err : GenerateError}
    (failed : Generation.plan j.doc j.backend j.config = .error err) : j.run t = ⟨t, [], [], .error err⟩ := by
  unfold run
  rw [Generation.run_eq, failed]

theorem run_spec (j : Job) (t : FileTree) : RunSpec j t (j.final t) (j.run t) := by
  rcases hp : Generation.plan j.doc j.backend j.config with e | p
  · -- without a plan there are no tasks, so nothing has happened yet
    have htasks : j.tasks = [] := by unfold tasks Generation.tasks; rw [hp]
    have hfinal : j.final t = j.workspace t := by unfold final; rw [htasks]; rfl
    rw [hfinal, run_of_unplanned hp]
    exact .aborted
  · rw [run_of_planned hp]
    have hfinal : j.final t = (performAll j.tasks (j.workspace t)).2 := rfl
    rcases hk : performAll j.tasks (j.workspace t) with ⟨e | ⟨⟩, w⟩
    · rw [hk] at hfinal
      rw [hfinal]
      exact .aborted
    · rw [hk] at hfinal
      rw [hfinal]
      simp only [Generation.conclude]
      rcases hs : w.emitter.prune.ledger.save w.tree with ⟨u, f | ⟨⟩⟩
      · exact .unsaved hs
      · exact .saved hp hk hs

/-- A run whose plan can be made and whose tasks succeed goes on to save its ledger. -/
theorem run_of_performed {j : Job} {t : FileTree} {p : Generation.Plan} {w : Workspace}
    (planned : Generation.plan j.doc j.backend j.config = .ok p)
    (performed : performAll j.tasks (j.workspace t) = (.ok (), w)) : j.run t = Generation.conclude w := by
  rw [run_of_planned planned, performed]

/-- A run with a task that fails ends there. -/
theorem run_of_failed {j : Job} {t : FileTree} {p : Generation.Plan} {err : GenerateError} {w : Workspace}
    (planned : Generation.plan j.doc j.backend j.config = .ok p)
    (failed : performAll j.tasks (j.workspace t) = (.error err, w)) :
    j.run t = ⟨w.tree, w.emitter.emissions, w.emitter.asked, .error err⟩ := by
  rw [run_of_planned planned, failed]

/-- The emissions of a run are those of its emitter when the tasks ended. -/
theorem run_emissions (j : Job) (t : FileTree) : (j.run t).emissions = (j.final t).emitter.emissions := by
  have h := j.run_spec t
  generalize j.run t = o at h ⊢
  cases h <;> rfl

theorem run_asked (j : Job) (t : FileTree) : (j.run t).asked = (j.final t).emitter.asked := by
  have h := j.run_spec t
  generalize j.run t = o at h ⊢
  cases h <;> rfl

/-- The ledger keeps its path. -/
theorem final_ledgerPath (j : Job) (t : FileTree) : (j.final t).emitter.ledger.path = j.config.ledgerPath := by
  refine j.final_induction t (P := fun e _ => e.ledger.path = j.config.ledgerPath) (Ledger.load_path _ _) ?_
  intro e t text path _ h
  rw [Emitter.ledgerPath_emit]; exact h

theorem final_options (j : Job) (t : FileTree) : (j.final t).emitter.options = j.config.emitOptions :=
  j.final_induction t (P := fun e _ => e.options = j.config.emitOptions) rfl
    fun e u text path _ h => (Emitter.options_emit e u text path).trans h

/-- The options and the prompt are those of the job throughout. -/
theorem calls_options (j : Job) (t : FileTree) :
    ∀ c ∈ j.calls t, c.emitter.options = j.config.emitOptions ∧ c.emitter.prompt = j.prompt := by
  intro c hc
  refine (j.calls_induction t (P := fun e _ => e.options = j.config.emitOptions ∧ e.prompt = j.prompt)
    ⟨rfl, rfl⟩ ?_ c hc).1
  intro e t text path _ h
  rw [Emitter.options_emit, Emitter.prompt_emit]; exact h

/-- After the tasks only the file of the ledger can change. -/
theorem run_fileAt_of_ne {j : Job} {t : FileTree} {p : Place} (h : p ≠ j.config.ledgerPath.place) :
    (j.run t).tree.fileAt p = (j.final t).tree.fileAt p := by
  have hp : p ≠ (j.final t).emitter.prune.ledger.path.place := by
    show p ≠ (j.final t).emitter.ledger.path.place
    rw [j.final_ledgerPath t]
    exact h
  have hs := j.run_spec t
  generalize j.run t = o at hs ⊢
  cases hs with
  | aborted => rfl
  | unsaved failed => exact Ledger.save_fileAt_ne failed hp
  | saved _ _ done => exact Ledger.save_fileAt_ne done hp

theorem run_grows_final (j : Job) (t : FileTree) : FileTree.Grows (j.final t).tree (j.run t).tree := by
  have hs := j.run_spec t
  generalize j.run t = o at hs ⊢
  cases hs with
  | aborted => exact .refl _
  | unsaved failed => exact Ledger.save_grows failed
  | saved _ _ done => exact Ledger.save_grows done

theorem final_grows (j : Job) (t : FileTree) : FileTree.Grows t (j.final t).tree :=
  j.final_induction t (P := fun _ u => FileTree.Grows t u) (.refl t)
    fun e u text path _ h => h.trans (Emitter.emit_grows e u text path)

theorem run_grows (j : Job) (t : FileTree) : FileTree.Grows t (j.run t).tree :=
  (j.final_grows t).trans (j.run_grows_final t)

/-- When no output is the file of the ledger, only a run that succeeds changes that file, and it leaves the
ledger of its emitter there, kept to the paths of the run. -/
theorem run_ledgerFile {j : Job} {t : FileTree} (h : ∀ p ∈ j.outputs, p.place ≠ j.config.ledgerPath.place) :
    ((¬ ∃ s, (j.run t).result = .ok s) ∧
      (j.run t).tree.fileAt j.config.ledgerPath.place = t.fileAt j.config.ledgerPath.place) ∨
    ((∃ s, (j.run t).result = .ok s) ∧
      (j.run t).tree.read j.config.ledgerPath = .ok (j.final t).emitter.prune.ledger.toText.toUTF8) := by
  have hfinal : (j.final t).tree.fileAt j.config.ledgerPath.place = t.fileAt j.config.ledgerPath.place := by
    refine j.final_induction t
      (P := fun _ u => u.fileAt j.config.ledgerPath.place = t.fileAt j.config.ledgerPath.place) rfl ?_
    intro e u text path hpath hu
    rw [Emitter.fileAt_emit_ne text (h path hpath).symm, hu]
  have hpath : (j.final t).emitter.prune.ledger.path = j.config.ledgerPath := j.final_ledgerPath t
  have hs := j.run_spec t
  generalize j.run t = o at hs ⊢
  cases hs with
  | aborted =>
    refine .inl ⟨?_, hfinal⟩
    rintro ⟨s, hs⟩
    cases hs
  | unsaved failed =>
    refine .inl ⟨?_, ((FileTree.writeDeep_error failed).fileAt _).trans hfinal⟩
    rintro ⟨s, hs⟩
    cases hs
  | saved _ _ done =>
    have hread := FileTree.writeDeep_read done
    rw [hpath] at hread
    exact .inr ⟨⟨_, rfl⟩, hread⟩

/-- The entries in the file of the ledger after a run. -/
theorem run_entryAt {j : Job} {t : FileTree} (h : ∀ p ∈ j.outputs, p.place ≠ j.config.ledgerPath.place) :
    ((¬ ∃ s, (j.run t).result = .ok s) ∧
      ∀ k, Ledger.entryAt (j.run t).tree j.config.ledgerPath k = Ledger.entryAt t j.config.ledgerPath k) ∨
    ((∃ s, (j.run t).result = .ok s) ∧
      ∀ k, Ledger.entryAt (j.run t).tree j.config.ledgerPath k =
        if k ∈ (j.final t).emitter.emitted then (j.final t).emitter.ledger.get? k else none) := by
  rcases run_ledgerFile (t := t) h with ⟨hno, hsame⟩ | ⟨hok, hread⟩
  · exact .inl ⟨hno, fun k => Ledger.entryAt_congr hsame k⟩
  · refine .inr ⟨hok, fun k => ?_⟩
    rw [Ledger.entryAt_of_fileAt (FileTree.read_ok.1 hread).2, Ledger.entriesOfBytes_toText]
    exact (j.final t).emitter.get?_prune k

/-- A ledger that can be read stays so. -/
theorem run_readable {j : Job} {t : FileTree} (h : ∀ p ∈ j.outputs, p.place ≠ j.config.ledgerPath.place)
    (hr : Ledger.Readable t j.config.ledgerPath) : Ledger.Readable (j.run t).tree j.config.ledgerPath := by
  rcases run_ledgerFile (t := t) h with ⟨-, hsame⟩ | ⟨-, hread⟩
  · rcases hr with hnone | ⟨c, hc⟩
    · exact .inl (hsame.trans hnone)
    · -- the same bytes, and directories that a run makes do not close the way to them
      obtain ⟨c', hc', -⟩ := (j.run_grows t).read hc
      exact .inr ⟨c', hc'⟩
  · exact .inr ⟨_, hread⟩

end Job

/-! ## Histories -/

/-- A job and the tree that it found. -/
structure Run where
  job : Job
  found : FileTree

namespace Run

def outcome (r : Run) : Outcome := r.job.run r.found

def Succeeded (r : Run) : Prop := ∃ s, r.outcome.result = .ok s

/-- Whether the run brought a text to a path, whatever it decided. -/
def emits (r : Run) (p : Path) : Bool := r.outcome.emissions.any fun m => m.path = p

/-- Whether the run wrote the file of a path. -/
def writes (r : Run) (p : Path) : Bool := r.outcome.emissions.any fun m => m.path = p && m.decision.writes

end Run

/-- The trees that jobs of some kind and outside changes of some kind lead to, with the runs so far, the
newest first. -/
inductive History (allowed : Job → Prop) (outside : FileTree → FileTree → Prop) (start : FileTree) :
    FileTree → List Run → Prop
  | start : History allowed outside start start []
  | run {t : FileTree} {rs : List Run} (h : History allowed outside start t rs) {j : Job} (hj : allowed j) :
      History allowed outside start (j.run t).tree (⟨j, t⟩ :: rs)
  | change {t u : FileTree} {rs : List Run} (h : History allowed outside start t rs) (hu : outside t u) :
      History allowed outside start u rs

/-! ## A small project -/

/-- A description without paths; a client for it still has five files. -/
def emptyDocument : Document := ⟨.obj [("openapi", .str "3.0.0"), ("paths", .obj [])]⟩

def fileEntry (names : List String) (text : String) : Place × FileEntry := (⟨.above 0, names⟩, .file text.toUTF8)

def directoryEntry (names : List String) : Place × FileEntry := (⟨.above 0, names⟩, .directory)

/-- A directory of templates for a client: those of its first two files, and one text for the others. -/
def clientTemplates (dir index second : String) : List (Place × FileEntry) :=
  directoryEntry [dir] :: fileEntry [dir, "index.j2"] index :: fileEntry [dir, "variables.j2"] second ::
    ["configuration.j2", "api_ts.j2", "models.j2"].map fun name => fileEntry [dir, name] "x"

/-- A template that cannot be read, so that a run is aborted after its first file. -/
def broken : String := "\x7b\x7b"

/-- Three directories of templates; a run with the third is aborted. -/
def smallTemplates : List (Place × FileEntry) :=
  clientTemplates "a" "a" "x" ++ clientTemplates "b" "b" "x" ++ clientTemplates "c" "b" broken

/-- The templates with further files. -/
def projectWith (files : List (Place × FileEntry)) : FileTree := ⟨files ++ smallTemplates⟩

def smallProject : FileTree := projectWith []

/-- Settings of a client with templates from a directory, whose files are all protected but the first. -/
def clientConfig (templates : String) : Config :=
  { Config.standard with
    output := ⟨"out"⟩
    templates := some ⟨templates⟩
    implementation := .typeScript
    protectedPatterns := ["a", "mod"]
    checksumFile := some ⟨"ledger"⟩ }

def clientJob (config : Config) : Job := ⟨emptyDocument, Backend.typeScript, config, .alwaysDecline⟩

/-- The text of a ledger. -/
def ledgerText (entries : List (String × String)) : String :=
  "\x7b\n" ++ ",\n".intercalate (entries.map fun (key, digest) => "  \"" ++ key ++ "\": \"" ++ digest ++ "\"") ++ "\n\x7d\n"

/-- The digests of two short texts. -/
def digestOfA : String := "0cc175b9c0f1b6a831c399e269772661"

def digestOfB : String := "92eb5ffee6ae2fec3ad71c777531578f"

/-- What is put out does not depend on where templates and the ledger are looked for. -/
theorem outputs_of_settings (c : Config) (templates ledger : Option Path) :
    (clientJob { c with templates := templates, checksumFile := ledger }).outputs = (clientJob c).outputs := rfl

/-- The outputs of a client without schemas and tags. -/
def clientOutputs : List Path :=
  ["index.ts", "variables.ts", "configuration.ts", "api/api.ts", "model/models.ts"].map fun name => ⟨"out/" ++ name⟩

/-- What is to be known of a run: the tree that it leaves, what it brought to paths that are not protected, the
paths that it asked about, and whether it succeeded. -/
def Outcome.course (o : Outcome) : FileTree × List Emission × List Path × Bool :=
  (o.tree, o.emissions.filter (·.decision != .guarded), o.asked.map (·.path), o.result.toOption.isSome)

/-- A run that was followed. -/
structure KnownRun where
  job : Job
  found : FileTree
  outputs : List Path
  left : FileTree
  emissions : List Emission
  asked : List Path
  succeeds : Bool
  outputs_eq : job.outputs = outputs
  course_eq : (job.run found).course = (left, emissions, asked, succeeds)

namespace KnownRun

variable (k : KnownRun)

def run : Run := ⟨k.job, k.found⟩

theorem tree_eq : (k.job.run k.found).tree = k.left := congrArg (·.1) k.course_eq

theorem asked_eq : (k.job.run k.found).asked.map (·.path) = k.asked := congrArg (·.2.2.1) k.course_eq

theorem mem_emissions {m : Emission} (h : m ∈ k.emissions) : m ∈ (k.job.run k.found).emissions := by
  have hmem : m ∈ (k.job.run k.found).course.2.1 := by rw [k.course_eq]; exact h
  exact (List.mem_filter.1 hmem).1

theorem succeeded (h : k.succeeds = true) : k.run.Succeeded := by
  have hok : (k.job.run k.found).result.toOption.isSome = true := (congrArg (·.2.2.2) k.course_eq).trans h
  show ∃ s, (k.job.run k.found).result = .ok s
  rcases hr : (k.job.run k.found).result with e | s
  · rw [hr] at hok
    cases hok
  · exact ⟨s, rfl⟩

theorem failed (h : k.succeeds = false) : ∃ err, (k.job.run k.found).result = .error err := by
  have hfail : (k.job.run k.found).result.toOption.isSome = false := (congrArg (·.2.2.2) k.course_eq).trans h
  rcases hr : (k.job.run k.found).result with e | s
  · exact ⟨e, rfl⟩
  · rw [hr] at hfail
    cases hfail

end KnownRun

/-- The small project with what a run with its first templates leaves. -/
def builtProject : FileTree :=
  projectWith [fileEntry ["ledger"] (ledgerText [("out/index.ts", digestOfA)]), fileEntry ["out", "index.ts"] "a",
    directoryEntry ["out"]]

def buildRun : KnownRun where
  job := clientJob (clientConfig "a")
  found := smallProject
  outputs := clientOutputs
  left := builtProject
  emissions := [⟨⟨"out/index.ts"⟩, "a", .written⟩]
  asked := []
  succeeds := true
  outputs_eq := by decide +kernel
  course_eq := by decide +kernel

theorem outputs_clientJob (templates : String) : (clientJob (clientConfig templates)).outputs = clientOutputs :=
  (outputs_of_settings buildRun.job.config (some ⟨templates⟩) (some ⟨"ledger"⟩)).trans buildRun.outputs_eq

/-- Is aborted once it has written its index. -/
def spoilRun : KnownRun where
  job := clientJob (clientConfig "c")
  found := buildRun.left
  outputs := clientOutputs
  left := projectWith [fileEntry ["out", "index.ts"] "b", fileEntry ["ledger"] (ledgerText [("out/index.ts", digestOfA)]),
    directoryEntry ["out"]]
  emissions := [⟨⟨"out/index.ts"⟩, "b", .overwritten⟩]
  asked := []
  succeeds := false
  outputs_eq := outputs_clientJob "c"
  course_eq := by decide +kernel

end ApiScaffold
