/-
A run as a list of tasks: what is rendered, with which names, and to which path. The tasks are known
before the run begins, from the document, the backend and the settings alone; `run_eq` says that the
stages of a run do nothing but perform them one after the other, up to the first that fails.
-/
import ApiScaffold.Generation.Run
import ApiScaffold.Proofs.Emitter.Step

namespace ApiScaffold

/-- A text to be rendered and brought to a path. -/
structure Task where
  context : Context
  template : String
  path : Path

/-- What tasks work on. -/
structure Workspace where
  library : Template.Library
  tree : FileTree
  emitter : Emitter

/-! ## Performing tasks -/

/-- Renders and emits. -/
def Task.perform (k : Task) (w : Workspace) : Except GenerateError Unit × Workspace :=
  match w.library.render w.tree k.template k.context.frame with
  | .error e => (.error (.template e), w)
  | .ok (text, library) =>
    match w.emitter.emit w.tree text k.path with
    | (e, t, .ok _) => (.ok (), ⟨library, t, e⟩)
    | (e, t, .error err) => (.error (.emit err), ⟨library, t, e⟩)

/-- Performs tasks one after the other, up to the first that fails. -/
def performAll : List Task → Workspace → Except GenerateError Unit × Workspace
  | [], w => (.ok (), w)
  | k :: ks, w =>
    match k.perform w with
    | (.ok (), w) => performAll ks w
    | (.error e, w) => (.error e, w)

theorem performAll_append :
    ∀ (ks ls : List Task) (w : Workspace), performAll (ks ++ ls) w = match performAll ks w with
      | (.ok (), w) => performAll ls w
      | (.error e, w) => (.error e, w)
  | [], _, _ => rfl
  | k :: ks, ls, w => by
    simp only [List.cons_append, performAll]
    rcases k.perform w with ⟨e | ⟨⟩, w'⟩
    · rfl
    · exact performAll_append ks ls w'

/-! ## The tasks of a plan -/

/-- The rounds of a stage: what templates see in them, and the item that names their files. -/
def OutputStage.rounds (s : OutputStage) (c : Context) : List (Context × String) :=
  match s.granularity with
  | .once => [(c, "")]
  | .perSchema => c.api.schemas.entries.map fun e => ({ c with currentSchema := some e.1 }, e.2.name)
  | .perTag => c.tags.map fun tag => ({ c with currentTag := some tag }, tag)

/-- What templates see after a stage. -/
def OutputStage.leave (s : OutputStage) (c : Context) : Context :=
  match s.granularity with
  | .once => c
  | .perSchema => { c with currentSchema := none }
  | .perTag => { c with currentTag := none }

/-- The tasks of one round. -/
def roundTasks (output : Path) (files : List OutputFile) (round : Context × String) : List Task :=
  files.map fun f => ⟨round.1, f.template, Generation.outputPath output f.directory (f.name round.2)⟩

def OutputStage.tasks (s : OutputStage) (output : Path) (c : Context) : List Task :=
  (s.rounds c).flatMap (roundTasks output s.files)

/-- The tasks of stages, one stage after the other. -/
def stageTasks (output : Path) : Context → List OutputStage → List Task
  | _, [] => []
  | c, s :: ss => s.tasks output c ++ stageTasks output (s.leave c) ss

/-! ## Computations on the state of a run -/

section

variable {ν α β : Type}

/-- What a computation gives and leaves behind. -/
def GenerationM.exec (m : GenerationM ν α) (g : Generation ν) : Except GenerateError α × Generation ν := m.run.run g

theorem exec_bind (m : GenerationM ν α) (f : α → GenerationM ν β) (g : Generation ν) :
    GenerationM.exec (m >>= f) g = match GenerationM.exec m g with
      | (.ok a, g) => GenerationM.exec (f a) g
      | (.error e, g) => (.error e, g) := by
  unfold GenerationM.exec
  rw [ExceptT.run_bind, StateT.run_bind]
  rcases m.run.run g with ⟨e | a, s⟩ <;> rfl

theorem exec_get_bind (f : Generation ν → GenerationM ν α) (g : Generation ν) :
    GenerationM.exec (get >>= f) g = GenerationM.exec (f g) g := exec_bind get f g

/-- The part of the state that tasks work on. -/
def Generation.workspace (g : Generation ν) : Workspace := ⟨g.library, g.tree, g.emitter⟩

/-- From a context, a step does what performing some tasks does, and leaves another context when it
succeeds. -/
def Performs (m : GenerationM ν Unit) (output : Path) (c : Context) (ks : List Task) (c' : Context) : Prop :=
  ∀ g : Generation ν, g.context = c → g.output = output →
    (GenerationM.exec m g).1 = (performAll ks g.workspace).1 ∧
    (GenerationM.exec m g).2.workspace = (performAll ks g.workspace).2 ∧
    ((GenerationM.exec m g).1 = .ok () →
      (GenerationM.exec m g).2.context = c' ∧ (GenerationM.exec m g).2.output = output)

theorem Performs.done (output : Path) (c : Context) : Performs (pure () : GenerationM ν Unit) output c [] c :=
  fun _ hc ho => ⟨rfl, rfl, fun _ => ⟨hc, ho⟩⟩

theorem Performs.bind {m m' : GenerationM ν Unit} {output : Path} {c c' c'' : Context} {ks ls : List Task}
    (h : Performs m output c ks c') (h' : Performs m' output c' ls c'') :
    Performs (m >>= fun _ => m') output c (ks ++ ls) c'' := by
  intro g hc ho
  obtain ⟨hr, hw, hok⟩ := h g hc ho
  rw [exec_bind, performAll_append]
  rcases hm : GenerationM.exec m g with ⟨e | ⟨⟩, g'⟩
  · -- where the first part fails, its tasks fail too, and neither goes on
    rw [hm] at hr hw
    rcases hk : performAll ks g.workspace with ⟨e' | ⟨⟩, w'⟩ <;> rw [hk] at hr hw <;> cases hr
    cases hw
    exact ⟨rfl, rfl, fun h => by cases h⟩
  · rw [hm] at hr hw hok
    rcases hk : performAll ks g.workspace with ⟨e' | ⟨⟩, w'⟩ <;> rw [hk] at hr hw <;> cases hr
    cases hw
    exact h' g' (hok rfl).1 (hok rfl).2

theorem Performs.congr {m : GenerationM ν Unit} {output : Path} {c c' : Context} {ks ls : List Task}
    (h : Performs m output c ks c') (e : ks = ls) : Performs m output c ls c' := e ▸ h

theorem performs_setSchema (output : Path) (c : Context) (name : Option String) :
    Performs (Generation.setSchema name : GenerationM ν Unit) output c [] { c with currentSchema := name } := by
  rintro g rfl ho
  exact ⟨rfl, rfl, fun _ => ⟨rfl, ho⟩⟩

theorem performs_setTag (output : Path) (c : Context) (name : Option String) :
    Performs (Generation.setTag name : GenerationM ν Unit) output c [] { c with currentTag := name } := by
  rintro g rfl ho
  exact ⟨rfl, rfl, fun _ => ⟨rfl, ho⟩⟩

/-! ## Files and rounds -/

theorem exec_render (template : String) (g : Generation ν) :
    GenerationM.exec (Generation.render template) g =
      match g.library.render g.tree template g.context.frame with
      | .ok (text, library) => (.ok text, { g with library := library })
      | .error e => (.error (.template e), g) := by
  unfold Generation.render
  rw [exec_get_bind]
  rcases g.library.render g.tree template g.context.frame with e | ⟨text, library⟩ <;> rfl

theorem exec_emit (text : String) (path : Path) (g : Generation ν) :
    GenerationM.exec (Generation.emit text path) g =
      match g.emitter.emit g.tree text path with
      | (e, t, .ok d) => (.ok d, { g with emitter := e, tree := t })
      | (e, t, .error err) => (.error (.emit err), { g with emitter := e, tree := t }) := by
  unfold Generation.emit
  rw [exec_get_bind]
  rcases g.emitter.emit g.tree text path with ⟨e, t, err | d⟩ <;> rfl

/-- Once the item of the round is known, the step of a file is one task. -/
theorem performs_file {granularity : Granularity} {item : String} {c : Context} (output : Path) (f : OutputFile)
    (hitem : ∀ g : Generation ν, g.context = c → GenerationM.exec granularity.item g = (.ok item, g)) :
    Performs (f.step granularity : GenerationM ν Unit) output c
      [⟨c, f.template, Generation.outputPath output f.directory (f.name item)⟩] c := by
  rintro g rfl rfl
  unfold OutputFile.step Generation.emitTemplate
  rw [exec_bind, hitem g rfl]
  simp only [performAll, Task.perform, Generation.workspace]
  rw [exec_bind, exec_bind, exec_render]
  rcases g.library.render g.tree f.template g.context.frame with e | ⟨text, library⟩
  · exact ⟨rfl, rfl, fun h => by cases h⟩
  · simp only [exec_get_bind, exec_emit]
    rcases g.emitter.emit g.tree text (Generation.outputPath g.output f.directory (f.name item)) with ⟨e, t, err | d⟩
    · exact ⟨rfl, rfl, fun h => by cases h⟩
    · exact ⟨rfl, rfl, fun _ => ⟨rfl, rfl⟩⟩

/-- The files of a round are its tasks. -/
theorem performs_files {granularity : Granularity} {item : String} {c : Context} (output : Path)
    (hitem : ∀ g : Generation ν, g.context = c → GenerationM.exec granularity.item g = (.ok item, g)) :
    ∀ files : List OutputFile,
      Performs (Stage.takeAll (files.map (·.step granularity)) : GenerationM ν Unit) output c
        (roundTasks output files (c, item)) c
  | [] => .done output c
  | f :: files => (performs_file output f hitem).bind (performs_files output hitem files)

theorem exec_schema {c : Context} {name : String} {s : Schema} (h : c.api.schemas.get? name = some s)
    (g : Generation ν) (hg : g.context = { c with currentSchema := some name }) :
    GenerationM.exec Granularity.perSchema.item g = (.ok s.name, g) := by
  have hs : g.context.schema? = some s := by rw [hg]; exact h
  simp only [Granularity.item, Generation.schema]
  rw [exec_bind, exec_get_bind, hs]
  rfl

theorem exec_tag (c : Context) (tag : String) (g : Generation ν) (hg : g.context = { c with currentTag := some tag }) :
    GenerationM.exec Granularity.perTag.item g = (.ok tag, g) := by
  have hs : g.context.currentTag = some tag := by rw [hg]
  simp only [Granularity.item, Generation.tag]
  rw [exec_get_bind, hs]
  rfl

/-- The rounds for some schemas, from whatever schema the context is about; the cursor is unset after them. -/
theorem performs_schemas (output : Path) (files : List OutputFile) {c : Context} :
    ∀ (es : List (String × Schema)) (x : Option String), (∀ e ∈ es, c.api.schemas.get? e.1 = some e.2) →
      Performs ((es.map (·.1)).forM (fun name => do
          Generation.setSchema (some name)
          Stage.takeAll (files.map (·.step .perSchema))) >>= fun _ => Generation.setSchema none : GenerationM ν Unit)
        output { c with currentSchema := x }
        ((es.map fun e => ({ c with currentSchema := some e.1 }, e.2.name)).flatMap (roundTasks output files))
        { c with currentSchema := none }
  | [], x, _ => by
    show Performs ((pure () : GenerationM ν Unit) >>= _) _ _ _ _
    exact (Performs.done output _).bind (performs_setSchema output _ none)
  | e :: es, x, h => by
    simp only [List.map_cons, List.forM_eq_forM, List.forM_cons, List.flatMap_cons, bind_assoc]
    -- the cursor is set anew in every round, so the one from before does not matter
    have hset := performs_setSchema (ν := ν) output { c with currentSchema := x } (some e.1)
    have hround := performs_files output
      (exec_schema (ν := ν) (h e (List.mem_cons_self ..))) files
    exact hset.bind (hround.bind
      (performs_schemas output files es (some e.1) fun e' he' => h e' (List.mem_cons_of_mem _ he')))

/-- The rounds for some tags, in the same way. -/
theorem performs_tags (output : Path) (files : List OutputFile) {c : Context} :
    ∀ (tags : List String) (x : Option String),
      Performs (tags.forM (fun tag => do
          Generation.setTag (some tag)
          Stage.takeAll (files.map (·.step .perTag))) >>= fun _ => Generation.setTag none : GenerationM ν Unit)
        output { c with currentTag := x }
        ((tags.map fun tag => ({ c with currentTag := some tag }, tag)).flatMap (roundTasks output files))
        { c with currentTag := none }
  | [], x => by
    show Performs ((pure () : GenerationM ν Unit) >>= _) _ _ _ _
    exact (Performs.done output _).bind (performs_setTag output _ none)
  | tag :: tags, x => by
    simp only [List.map_cons, List.forM_eq_forM, List.forM_cons, List.flatMap_cons, bind_assoc]
    have hset := performs_setTag (ν := ν) output { c with currentTag := x } (some tag)
    have hround := performs_files output (exec_tag (ν := ν) c tag) files
    exact hset.bind (hround.bind (performs_tags output files tags (some tag)))

theorem performs_stage (s : OutputStage) (output : Path) (c : Context) :
    Performs (s.stage.run : GenerationM ν Unit) output c (s.tasks output c) (s.leave c) := by
  rcases s with ⟨granularity, files⟩
  cases granularity with
  | once =>
    refine (@performs_files ν .once "" c output (fun g _ => rfl) files).congr ?_
    simp [OutputStage.tasks, OutputStage.rounds]
  | perSchema =>
    intro g hg ho
    have h := performs_schemas (ν := ν) output files c.api.schemas.entries c.currentSchema
      (fun e he => c.api.schemas.get?_of_mem he) g hg ho
    have hrun : GenerationM.exec (OutputStage.stage ⟨.perSchema, files⟩).run g =
        GenerationM.exec (c.schemaNames.forM (fun name => do
          Generation.setSchema (some name)
          Stage.takeAll (files.map (·.step .perSchema))) >>= fun _ => Generation.setSchema none) g := by
      unfold Stage.run
      simp only [OutputStage.stage]
      rw [exec_get_bind, hg]
    rw [hrun]
    exact h
  | perTag =>
    intro g hg ho
    have h := performs_tags (ν := ν) output files c.tags c.currentTag g hg ho
    have hrun : GenerationM.exec (OutputStage.stage ⟨.perTag, files⟩).run g =
        GenerationM.exec (c.tags.forM (fun tag => do
          Generation.setTag (some tag)
          Stage.takeAll (files.map (·.step .perTag))) >>= fun _ => Generation.setTag none) g := by
      unfold Stage.run
      simp only [OutputStage.stage]
      rw [exec_get_bind, hg]
    rw [hrun]
    exact h

theorem performs_stages (output : Path) :
    ∀ (ss : List OutputStage) (c : Context),
      ∃ c', Performs (Stage.runAll (ss.map (·.stage)) : GenerationM ν Unit) output c (stageTasks output c ss) c'
  | [], c => ⟨c, .done output c⟩
  | s :: ss, c => by
    obtain ⟨c', h⟩ := performs_stages output ss (s.leave c)
    exact ⟨c', (performs_stage s output c).bind h⟩

end

namespace Generation

/-- The tasks of a run; none if its plan cannot be made. -/
def tasks (doc : Document) (b : Backend) (config : Config) : List Task :=
  match plan doc b config with
  | .error _ => []
  | .ok p => stageTasks config.output p.context p.stages

/-- The workspace in which the tasks begin. -/
def workspaceAt (t : FileTree) (b : Backend) (config : Config) (prompt : Prompt) : Workspace :=
  ⟨.ofTable config.templates b.templates, t,
    .start (Ledger.load t config.ledgerPath) config.emitOptions prompt⟩

/-- What is left behind when the tasks are done: the ledger is kept to the paths of this run and saved. -/
def conclude (w : Workspace) : Outcome :=
  match w.emitter.prune.ledger.save w.tree with
  | (t, .ok ()) => ⟨t, w.emitter.emissions, w.emitter.asked, .ok w.emitter.summary⟩
  | (t, .error f) => ⟨t, w.emitter.emissions, w.emitter.asked, .error (.emit (.io f))⟩

/-- A run makes a plan, performs its tasks, and saves the ledger if all have succeeded. -/
theorem run_eq (t : FileTree) (doc : Document) (b : Backend) (config : Config) (prompt : Prompt) :
    run t doc b config prompt = match plan doc b config with
      | .error e => ⟨t, [], [], .error e⟩
      | .ok _ =>
        match performAll (tasks doc b config) (workspaceAt t b config prompt) with
        | (.ok (), w) => conclude w
        | (.error e, w) => ⟨w.tree, w.emitter.emissions, w.emitter.asked, .error e⟩ := by
  unfold run tasks
  rcases hp : plan doc b config with e | p
  · rfl
  simp only
  obtain ⟨c', h⟩ := performs_stages (ν := Unit) config.output p.stages p.context
  obtain ⟨hr, hw, -⟩ := h (start t b config prompt p.context) rfl rfl
  have hstart : (start t b config prompt p.context).workspace = workspaceAt t b config prompt := rfl
  rw [hstart] at hr hw
  show (match GenerationM.exec (Stage.runAll (p.stages.map (·.stage))) (start t b config prompt p.context) with
    | (.ok (), g) => finish g
    | (.error e, g) => ⟨g.tree, g.emitter.emissions, g.emitter.asked, .error e⟩) = _
  rcases hm : GenerationM.exec (Stage.runAll (p.stages.map (·.stage))) (start t b config prompt p.context)
    with ⟨r, g⟩
  rw [hm] at hr hw
  -- what follows looks at the workspace alone, and both ended in the same one
  rcases hk : performAll (stageTasks config.output p.context p.stages) (workspaceAt t b config prompt) with ⟨r', w⟩
  rw [hk] at hr hw
  cases hr
  cases hw
  rw [hm]
  rcases r with e | ⟨⟩ <;> rfl

end Generation

end ApiScaffold
