/-
The files of a run. They are known from the settings and from the names of tags and schemas alone: the fixed files of
the backend, one for each tag, one for each schema, and then those that the settings ask for (`Implementation.files`).
A run that succeeds brings a text to each of them in this order; where two of their keys coincide it ends before the
second (`Job.Produces`).
-/
import ApiScaffold.Backend.Choice
import ApiScaffold.Proofs.Api.SelfReference
import ApiScaffold.Proofs.Generation.Failure
import ApiScaffold.Proofs.Generation.Saved

namespace ApiScaffold

open Emitter (ledgerKey)

/-! ## Files by directory and name -/

/-- The package of a server, from the options of the settings. -/
def serverName (options : Members) : String :=
  ((Backend.Flask.Options.ofMembers options).toOption.getD .standard).serverName

def serverFiles (server : Path) (tags schemas : List String) : List (Path × String) :=
  [(⟨""⟩, "requirements.txt"), (⟨""⟩, "Dockerfile"), (⟨""⟩, "setup.py"),
    (server, "__init__.py"), (server, "__main__.py"), (server, "util.py"), (server, "encoder.py"),
    (server.join "models", "__init__.py"), (server.join "models", "base_model.py"),
    (server.join "controllers", "__init__.py")] ++
  tags.map (fun tag => (server.join "controllers", Text.snakeCase tag ++ "_controller.py")) ++
  schemas.map (fun name => (server.join "models", Text.lowerFirst name ++ ".py"))

def clientFiles (tags schemas : List String) : List (Path × String) :=
  [(⟨""⟩, "index.ts"), (⟨""⟩, "variables.ts"), (⟨""⟩, "configuration.ts"), (⟨"api"⟩, "api.ts"),
    (⟨"model"⟩, "models.ts")] ++
  tags.map (fun tag => (⟨"api"⟩, tag ++ ".service.ts")) ++
  schemas.map (fun name => (⟨"model"⟩, name ++ ".ts"))

/-- The files of an entry of the settings: one as it is written there, or one for each schema or tag, whose stem takes
the place of the name in braces. -/
def IteratorSpec.files (spec : IteratorSpec) (b : Backend) (tags schemas : List String) : List (Path × String) :=
  match spec.granularity with
  | .once => [(⟨""⟩, spec.output)]
  | .perSchema => schemas.map fun name => (⟨""⟩, Text.replace "\x7bschema\x7d" (b.schemaStem name) spec.output)
  | .perTag => tags.map fun tag => (⟨""⟩, Text.replace "\x7btag\x7d" (b.tagStem tag) spec.output)

def Implementation.ownFiles (i : Implementation) (options : Members) (tags schemas : List String) :
    List (Path × String) :=
  match i with
  | .flask => serverFiles ⟨serverName options⟩ tags schemas
  | .typeScript => clientFiles tags schemas

/-- The paths of a run for a description, in order. -/
def Implementation.files (i : Implementation) (config : Config) (api : Api) : List Path :=
  let tags := api.paths.keys
  let schemas := api.schemas.keys
  (i.ownFiles config.options tags schemas ++ config.iterators.flatMap (·.files i.backend tags schemas)).map fun f =>
    Generation.outputPath config.output f.1 f.2

/-! ## Files of stages -/

/-- What the rounds of a stage are about. -/
def Granularity.items : Granularity → List String → List String → List String
  | .once, _, _ => [""]
  | .perSchema, _, schemas => schemas
  | .perTag, tags, _ => tags

def OutputStage.namedFiles (s : OutputStage) (tags schemas : List String) : List (Path × String) :=
  (s.granularity.items tags schemas).flatMap fun item => s.files.map fun f => (f.directory, f.name item)

theorem OutputStage.api_leave (s : OutputStage) (c : Context) : (s.leave c).api = c.api := by
  unfold leave
  cases s.granularity <;> rfl

/-- The rounds of a stage are about its items, when every schema has the name that it is known by. -/
theorem OutputStage.rounds_items (s : OutputStage) {c : Context} (named : ∀ e ∈ c.api.schemas.entries, e.2.name = e.1) :
    (s.rounds c).map (·.2) = s.granularity.items c.tags c.schemaNames := by
  unfold rounds
  cases s.granularity with
  | once => rfl
  | perSchema =>
    simp only [List.map_map]
    exact List.map_congr_left named
  | perTag =>
    simp only [List.map_map]
    exact List.map_id c.tags

theorem OutputStage.paths_tasks (s : OutputStage) (output : Path) {c : Context}
    (named : ∀ e ∈ c.api.schemas.entries, e.2.name = e.1) :
    (s.tasks output c).map (·.path) =
      (s.namedFiles c.tags c.schemaNames).map fun f => Generation.outputPath output f.1 f.2 := by
  unfold tasks namedFiles
  rw [← s.rounds_items named, List.flatMap_map, List.map_flatMap, List.map_flatMap]
  refine List.flatMap_congr fun round _ => ?_
  simp only [roundTasks, List.map_map]
  rfl

/-- The paths of stages do not depend on where the cursors were left. -/
theorem paths_stageTasks (output : Path) :
    ∀ (ss : List OutputStage) {c : Context}, (∀ e ∈ c.api.schemas.entries, e.2.name = e.1) →
      (stageTasks output c ss).map (·.path) =
        (ss.flatMap (·.namedFiles c.tags c.schemaNames)).map fun f => Generation.outputPath output f.1 f.2
  | [], _, _ => rfl
  | s :: ss, c, named => by
    have hapi := s.api_leave c
    have hrest := paths_stageTasks output ss (c := s.leave c) (by rw [hapi]; exact named)
    unfold Context.tags Context.schemaNames at hrest
    rw [hapi] at hrest
    rw [stageTasks, List.map_append, s.paths_tasks output named, hrest, List.flatMap_cons, List.map_append]
    rfl

/-- A stage with one file has it once for each of its items. -/
theorem namedFiles_one (g : Granularity) (f : OutputFile) (tags schemas : List String) :
    (⟨g, [f]⟩ : OutputStage).namedFiles tags schemas = (g.items tags schemas).map fun item => (f.directory, f.name item) :=
  List.map_eq_flatMap.symm

/-- A stage whose files are put out once. -/
theorem namedFiles_once (fs : List OutputFile) (tags schemas : List String) :
    (⟨.once, fs⟩ : OutputStage).namedFiles tags schemas = fs.map fun f => (f.directory, f.name "") :=
  List.append_nil _

theorem IteratorSpec.namedFiles_stage (spec : IteratorSpec) (b : Backend) (tags schemas : List String) :
    (spec.stage b).namedFiles tags schemas = spec.files b tags schemas := by
  unfold IteratorSpec.stage IteratorSpec.files
  rw [namedFiles_one]
  cases spec.granularity <;> rfl

/-- The stages of a backend produce its files. -/
theorem Implementation.namedFiles_outputs {i : Implementation} {options : Members} {stages : List OutputStage}
    (h : i.backend.outputs options = .ok stages) (tags schemas : List String) :
    stages.flatMap (·.namedFiles tags schemas) = i.ownFiles options tags schemas := by
  cases i with
  | flask =>
    obtain ⟨o, ho, h⟩ := except_bind_ok h
    cases h
    have hserver : serverName options = o.serverName := by
      unfold serverName
      rw [ho]
      rfl
    show _ = serverFiles ⟨serverName options⟩ tags schemas
    rw [hserver]
    simp only [Backend.Flask.stages, List.flatMap_cons, List.flatMap_nil, namedFiles_one, namedFiles_once,
      List.append_nil, ← List.append_assoc]
    rfl
  | typeScript =>
    rcases options with _ | ⟨o, rest⟩
    · cases h
      simp only [Backend.TypeScript.stages, List.flatMap_cons, List.flatMap_nil, namedFiles_one, namedFiles_once,
      List.append_nil, ← List.append_assoc]
      rfl
    · cases h

/-! ## Files of a run -/

theorem plan_ok {doc : Document} {b : Backend} {config : Config} {p : Generation.Plan}
    (h : Generation.plan doc b config = .ok p) :
    ∃ api stages, Api.ofDocument doc b.words = .ok api ∧ b.prepare (.start api config.options) = .ok p.context ∧
      b.outputs config.options = .ok stages ∧ p.stages = stages ++ config.iterators.map (·.stage b) := by
  unfold Generation.plan at h
  obtain ⟨api, hapi, h⟩ := except_bind_ok h
  obtain ⟨context, hcontext, h⟩ := except_bind_ok h
  obtain ⟨stages, hstages, h⟩ := except_bind_ok h
  cases h
  exact ⟨api, stages, except_mapError_ok hapi, except_mapError_ok hcontext, except_mapError_ok hstages, rfl⟩

/-- The names of tags and schemas stay as a context is made ready. -/
theorem Implementation.names_prepare {i : Implementation} {c c' : Context} (h : i.backend.prepare c = .ok c') :
    c'.tags = c.tags ∧ c'.api.schemas = c.api.schemas := by
  cases i with
  | flask =>
    obtain ⟨o, -, h⟩ := except_bind_ok h
    cases h
    exact ⟨SortedMap.keys_mapValues .., rfl⟩
  | typeScript =>
    cases h
    exact ⟨rfl, rfl⟩

/-- What a backend is asked to do with a document. -/
def Implementation.job (i : Implementation) (doc : Document) (config : Config) (prompt : Prompt) : Job :=
  ⟨doc, i.backend, config, prompt⟩

variable {i : Implementation} {doc : Document} {config : Config} {prompt : Prompt}

/-- The outputs of a run with a plan are the files of its description. -/
theorem Implementation.outputs_job {p : Generation.Plan} {api : Api}
    (hplan : Generation.plan doc i.backend config = .ok p) (hapi : Api.ofDocument doc i.backend.words = .ok api) :
    (i.job doc config prompt).outputs = i.files config api := by
  obtain ⟨api', stages, hapi', hprepare, hstages, hall⟩ := plan_ok hplan
  obtain rfl : api' = api := Except.ok.inj (hapi'.symm.trans hapi)
  obtain ⟨htags, hschemas⟩ := Implementation.names_prepare hprepare
  have named : ∀ e ∈ p.context.api.schemas.entries, e.2.name = e.1 := by
    rw [hschemas]
    exact fun e he => Schema.name_of_get? (Api.ofDocument_parts hapi).1 (SortedMap.get?_of_mem _ he)
  have hnames : p.context.schemaNames = api'.schemas.keys := congrArg SortedMap.keys hschemas
  have houtputs : (i.job doc config prompt).outputs = (stageTasks config.output p.context p.stages).map (·.path) := by
    unfold Job.outputs Job.tasks Generation.tasks
    simp only [Implementation.job, hplan]
  rw [houtputs, paths_stageTasks _ _ named, hall, List.flatMap_append, namedFiles_outputs hstages, htags, hnames,
    List.flatMap_map]
  simp only [IteratorSpec.namedFiles_stage]
  rfl

/-! ## What is emitted -/

/-- Tasks that succeed have keys of their own. -/
theorem keys_nodup_of_ok :
    ∀ {ks : List Task} {w w' : Workspace}, performAll ks w = (.ok (), w') → ((ks.map (·.path)).map ledgerKey).Nodup
  | [], _, _, _ => .nil
  | k :: ks, w, w', h => by
    obtain ⟨text, library, e, t, d, -, -, hrest⟩ := performAll_cons_ok h
    refine List.nodup_cons.2 ⟨fun hmem => ?_, keys_nodup_of_ok hrest⟩
    obtain ⟨p, hp, hkey⟩ := List.mem_map.1 hmem
    obtain ⟨k', hk', rfl⟩ := List.mem_map.1 hp
    exact head_key_ne h k' hk' hkey

/-- Whether or not they all succeed, what tasks emit are the paths of the first of them, under keys of their own. -/
theorem first_emitted {ks : List Task} {w w' : Workspace} {r : Except GenerateError Unit}
    (h : performAll ks w = (r, w')) (hstart : w.emitter.emissions = []) :
    w'.emitter.emissions.map (·.path) <+: ks.map (·.path) ∧
      ((w'.emitter.emissions.map (·.path)).map ledgerKey).Nodup := by
  rcases r with err | ⟨⟩
  · obtain ⟨done, k, rest, v, rfl, hdone, hfail⟩ := performAll_error h
    -- the task that failed brought no text to its path
    have hpaths : w'.emitter.emissions.map (·.path) = done.map (·.path) := by
      rw [(perform_error hfail).2, emissions_of_ok hdone, hstart]
      rfl
    rw [hpaths, List.map_append]
    exact ⟨List.prefix_append .., keys_nodup_of_ok hdone⟩
  · have hpaths : w'.emitter.emissions.map (·.path) = ks.map (·.path) := by
      rw [emissions_of_ok h, hstart]
      rfl
    rw [hpaths]
    exact ⟨List.prefix_refl _, keys_nodup_of_ok h⟩

/-- A prefix with distinct keys ends before the second of two elements with one key. -/
theorem prefix_of_nodup {α β : Type} {f : α → β} {done before between after : List α} {a b : α}
    (hdone : done <+: before ++ a :: between ++ b :: after) (hnodup : (done.map f).Nodup) (hkey : f a = f b) :
    done <+: before ++ a :: between := by
  have hboth : before ++ a :: between ++ [b] <+: before ++ a :: between ++ b :: after := ⟨after, by simp⟩
  have hclash : ¬ ((before ++ a :: between ++ [b]).map f).Nodup := by
    simp [List.nodup_append, hkey]
  -- both are prefixes of one list, so one of them is a prefix of the other
  rcases List.prefix_or_prefix_of_prefix hdone hboth with hshort | hlong
  · rcases List.prefix_concat_iff.1 hshort with rfl | hfirst
    · exact absurd hnodup hclash
    · exact hfirst
  · exact absurd (hnodup.sublist (hlong.sublist.map f)) hclash

/-- The number of files that were brought to their paths. -/
def RunSummary.total (s : RunSummary) : Nat := s.written + s.overwritten + s.unchanged + s.guarded + s.declined

theorem RunSummary.total_ofDecisions : ∀ ds : List Decision, (RunSummary.ofDecisions ds).total = ds.length
  | [] => rfl
  | d :: ds => by
    have ih := total_ofDecisions ds
    unfold total ofDecisions at ih ⊢
    cases d <;> simp only [List.count_cons, List.length_cons] <;> simp at ih ⊢ <;> omega

/-- A run knows what its rounds are about. -/
theorem Job.cursors_set (j : Job) (t : FileTree) (c : Cursor) : (j.run t).result ≠ .error (.missingCursor c) := by
  intro hresult
  rcases hplan : Generation.plan j.doc j.backend j.config with err | p
  · rw [Job.run_of_unplanned hplan] at hresult
    cases hresult
    rcases plan_error hplan with ⟨e, he⟩ | ⟨e, he⟩ <;> cases he
  rcases hperformed : performAll j.tasks (j.workspace t) with ⟨err | ⟨⟩, w⟩
  · rw [Job.run_of_failed hplan hperformed] at hresult
    cases hresult
    obtain ⟨done, k, rest, v, -, -, hfail⟩ := performAll_error hperformed
    rcases (perform_error hfail).1 with ⟨e, he⟩ | ⟨e, he⟩ <;> cases he
  · rw [Job.run_of_performed hplan hperformed] at hresult
    unfold Generation.conclude at hresult
    rcases hsave : w.emitter.prune.ledger.save w.tree with ⟨u, f | ⟨⟩⟩ <;> rw [hsave] at hresult <;> cases hresult

/-- What a run puts out when `files` are its paths. -/
structure Job.Produces (j : Job) (t : FileTree) (files : List Path) : Prop where
  /-- If it succeeds it has brought a text to each of them in order, under keys of their own, and has counted them. -/
  all : ∀ s, (j.run t).result = .ok s → (j.run t).emissions.map (·.path) = files ∧
    (files.map ledgerKey).Nodup ∧ s.total = files.length
  /-- If two keys coincide it fails, with nothing brought to the second of the two nor to those after it. -/
  clash : ∀ before p between q after, files = before ++ p :: between ++ q :: after → ledgerKey p = ledgerKey q →
    (∀ s, (j.run t).result ≠ .ok s) ∧ (j.run t).emissions.map (·.path) <+: before ++ p :: between ∧
      ∀ place, (j.run t).tree.fileAt place ≠ t.fileAt place →
        ∃ m ∈ (j.run t).emissions, m.path.place = place ∧ m.decision.writes = true

section

variable {j : Job} {t : FileTree}

/-- A file that a failed run changed is that of a text which it wrote. -/
theorem Job.changed_of_failed (h : ∀ s, (j.run t).result ≠ .ok s) {place : Place}
    (hchanged : (j.run t).tree.fileAt place ≠ t.fileAt place) :
    ∃ m ∈ (j.run t).emissions, m.path.place = place ∧ m.decision.writes = true := by
  rw [j.run_emissions t]
  have hs := j.run_spec t
  generalize j.run t = o at hs h hchanged
  cases hs with
  | aborted => exact final_changed hchanged
  | unsaved failed => exact final_changed fun heq => hchanged (((FileTree.writeDeep_error failed).fileAt place).trans heq)
  | saved _ _ _ => exact absurd rfl (h _)

theorem Job.result_summary {s : RunSummary} (h : (j.run t).result = .ok s) : s = (j.final t).emitter.summary := by
  have hs := j.run_spec t
  generalize j.run t = o at hs h
  cases hs <;> cases h
  rfl

/-- A run produces its outputs. -/
theorem Job.produces_outputs (j : Job) (t : FileTree) : j.Produces t j.outputs := by
  obtain ⟨hfirst, hnodup⟩ : (j.run t).emissions.map (·.path) <+: j.outputs ∧
      (((j.run t).emissions.map (·.path)).map ledgerKey).Nodup := by
    rw [j.run_emissions t]
    exact first_emitted rfl rfl
  have hall : ∀ s, (j.run t).result = .ok s → (j.run t).emissions.map (·.path) = j.outputs := by
    intro s hok
    rw [j.run_emissions t]
    exact emissions_of_ok (Job.run_saved hok).1
  constructor
  · intro s hok
    refine ⟨hall s hok, hall s hok ▸ hnodup, ?_⟩
    rw [Job.result_summary hok, Emitter.summary, RunSummary.total_ofDecisions, ← hall s hok, j.run_emissions t,
      List.length_map, List.length_map]
  · intro before p between q after hfiles hkey
    -- a success would have brought texts to both of them, under one key
    have hfailed : ∀ s, (j.run t).result ≠ .ok s := by
      intro s hok
      rw [hall s hok, hfiles] at hnodup
      simp [List.nodup_append, hkey] at hnodup
    exact ⟨hfailed, prefix_of_nodup (hfiles ▸ hfirst) hnodup hkey, fun place => Job.changed_of_failed hfailed⟩

/-- A run without a plan puts nothing out. -/
theorem Job.produces_of_unplanned {err : GenerateError} (h : Generation.plan j.doc j.backend j.config = .error err)
    (files : List Path) : j.Produces t files := by
  have hrun := Job.run_of_unplanned (t := t) h
  constructor
  · intro s hok
    rw [hrun] at hok
    cases hok
  · intro before p between q after _ _
    rw [hrun]
    exact ⟨nofun, List.nil_prefix, fun _ hchanged => absurd rfl hchanged⟩

end

/-- The files of a run. Every run that succeeds has a description; with it the run produces the files of the backend
and of the settings in their order, and never misses what a round is about. -/
theorem run_produces (i : Implementation) (doc : Document) (config : Config) (prompt : Prompt) (t : FileTree) :
    (∀ s, ((i.job doc config prompt).run t).result = .ok s → ∃ api, Api.ofDocument doc i.backend.words = .ok api) ∧
    (∀ api, Api.ofDocument doc i.backend.words = .ok api → (i.job doc config prompt).Produces t (i.files config api)) ∧
    ∀ c, ((i.job doc config prompt).run t).result ≠ .error (.missingCursor c) := by
  rcases hplan : Generation.plan doc i.backend config with err | p
  · have hunplanned : Generation.plan (i.job doc config prompt).doc (i.job doc config prompt).backend
        (i.job doc config prompt).config = .error err := hplan
    refine ⟨fun s hok => ?_, fun api _ => Job.produces_of_unplanned hunplanned _, Job.cursors_set _ t⟩
    rw [Job.run_of_unplanned hunplanned] at hok
    cases hok
  · obtain ⟨api, stages, hapi, -⟩ := plan_ok hplan
    refine ⟨fun _ _ => ⟨api, hapi⟩, fun api' hapi' => ?_, Job.cursors_set _ t⟩
    rw [← Implementation.outputs_job hplan hapi']
    exact Job.produces_outputs _ t

/-- A document with one tag and one schema. -/
def described (tag schema : String) : Document where
  root := .obj [
    ("openapi", .str "3.0.0"),
    ("paths", .obj [("/pets", .obj [("get", .obj [("tags", .arr [.str tag])])])]),
    ("components", .obj [("schemas", .obj [(schema, .obj [("type", .str "object")])])])]

/-- All templates that a client needs. -/
def clientProject : FileTree :=
  ⟨clientTemplates "t" "x" "x" ++ ["service.j2", "model.j2"].map fun name => fileEntry ["t", name] "x"⟩

/-- Settings with two extra files. -/
def petsConfig : Config :=
  { clientConfig "t" with
    iterators := [⟨.perSchema, "model.j2", "docs/{schema}.md"⟩, ⟨.perTag, "model.j2", "{tag}/of {tag}"⟩] }

theorem run_produces_pets :
    ∃ s, ((Implementation.typeScript.job (described "zoo" "Pet") petsConfig .alwaysDecline).run clientProject).result = .ok s ∧
      s.total = 9 ∧
      ((Implementation.typeScript.job (described "zoo" "Pet") petsConfig .alwaysDecline).run clientProject).emissions.map
        (·.path.text) = ["out/index.ts", "out/variables.ts", "out/configuration.ts", "out/api/api.ts",
          "out/model/models.ts", "out/api/zoo.service.ts", "out/model/Pet.ts", "out/docs/Pet.md", "out/zoo/of zoo"] := by
  obtain ⟨-, hproduces, -⟩ :=
    run_produces .typeScript (described "zoo" "Pet") petsConfig .alwaysDecline clientProject
  have hfiles : (Api.ofDocument (described "zoo" "Pet") Implementation.typeScript.backend.words).toOption.map
      (fun api => (Implementation.typeScript.files petsConfig api).map (·.text)) =
        some ["out/index.ts", "out/variables.ts", "out/configuration.ts", "out/api/api.ts", "out/model/models.ts",
          "out/api/zoo.service.ts", "out/model/Pet.ts", "out/docs/Pet.md", "out/zoo/of zoo"] := by decide +kernel
  obtain ⟨api, hapi, hfiles⟩ := except_toOption_map hfiles
  obtain ⟨s, hok⟩ := except_isOk (x := ((Implementation.typeScript.job (described "zoo" "Pet") petsConfig
    .alwaysDecline).run clientProject).result) (by decide +kernel)
  obtain ⟨hpaths, -, htotal⟩ := (hproduces api hapi).all s hok
  refine ⟨s, hok, ?_, ?_⟩
  · rw [htotal, ← List.length_map (f := (·.text)), hfiles]
    rfl
  · rw [← hfiles, ← hpaths, List.map_map]
    rfl

end ApiScaffold
