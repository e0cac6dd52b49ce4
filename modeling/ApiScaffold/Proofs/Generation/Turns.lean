/-
What a run of stages amounts to: a list of turns, each one step with the cursors it sees. The list is known
before the run begins, from the stages and from the names of the schemas and tags; `runAll_follows` says that
stages do nothing but take these turns, up to the first that fails.
-/
import ApiScaffold.Proofs.Generation.Task
import ApiScaffold.Stage

namespace ApiScaffold

variable {ν : Type}

/-- A step with the cursors that it is to see. -/
structure Turn (ν : Type) where
  schema : Option String
  tag : Option String
  step : Step ν

/-- The state of a run with its cursors set anew. -/
def Generation.withCursors (g : Generation ν) (schema tag : Option String) : Generation ν :=
  { g with context := { g.context with currentSchema := schema, currentTag := tag } }

theorem Generation.withCursors_self (g : Generation ν) :
    g.withCursors g.context.currentSchema g.context.currentTag = g := rfl

/-- Takes turns one after the other, up to the first that fails; the cursors are unset when all have succeeded. -/
def takeTurns : List (Turn ν) → Generation ν → Except GenerateError Unit × Generation ν
  | [], g => (.ok (), g.withCursors none none)
  | t :: ts, g =>
    match GenerationM.exec t.step (g.withCursors t.schema t.tag) with
    | (.ok (), g) => takeTurns ts g
    | (.error e, g) => (.error e, g)

/-- The turns of a stage: its steps without a cursor, or all of them for each schema or each tag. -/
def Stage.turns (s : Stage ν) (schemaNames tags : List String) : List (Turn ν) :=
  match s.granularity with
  | .once => s.steps.map (⟨none, none, ·⟩)
  | .perSchema => schemaNames.flatMap fun name => s.steps.map (⟨some name, none, ·⟩)
  | .perTag => tags.flatMap fun name => s.steps.map (⟨none, some name, ·⟩)

/-- The turns of stages from a context on, one stage after the other. -/
def Stage.allTurns (stages : List (Stage ν)) (c : Context) : List (Turn ν) :=
  stages.flatMap (·.turns c.schemaNames c.tags)

/-! ## Turns -/

/-- Every turn sets both cursors, so those from before do not matter. -/
theorem takeTurns_withCursors (ts : List (Turn ν)) (g : Generation ν) (schema tag : Option String) :
    takeTurns ts (g.withCursors schema tag) = takeTurns ts g := by
  cases ts <;> rfl

theorem takeTurns_append :
    ∀ (ts us : List (Turn ν)) (g : Generation ν), takeTurns (ts ++ us) g = match takeTurns ts g with
      | (.ok (), g) => takeTurns us g
      | (.error e, g) => (.error e, g)
  | [], us, g => (takeTurns_withCursors us g none none).symm
  | t :: ts, us, g => by
    simp only [List.cons_append, takeTurns]
    rcases GenerationM.exec t.step (g.withCursors t.schema t.tag) with ⟨e | ⟨⟩, g'⟩
    · rfl
    · exact takeTurns_append ts us g'

/-- Turns fail with the error of a first turn that fails, which leaves the state as it is in the end. -/
theorem takeTurns_error_iff {ts : List (Turn ν)} {g h : Generation ν} {e : GenerateError} :
    takeTurns ts g = (.error e, h) ↔ ∃ done t rest k, ts = done ++ t :: rest ∧ takeTurns done g = (.ok (), k) ∧
      GenerationM.exec t.step (k.withCursors t.schema t.tag) = (.error e, h) := by
  constructor
  · intro hts
    induction ts generalizing g with
    | nil => cases hts
    | cons t ts ih =>
      unfold takeTurns at hts
      rcases ht : GenerationM.exec t.step (g.withCursors t.schema t.tag) with ⟨e' | ⟨⟩, g'⟩ <;> rw [ht] at hts
      · -- this turn is the first that fails; the cursors that the turns before it leave do not matter
        cases hts
        exact ⟨[], t, ts, g.withCursors none none, rfl, rfl, ht⟩
      · obtain ⟨done, u, rest, k, rfl, hdone, hu⟩ := ih hts
        refine ⟨t :: done, u, rest, k, rfl, ?_, hu⟩
        unfold takeTurns
        rw [ht]
        exact hdone
  · rintro ⟨done, t, rest, k, rfl, hdone, ht⟩
    rw [takeTurns_append, hdone]
    simp only [takeTurns]
    rw [ht]

theorem takeTurns_ok {h : Generation ν} :
    ∀ {ts : List (Turn ν)} {g : Generation ν}, takeTurns ts g = (.ok (), h) →
      h.context.currentSchema = none ∧ h.context.currentTag = none
  | [], g, hts => by cases hts; exact ⟨rfl, rfl⟩
  | t :: ts, g, hts => by
    unfold takeTurns at hts
    rcases ht : GenerationM.exec t.step (g.withCursors t.schema t.tag) with ⟨e' | ⟨⟩, g'⟩ <;> rw [ht] at hts
    · cases hts
    · exact takeTurns_ok hts

/-- No turn of a stage has both cursors set. -/
theorem Stage.turns_apart (s : Stage ν) (schemaNames tags : List String) :
    ∀ t ∈ s.turns schemaNames tags, t.schema = none ∨ t.tag = none := by
  intro t ht
  unfold Stage.turns at ht
  cases hg : s.granularity with
  | once =>
    rw [hg] at ht
    obtain ⟨step, -, rfl⟩ := List.mem_map.1 ht
    exact .inl rfl
  | perSchema =>
    rw [hg] at ht
    obtain ⟨name, -, hname⟩ := List.mem_flatMap.1 ht
    obtain ⟨step, -, rfl⟩ := List.mem_map.1 hname
    exact .inr rfl
  | perTag =>
    rw [hg] at ht
    obtain ⟨name, -, hname⟩ := List.mem_flatMap.1 ht
    obtain ⟨step, -, rfl⟩ := List.mem_map.1 hname
    exact .inl rfl

/-! ## Computations that take turns -/

/-- What the rounds of stages are made from: the cursors, and the names that they are set to. -/
structure Bearings where
  schema : Option String
  tag : Option String
  schemaNames : List String
  tags : List String

def Context.bearings (c : Context) : Bearings := ⟨c.currentSchema, c.currentTag, c.schemaNames, c.tags⟩

/-- A step that leaves the cursors, the names of the schemas and the tags alone where it succeeds. -/
def Quiet (step : Step ν) : Prop :=
  ∀ g h : Generation ν, GenerationM.exec step g = (.ok (), h) → h.context.bearings = g.context.bearings

/-- From some bearings on, a computation does what taking turns does, but for where it leaves the cursors; when
it succeeds it leaves other bearings. -/
def Follows (m : GenerationM ν Unit) (b : Bearings) (ts : List (Turn ν)) (b' : Bearings) : Prop :=
  ∀ g : Generation ν, g.context.bearings = b →
    match GenerationM.exec m g with
    | (.ok (), h) => takeTurns ts g = (.ok (), h.withCursors none none) ∧ h.context.bearings = b'
    | (.error e, h) => takeTurns ts g = (.error e, h)

theorem Follows.done (b : Bearings) : Follows (pure () : GenerationM ν Unit) b [] b := fun _ hg => ⟨rfl, hg⟩

theorem Follows.bind {m m' : GenerationM ν Unit} {b b' b'' : Bearings} {ts us : List (Turn ν)}
    (hm : Follows m b ts b') (hm' : Follows m' b' us b'') : Follows (m >>= fun _ => m') b (ts ++ us) b'' := by
  intro g hg
  have h := hm g hg
  rw [exec_bind, takeTurns_append]
  rcases hk : GenerationM.exec m g with ⟨e | ⟨⟩, k⟩ <;> rw [hk] at h
  · simp only [h]
  · simp only [h.1, takeTurns_withCursors]
    exact hm' k h.2

theorem follows_setSchema (b : Bearings) (name : Option String) :
    Follows (Generation.setSchema name : GenerationM ν Unit) b [] { b with schema := name } := by
  rintro g rfl
  exact ⟨rfl, rfl⟩

theorem follows_setTag (b : Bearings) (name : Option String) :
    Follows (Generation.setTag name : GenerationM ν Unit) b [] { b with tag := name } := by
  rintro g rfl
  exact ⟨rfl, rfl⟩

/-- A step that leaves the bearings alone is one turn, with the cursors that it finds. -/
theorem Quiet.follows {step : Step ν} (quiet : Quiet step) (b : Bearings) :
    Follows step b [⟨b.schema, b.tag, step⟩] b := by
  rintro g rfl
  have hturn : takeTurns [⟨g.context.bearings.schema, g.context.bearings.tag, step⟩] g =
      match GenerationM.exec step g with
      | (.ok (), h) => (.ok (), h.withCursors none none)
      | (.error e, h) => (.error e, h) := rfl
  rw [hturn]
  rcases hstep : GenerationM.exec step g with ⟨e | ⟨⟩, h⟩ <;> simp only
  exact ⟨trivial, quiet g h hstep⟩

theorem takeAll_follows (b : Bearings) :
    ∀ steps : List (Step ν), (∀ step ∈ steps, Quiet step) →
      Follows (Stage.takeAll steps) b (steps.map (⟨b.schema, b.tag, ·⟩)) b
  | [], _ => .done b
  | _ :: steps, quiet =>
    have ⟨hstep, hsteps⟩ := List.forall_mem_cons.1 quiet
    (hstep.follows b).bind (takeAll_follows b steps hsteps)

/-- Rounds for some names, from whatever bearings the cursor to be set has; it is unset after them. -/
theorem rounds_follow {set : Option String → GenerationM ν Unit} (facing : Option String → Bearings)
    (hset : ∀ x y, Follows (set y) (facing x) [] (facing y)) {steps : List (Step ν)}
    (quiet : ∀ step ∈ steps, Quiet step) :
    ∀ (names : List String) (x : Option String),
      Follows ((names.forM fun name => do
          set (some name)
          Stage.takeAll steps) >>= fun _ => set none) (facing x)
        (names.flatMap fun name => steps.map (⟨(facing (some name)).schema, (facing (some name)).tag, ·⟩)) (facing none)
  | [], x => (Follows.done (facing x)).bind (hset x none)
  | name :: names, x => by
    simp only [List.forM_eq_forM, List.forM_cons, List.flatMap_cons, bind_assoc]
    have ih := rounds_follow facing hset quiet names (some name)
    exact (hset x (some name)).bind ((takeAll_follows _ steps quiet).bind ih)

variable {schemaNames tags : List String}

/-- A stage takes its turns; it finds the cursors unset and leaves them so. -/
theorem Stage.run_follows (s : Stage ν) (quiet : ∀ step ∈ s.steps, Quiet step) :
    Follows s.run ⟨none, none, schemaNames, tags⟩ (s.turns schemaNames tags) ⟨none, none, schemaNames, tags⟩ := by
  rcases s with ⟨granularity, steps⟩
  cases granularity with
  | once => exact takeAll_follows _ steps quiet
  | perSchema =>
    intro g hg
    have hnames : g.context.schemaNames = schemaNames := congrArg Bearings.schemaNames hg
    unfold Stage.run
    simp only
    rw [exec_get_bind, hnames]
    exact rounds_follow (fun x => ⟨x, none, schemaNames, tags⟩)
      (fun _ y => follows_setSchema _ y) quiet schemaNames none g hg
  | perTag =>
    intro g hg
    have hnames : g.context.tags = tags := congrArg Bearings.tags hg
    unfold Stage.run
    simp only
    rw [exec_get_bind, hnames]
    exact rounds_follow (fun x => ⟨none, x, schemaNames, tags⟩)
      (fun _ y => follows_setTag _ y) quiet tags none g hg

/-- Stages take their turns, one stage after the other. -/
theorem Stage.runAll_follows :
    ∀ stages : List (Stage ν), (∀ s ∈ stages, ∀ step ∈ s.steps, Quiet step) →
      Follows (Stage.runAll stages) ⟨none, none, schemaNames, tags⟩ (stages.flatMap (·.turns schemaNames tags))
        ⟨none, none, schemaNames, tags⟩
  | [], _ => .done _
  | s :: stages, quiet =>
    have ⟨hs, hstages⟩ := List.forall_mem_cons.1 quiet
    (s.run_follows hs).bind (Stage.runAll_follows stages hstages)

/-! ## Runs of stages -/

theorem Stage.allTurns_apart (stages : List (Stage ν)) (c : Context) :
    ∀ t ∈ Stage.allTurns stages c, t.schema = none ∨ t.tag = none := by
  intro t ht
  obtain ⟨s, -, hs⟩ := List.mem_flatMap.1 ht
  exact s.turns_apart c.schemaNames c.tags t hs

theorem Stage.runAll_eq {stages : List (Stage ν)} {g : Generation ν}
    (quiet : ∀ s ∈ stages, ∀ step ∈ s.steps, Quiet step)
    (noSchema : g.context.currentSchema = none) (noTag : g.context.currentTag = none) :
    GenerationM.exec (Stage.runAll stages) g = takeTurns (Stage.allTurns stages g.context) g := by
  have hg : g.context.bearings = ⟨none, none, g.context.schemaNames, g.context.tags⟩ := by
    unfold Context.bearings
    rw [noSchema, noTag]
  have h := Stage.runAll_follows stages quiet g hg
  unfold Stage.allTurns
  rcases hrun : GenerationM.exec (Stage.runAll stages) g with ⟨e | ⟨⟩, k⟩ <;> rw [hrun] at h
  · exact h.symm
  · -- the run leaves the cursors unset by itself, as the end of its turns does
    have hself := k.withCursors_self
    rw [show k.context.currentSchema = none from congrArg Bearings.schema h.2,
      show k.context.currentTag = none from congrArg Bearings.tag h.2] at hself
    rw [h.1, hself]

/-- What a run of stages does from a state: it takes turns that are known before it begins. -/
structure Stage.Traced (stages : List (Stage ν)) (g : Generation ν) : Prop where
  /-- The run is the turns of its stages, whatever these do. -/
  taken : GenerationM.exec (Stage.runAll stages) g = takeTurns (Stage.allTurns stages g.context) g
  /-- The names that the turns go through are in increasing order. -/
  ordered : g.context.schemaNames.Pairwise (· < ·) ∧ g.context.tags.Pairwise (· < ·)
  /-- No turn has both cursors set. -/
  apart : ∀ t ∈ Stage.allTurns stages g.context, t.schema = none ∨ t.tag = none
  /-- The run fails with the error of the first turn that fails, and takes no other turn after that one. -/
  fails : ∀ e h, GenerationM.exec (Stage.runAll stages) g = (.error e, h) ↔
    ∃ done t rest k, Stage.allTurns stages g.context = done ++ t :: rest ∧ takeTurns done g = (.ok (), k) ∧
      GenerationM.exec t.step (k.withCursors t.schema t.tag) = (.error e, h)
  /-- When all turns succeed, the cursors are unset in the end. -/
  succeeds : ∀ h, GenerationM.exec (Stage.runAll stages) g = (.ok (), h) →
    h.context.currentSchema = none ∧ h.context.currentTag = none

/-- Stages whose steps leave the bearings alone take, from unset cursors on, the turns of one stage after those
of the other: the steps once, or all of them for each schema or each tag in increasing order, with no cursor set
but that of the stage. -/
theorem Stage.runAll_traced (stages : List (Stage ν)) (g : Generation ν)
    (quiet : ∀ s ∈ stages, ∀ step ∈ s.steps, Quiet step)
    (noSchema : g.context.currentSchema = none) (noTag : g.context.currentTag = none) : Stage.Traced stages g := by
  have taken := Stage.runAll_eq quiet noSchema noTag
  refine ⟨taken, ?_, Stage.allTurns_apart stages _, fun e h => ?_, fun h hrun => ?_⟩
  · exact ⟨List.pairwise_map.2 g.context.api.schemas.sorted, List.pairwise_map.2 g.context.api.paths.sorted⟩
  · rw [taken]
    exact takeTurns_error_iff
  · rw [taken] at hrun
    exact takeTurns_ok hrun

/-! ## A run that stops at a step without its cursor -/

/-- A step that notes down its name and the cursors it sees. -/
def noteTurn (name : String) : Step (List (String × Option String × Option String)) :=
  modify fun g => { g with notes := g.notes ++ [(name, g.context.currentSchema, g.context.currentTag)] }

/-- A step that only works where the schema cursor is set. -/
def needSchema : GenerationM ν Unit := do
  let _ ← Generation.schema

theorem noteTurn_quiet (name : String) : Quiet (noteTurn name) := by
  intro g h hrun
  cases hrun
  rfl

theorem needSchema_quiet : Quiet (needSchema : GenerationM ν Unit) := by
  intro g h hrun
  unfold needSchema Generation.schema at hrun
  rw [exec_bind, exec_get_bind] at hrun
  rcases hs : g.context.schema? with _ | s <;> rw [hs] at hrun <;> cases hrun
  rfl

/-- Two schemas and two tags, not given in their order, and no cursor set. -/
def pets : Generation (List (String × Option String × Option String)) where
  context := .start ⟨"Pets", "1", none, "/",
    (SortedMap.empty.insert "User" (.ofNode "User" .null)).insert "Pet" (.ofNode "Pet" .null),
    (SortedMap.empty.insert "users" []).insert "pets" []⟩ []
  library := .ofTable none []
  tree := .empty
  emitter := .start ⟨⟨"out/ledger.json"⟩, .empty⟩ default .alwaysDecline
  output := ⟨"out"⟩
  notes := []

def petStages : List (Stage (List (String × Option String × Option String))) :=
  [⟨.perTag, [noteTurn "tag"]⟩, ⟨.once, [noteTurn "once", noteTurn "again"]⟩,
    ⟨.perSchema, [needSchema, noteTurn "schema"]⟩, ⟨.once, [noteTurn "last", needSchema, noteTurn "never"]⟩]

theorem petStages_traced :
    (∀ s ∈ petStages, ∀ step ∈ s.steps, Quiet step) ∧
    pets.context.currentSchema = none ∧ pets.context.currentTag = none ∧ Stage.Traced petStages pets ∧
    (GenerationM.exec (Stage.runAll petStages) pets).2.notes =
      [("tag", none, some "pets"), ("tag", none, some "users"), ("once", none, none), ("again", none, none),
        ("schema", some "Pet", none), ("schema", some "User", none), ("last", none, none)] := by
  have quiet : ∀ s ∈ petStages, ∀ step ∈ s.steps, Quiet step := by
    simp [petStages, noteTurn_quiet, needSchema_quiet]
  exact ⟨quiet, rfl, rfl, Stage.runAll_traced petStages pets quiet rfl rfl, by decide +kernel⟩

end ApiScaffold
