/-
Stages of a run: lists of steps that are taken once, or in a round for each schema or tag in order of
names, with the cursor of the context set to it. The cursor is unset when all rounds have succeeded.
-/
import ApiScaffold.Generation

namespace ApiScaffold

structure Stage (ν : Type) where
  granularity : Granularity
  /-- Taken one after the other in every round. -/
  steps : List (Step ν)

/-- A file that a stage produces in every round. -/
structure OutputFile where
  template : String
  /-- Below the output directory. -/
  directory : Path
  /-- The name of the file, from that of the schema or tag of the round. -/
  name : String → String

/-- A stage that only produces files. -/
structure OutputStage where
  granularity : Granularity
  files : List OutputFile

/-- What a round of a stage is about; nothing if its steps are taken once. -/
def Granularity.item {ν : Type} : Granularity → GenerationM ν String
  | .once => return ""
  | .perSchema => return (← Generation.schema).name
  | .perTag => Generation.tag

/-- The step that produces a file. -/
def OutputFile.step {ν : Type} (granularity : Granularity) (f : OutputFile) : GenerationM ν Unit := do
  let item ← granularity.item
  let _ ← Generation.emitTemplate f.template f.directory (f.name item)

def OutputStage.stage {ν : Type} (s : OutputStage) : Stage ν :=
  ⟨s.granularity, s.files.map (·.step s.granularity)⟩

namespace Stage

variable {ν : Type}

/-- Takes steps one after the other, up to the first that fails. -/
def takeAll (steps : List (Step ν)) : GenerationM ν Unit := steps.forM id

/-- Takes the steps of a stage in all its rounds. -/
def run (s : Stage ν) : GenerationM ν Unit := do
  match s.granularity with
  | .once => takeAll s.steps
  | .perSchema =>
    (← get).context.schemaNames.forM fun name => do
      Generation.setSchema (some name)
      takeAll s.steps
    Generation.setSchema none
  | .perTag =>
    (← get).context.tags.forM fun name => do
      Generation.setTag (some name)
      takeAll s.steps
    Generation.setTag none

/-- Runs stages in their order. -/
def runAll (stages : List (Stage ν)) : GenerationM ν Unit := stages.forM run

end Stage

end ApiScaffold
