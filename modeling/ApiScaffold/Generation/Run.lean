/-
A whole run: a document is resolved, the stages of the backend and then those of the settings are run,
and when all have succeeded the ledger is saved, with entries for the paths of this run only.
-/
import ApiScaffold.Backend

namespace ApiScaffold

/-- The files that an entry of the settings asks for. -/
def IteratorSpec.stage (spec : IteratorSpec) (b : Backend) : OutputStage :=
  let name (item : String) : String :=
    match spec.granularity with
    | .once => spec.output
    | .perSchema => Text.replace "\x7bschema\x7d" (b.schemaStem item) spec.output
    | .perTag => Text.replace "\x7btag\x7d" (b.tagStem item) spec.output
  ⟨spec.granularity, [⟨spec.template, ⟨""⟩, name⟩]⟩

/-- What a run left behind. -/
structure Outcome where
  tree : FileTree
  /-- What was brought to its path, in order. -/
  emissions : List Emission
  /-- The questions asked, in order. -/
  asked : List Question
  result : Except GenerateError RunSummary

namespace Generation

/-- What is to be done: the context to start with, and the stages. -/
structure Plan where
  context : Context
  stages : List OutputStage

def plan (doc : Document) (b : Backend) (config : Config) : Except GenerateError Plan := do
  let api ← (Api.ofDocument doc b.words).mapError .resolve
  let context ← (b.prepare (.start api config.options)).mapError .config
  let stages ← (b.outputs config.options).mapError .config
  return ⟨context, stages ++ config.iterators.map (·.stage b)⟩

/-- The state in which the stages begin. -/
def start (t : FileTree) (b : Backend) (config : Config) (prompt : Prompt) (context : Context) :
    Generation Unit where
  context := context
  library := .ofTable config.templates b.templates
  tree := t
  emitter := .start (Ledger.load t config.ledgerPath) config.emitOptions prompt
  output := config.output
  notes := ()

/-- Keeps the ledger entries of this run and saves them. -/
def finish (g : Generation Unit) : Outcome :=
  let e := g.emitter.prune
  match e.ledger.save g.tree with
  | (t, .ok ()) => ⟨t, e.emissions, e.asked, .ok e.summary⟩
  | (t, .error f) => ⟨t, e.emissions, e.asked, .error (.emit (.io f))⟩

def run (t : FileTree) (doc : Document) (b : Backend) (config : Config) (prompt : Prompt) : Outcome :=
  match plan doc b config with
  | .error e => ⟨t, [], [], .error e⟩
  | .ok p =>
    match (Stage.runAll (p.stages.map (·.stage))).run.run (start t b config prompt p.context) with
    | (.ok (), g) => finish g
    | (.error e, g) => ⟨g.tree, g.emitter.emissions, g.emitter.asked, .error e⟩

end Generation

end ApiScaffold
