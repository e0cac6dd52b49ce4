/-
The state of a run, and its steps. A step may use up to everything a run has: it renders templates,
writes files through the emitter, and moves the cursors of the context. What it did stays done when it
fails.
-/
import ApiScaffold.Config.Reader
import ApiScaffold.Context
import ApiScaffold.Template.Library

namespace ApiScaffold

/-- What a round can be about. -/
inductive Cursor where
  | schema
  | tag
  deriving DecidableEq, Repr, Inhabited

def Cursor.name : Cursor → String
  | .schema => "current_schema"
  | .tag => "current_tag"

/-- Why a run failed. -/
inductive GenerateError where
  | resolve (e : ResolveError)
  | template (e : Template.TemplateError)
  | emit (e : EmitError)
  | config (e : ConfigError)
  /-- A step needs a cursor that is not set in its stage. -/
  | missingCursor (cursor : Cursor)
  deriving Inhabited

def GenerateError.message : GenerateError → String
  | .resolve e => "resolve error: " ++ e.message
  | .template e => "template error: " ++ e.message
  | .emit e => "emit error: " ++ e.message
  | .config e => "config error: " ++ e.message
  | .missingCursor c =>
    "step requires the `" ++ c.name ++ "` cursor but the current iterator does not set it"

/-- The state of a run; `ν` is what its steps note down for themselves. -/
structure Generation (ν : Type) where
  context : Context
  library : Template.Library
  tree : FileTree
  emitter : Emitter
  /-- The directory that the output goes to. -/
  output : Path
  notes : ν

/-- Computations on the state of a run. -/
abbrev GenerationM (ν α : Type) := ExceptT GenerateError (StateM (Generation ν)) α

abbrev Step (ν : Type) := GenerationM ν Unit

namespace Generation

variable {ν : Type}

/-- Renders a template for the current round. -/
def render (template : String) : GenerationM ν String := do
  let g ← get
  match g.library.render g.tree template g.context.frame with
  | .ok (text, library) =>
    set { g with library := library }
    return text
  | .error e => throw (.template e)

/-- Brings a text to a path. -/
def emit (text : String) (path : Path) : GenerationM ν Decision := do
  let g ← get
  let (emitter, tree, result) := g.emitter.emit g.tree text path
  set { g with emitter := emitter, tree := tree }
  match result with
  | .ok d => return d
  | .error e => throw (.emit e)

/-- The path of a file in a directory below the output directory. -/
def outputPath (output directory : Path) (file : String) : Path := (output.join directory.text).join file

/-- Renders a template to a file below the output directory. -/
def emitTemplate (template : String) (directory : Path) (file : String) : GenerationM ν Decision := do
  let text ← render template
  emit text (outputPath (← get).output directory file)

/-- The schema that the round is about; there has to be one. -/
def schema : GenerationM ν Schema := do
  match (← get).context.schema? with
  | some s => return s
  | none => throw (.missingCursor .schema)

/-- The tag that the round is about; there has to be one. -/
def tag : GenerationM ν String := do
  match (← get).context.currentTag with
  | some t => return t
  | none => throw (.missingCursor .tag)

def setSchema (name : Option String) : GenerationM ν Unit :=
  modify fun g => { g with context := { g.context with currentSchema := name } }

def setTag (name : Option String) : GenerationM ν Unit :=
  modify fun g => { g with context := { g.context with currentTag := name } }

end Generation

end ApiScaffold
