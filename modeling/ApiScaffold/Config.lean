/-
The settings of a project: what is read, where the output goes, what is protected, and which extra
files are produced.
-/
import ApiScaffold.Emitter

namespace ApiScaffold

/-- The kinds of code that can be produced. -/
inductive Implementation where
  | flask
  | typeScript
  deriving DecidableEq, Repr, Inhabited

/-- The name of a kind, as in the settings. -/
def Implementation.id : Implementation → String
  | .flask => "flask"
  | .typeScript => "typescript"

def Implementation.ofId? (id : String) : Option Implementation :=
  [Implementation.flask, .typeScript].find? (·.id == id)

/-- How often a step of a run is taken. -/
inductive Granularity where
  | once
  | perSchema
  | perTag
  deriving DecidableEq, Repr, Inhabited

/-- The name of a granularity, as in the settings. -/
def Granularity.id : Granularity → String
  | .once => "once"
  | .perSchema => "per_schema"
  | .perTag => "per_tag"

def Granularity.ofId? (id : String) : Option Granularity :=
  [Granularity.once, .perSchema, .perTag].find? (·.id == id)

def Untracked.id : Untracked → String
  | .prompt => "prompt"
  | .overwrite => "overwrite"

def Untracked.ofId? (id : String) : Option Untracked :=
  [Untracked.prompt, .overwrite].find? (·.id == id)

/-- An extra file, or one for each schema or tag. -/
structure IteratorSpec where
  granularity : Granularity
  template : String
  /-- Below the output directory; a schema or tag in braces becomes the stem of its file. -/
  output : String
  deriving DecidableEq, Repr, Inhabited

structure Config where
  /-- The document, in YAML or JSON. -/
  spec : Path
  output : Path
  /-- A directory whose templates come before those that are built in. -/
  templates : Option Path
  implementation : Implementation
  /-- Whether files are written whatever the ledger says. -/
  overwrite : Bool
  protectedPatterns : List String
  checksumFile : Option Path
  untracked : Untracked
  /-- Settings of the kind of code that is produced. -/
  options : Members
  iterators : List IteratorSpec
  deriving Inhabited

/-- Settings given for one run; they win over those of the project. -/
structure ConfigOverrides where
  spec : Option Path
  output : Option Path
  templates : Option Path
  implementation : Option Implementation
  overwrite : Bool
  protectedPatterns : List String
  deriving Inhabited

namespace Config

/-- The name of the settings file. -/
def fileName : String := ".apigen.yaml"

def standard : Config :=
  ⟨⟨"openapi.yaml"⟩, ⟨"build"⟩, none, .flask, false, [], none, .prompt, [], []⟩

/-- The settings with those of one run over them; protected patterns are kept from both. -/
def merge (c : Config) (o : ConfigOverrides) : Config :=
  { c with
    spec := o.spec.getD c.spec
    output := o.output.getD c.output
    templates := o.templates <|> c.templates
    implementation := o.implementation.getD c.implementation
    overwrite := c.overwrite || o.overwrite
    protectedPatterns := c.protectedPatterns ++ o.protectedPatterns }

def ledgerPath (c : Config) : Path := c.checksumFile.getD (c.output.join Ledger.defaultName)

def emitOptions (c : Config) : EmitOptions :=
  ⟨c.overwrite, .ofTexts c.protectedPatterns, c.untracked⟩

/-- Whether two optional paths are both missing or the same. -/
def samePath : Option Path → Option Path → Bool
  | none, none => true
  | some p, some q => p.sameAs q
  | _, _ => false

/-- Whether the settings are the standard ones, paths compared by their parts. -/
def isStandard (c : Config) : Bool :=
  let d := standard
  c.spec.sameAs d.spec && c.output.sameAs d.output && samePath c.templates d.templates &&
    c.implementation == d.implementation && c.overwrite == d.overwrite &&
    c.protectedPatterns == d.protectedPatterns && samePath c.checksumFile d.checksumFile &&
    c.untracked == d.untracked && c.options.isEmpty && c.iterators == d.iterators

/-- The text of a settings file to begin with. -/
def initialText : String :=
  "# apigen configuration\n" ++
  "spec: openapi.yaml\n" ++
  "output: build\n" ++
  "implementation: flask     # flask | typescript\n" ++
  "# templates: templates    # searched before the built-in templates\n" ++
  "\n" ++
  "overwrite: false          # true writes every file, ignoring the checksum ledger\n" ++
  "untracked: prompt         # prompt | overwrite, for existing files the ledger does not know\n" ++
  "protected: []\n" ++
  "  # - controllers/        # substring of the output path\n" ++
  "  # - models/.*_ext\\.py$  # or a regex\n" ++
  "\n" ++
  "# checksum_file: build/.apigen-checksums.json\n" ++
  "\n" ++
  "options: \x7b\x7d\n" ++
  "  # server_name: flask_server\n" ++
  "\n" ++
  "iterators: []\n" ++
  "  # - iterator: per_schema   # once | per_schema | per_tag\n" ++
  "  #   template: schema_doc.md.j2\n" ++
  "  #   output: docs/\x7bschema\x7d.md\n"

end Config

end ApiScaffold
