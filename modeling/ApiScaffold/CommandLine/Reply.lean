/-
Carrying out command lines on a tree of files. The reply holds the tree afterwards, what is printed,
and whether it succeeded.
-/
import ApiScaffold.Api.Summary
import ApiScaffold.Backend.Choice
import ApiScaffold.CommandLine
import ApiScaffold.Generation.Run
import ApiScaffold.Json.Writer
import ApiScaffold.Report
import ApiScaffold.Yaml.Writer

namespace ApiScaffold.CommandLine

structure Reply where
  tree : FileTree
  output : String
  /-- Messages about what is done. -/
  messages : String
  ok : Bool

namespace Reply

/-- A reply that only holds output. -/
def printed (t : FileTree) (output : String) : Reply := ⟨t, output, "", true⟩

/-- A reply that only holds messages, one a line. -/
def told (t : FileTree) (ls : List String) : Reply := ⟨t, "", String.join (ls.map (· ++ "\n")), true⟩

def failed (t : FileTree) (r : Report) : Reply := ⟨t, "", r.text, false⟩

/-- A reply with messages before its own. -/
def after (ls : List String) (r : Reply) : Reply :=
  { r with messages := String.join (ls.map (· ++ "\n")) ++ r.messages }

end Reply

/-- The name and version of the program. -/
def versionLine : String := "apigen 0.3.0\n"

/-- The settings in a file, the standard ones without it. -/
def loadConfig (t : FileTree) (path : Path) : Except Report Config :=
  match Config.load? t path with
  | .ok c => .ok (c.getD .standard)
  | .error e => .error e.report

def loadDocument (t : FileTree) (path : Path) : Except Report Document :=
  (Document.load t path).mapError fun e => e.report.under s!"failed to load {path.text}"

/-- What is said of a question that nobody was there to answer. -/
def keptLine (q : Question) : String :=
  s!"  kept {q.path.text} (edited since last run, no terminal to ask)"

def generate (t : FileTree) (config : Config) (yes : Bool) : Reply :=
  match loadDocument t config.spec with
  | .error r => .failed t r
  | .ok doc =>
    let b := config.implementation.backend
    let o := Generation.run t doc b config (if yes then .alwaysAccept else .alwaysDecline)
    let head := s!"Generating {b.id} → {config.output.text}"
    let kept := if yes then [] else o.asked.map keptLine
    let reply := match o.result with
      | .ok summary =>
        let idle := if summary.changed == 0 then ["Nothing to do, output is up to date."] else []
        Reply.told o.tree (s!"  {summary.text}" :: idle)
      | .error e => .failed o.tree (e.report.under s!"generation into {config.output.text} failed")
    reply.after (head :: kept)

def validate (t : FileTree) (config : Config) (input : Option Path) : Reply :=
  match loadDocument t (input.getD config.spec) with
  | .error r => .failed t r
  | .ok doc =>
    let schemas := match doc.schemas? with
      | some ms => [s!"  Schemas: {ms.length}"]
      | none => []
    let reply := match Api.ofDocument doc config.implementation.backend.words with
      | .error e => Reply.failed t e.report
      | .ok api => .told t [s!"  Operations: {api.operations.length}", s!"  IR Schemas: {api.schemas.size}",
          s!"  Tags: {api.paths.size}", "Validation successful."]
    reply.after ([s!"Valid OpenAPI {doc.openapi} spec: {doc.title}", s!"  Version: {doc.version}",
      s!"  Paths: {doc.paths.length}"] ++ schemas)

def inspect (t : FileTree) (config : Config) (input : Option Path) (form : OverviewForm) : Reply :=
  match loadDocument t (input.getD config.spec) with
  | .error r => .failed t r
  | .ok doc =>
    match Api.ofDocument doc config.implementation.backend.words with
    | .error e => .failed t e.report
    | .ok api =>
      .printed t (match form with
        | .yaml => Yaml.write api.summary
        | .json => api.summary.pretty ++ "\n")

/-- Writes a settings file to begin with. -/
def init (t : FileTree) (config : Path) (force : Bool) : Reply :=
  if t.pathExists config && !force then
    .failed t ⟨s!"{config.text} already exists. Use --force to overwrite.", []⟩
  else match t.write config Config.initialText.toUTF8 with
    | .error cause => .failed t ⟨s!"failed to write {config.text}", [cause.message]⟩
    | .ok t => .told t [s!"Created {config.text}"]

def run (t : FileTree) (i : Invocation) : Reply :=
  let withConfig (k : Config → Reply) : Reply :=
    match loadConfig t i.config with
    | .error r => .failed t r
    | .ok c => k c
  match i.command with
  | .version => .printed t versionLine
  | .init force => init t i.config force
  | .generate overrides yes => withConfig fun c => generate t (c.merge overrides) yes
  | .validate input => withConfig fun c => validate t c input
  | .inspect input form => withConfig fun c => inspect t c input form

end ApiScaffold.CommandLine
