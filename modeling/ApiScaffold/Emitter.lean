/-
Writing output files without destroying edits. A file on disk is replaced only if the ledger says
that it still holds what was last written there, if the settings allow it, or if the prompt agrees.
What is to be done with a file is decided first, as a `Plan`, and then carried out.
-/
import ApiScaffold.Diff.Unified
import ApiScaffold.Emitter.Decision
import ApiScaffold.Emitter.Protection
import ApiScaffold.Ledger
import ApiScaffold.Text.Utf8

namespace ApiScaffold

/-- What to do with a file on disk that the ledger does not know. -/
inductive Untracked where
  | prompt
  | overwrite
  deriving DecidableEq, Repr, Inhabited

/-- Asked before a file that was changed by others is replaced. -/
structure Question where
  path : Path
  /-- From the file on disk to the new output. -/
  diff : String
  deriving DecidableEq, Repr, Inhabited

inductive Answer where
  | accept
  | decline
  | fail (reason : String)
  deriving DecidableEq, Repr, Inhabited

/-- Answers a question, given all that were asked so far, this one last. -/
abbrev Prompt := List Question → Answer

def Prompt.alwaysDecline : Prompt := fun _ => .decline

def Prompt.alwaysAccept : Prompt := fun _ => .accept

/-- Gives prepared answers one after the other, and declines when they are used up. -/
def Prompt.scripted (answers : List Answer) : Prompt :=
  fun asked => (answers[asked.length - 1]?).getD .decline

inductive EmitError where
  | io (failure : FileTree.Failure)
  | prompt (reason : String)
  | duplicateOutput (path : Path)
  deriving DecidableEq, Repr, Inhabited

def EmitError.message : EmitError → String
  | .io f => s!"I/O error on {f.path.text}: {f.cause.message}"
  | .prompt reason => s!"overwrite prompt failed: {reason}"
  | .duplicateOutput path => s!"{path.text} is produced twice in one run"

structure EmitOptions where
  /-- Whether files are replaced without looking at them. -/
  force : Bool
  protection : Protection
  untracked : Untracked
  deriving Inhabited

/-- A text that was brought to a path, and how. -/
structure Emission where
  path : Path
  text : String
  decision : Decision
  deriving DecidableEq, Repr, Inhabited

structure Emitter where
  ledger : Ledger
  options : EmitOptions
  prompt : Prompt
  /-- What was brought to its path, in order. -/
  emissions : List Emission
  /-- The ledger keys of all paths that were to be written. -/
  emitted : List String
  /-- The questions asked, in order. -/
  asked : List Question

namespace Emitter

def start (ledger : Ledger) (options : EmitOptions) (prompt : Prompt) : Emitter :=
  ⟨ledger, options, prompt, [], [], []⟩

/-- The name of a path in the ledger, with forward slashes only. -/
def ledgerKey (path : Path) : String := Text.replaceChar '\\' '/' path.text

/-- What is to be done with a file. -/
inductive Plan where
  | skip (d : Decision)
  /-- Leave the file alone but enter its digest into the ledger. -/
  | adopt
  | write (d : Decision)
  /-- Ask whether the content on disk may be replaced. -/
  | ask (current : ByteArray)

def plan (e : Emitter) (t : FileTree) (text : String) (path : Path) : Except FileTree.Failure Plan :=
  let key := ledgerKey path
  if e.options.protection.covers key then .ok (.skip .guarded)
  else if !t.pathExists path then .ok (.write .written)
  else if e.options.force then .ok (.write .overwritten)
  else match t.read path with
    | .error cause => .error ⟨path, cause⟩
    | .ok current =>
      match e.ledger.get? key with
      | none =>
        match e.options.untracked with
        | .overwrite => .ok (.write .overwritten)
        | .prompt => if current.data = text.toUTF8.data then .ok .adopt else .ok (.ask current)
      | some old =>
        if Digest.ofText text = old then .ok (.skip .unchanged)
        else if Digest.ofBytes current = old then .ok (.write .overwritten)
        else .ok (.ask current)

/-- Enters what was written to a path into the ledger. -/
def record (e : Emitter) (text : String) (path : Path) : Emitter :=
  { e with ledger := e.ledger.insert (ledgerKey path) (Digest.ofText text) }

def write (e : Emitter) (t : FileTree) (text : String) (path : Path) (d : Decision) :
    Emitter × FileTree × Except EmitError Decision :=
  match t.writeDeep path text.toUTF8 with
  | (t, .ok ()) => (e.record text path, t, .ok d)
  | (t, .error f) => (e, t, .error (.io f))

/-- The question whether a file may be replaced. -/
def question (text : String) (path : Path) (current : ByteArray) : Question :=
  let key := ledgerKey path
  ⟨path, Diff.unified (key ++ " (current)") (key ++ " (generated)") (Text.decodeLossy current) text⟩

def carryOut (e : Emitter) (t : FileTree) (text : String) (path : Path) :
    Plan → Emitter × FileTree × Except EmitError Decision
  | .skip d => (e, t, .ok d)
  | .adopt => (e.record text path, t, .ok .unchanged)
  | .write d => e.write t text path d
  | .ask current =>
    let e := { e with asked := e.asked ++ [question text path current] }
    match e.prompt e.asked with
    | .accept => e.write t text path .overwritten
    | .decline => (e, t, .ok .declined)
    | .fail reason => (e, t, .error (.prompt reason))

/-- Brings a text to a path, once in a run. -/
def emit (e : Emitter) (t : FileTree) (text : String) (path : Path) :
    Emitter × FileTree × Except EmitError Decision :=
  let key := ledgerKey path
  if e.emitted.contains key then (e, t, .error (.duplicateOutput path))
  else
    let e := { e with emitted := key :: e.emitted }
    match e.plan t text path with
    | .error f => (e, t, .error (.io f))
    | .ok p =>
      match e.carryOut t text path p with
      | (e, t, .ok d) => ({ e with emissions := e.emissions ++ [⟨path, text, d⟩] }, t, .ok d)
      | (e, t, .error err) => (e, t, .error err)

/-- Drops the ledger entries of paths that were not to be written in this run. -/
def prune (e : Emitter) : Emitter := { e with ledger := e.ledger.retain e.emitted.contains }

def summary (e : Emitter) : RunSummary := .ofDecisions (e.emissions.map (·.decision))

end Emitter

end ApiScaffold
