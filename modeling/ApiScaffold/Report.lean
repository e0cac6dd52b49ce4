/-
Failures as they are told: a message, and below it the causes that led to it, each with its lines
indented and numbered if there are several.
-/
import ApiScaffold.Document.Load
import ApiScaffold.Generation

namespace ApiScaffold

structure Report where
  message : String
  /-- From the outermost to the innermost. -/
  causes : List String
  deriving DecidableEq, Repr, Inhabited

namespace Report

/-- A cause with a label before its first line and blanks before the others. -/
def indented (label cause : String) : String :=
  label ++ ("\n" ++ Text.repeated label.length " ").intercalate (Text.split '\n' cause)

/-- A number at the right end of a column. -/
def numberLabel (n : Nat) : String :=
  let digits := toString n
  Text.repeated (5 - digits.length) " " ++ digits ++ ": "

def causeLines (causes : List String) : List String :=
  match causes with
  | [cause] => [indented "    " cause]
  | causes => causes.zipIdx.map fun (cause, i) => indented (numberLabel i) cause

def text (r : Report) : String :=
  let causes := if r.causes.isEmpty then [] else "" :: "Caused by:" :: causeLines r.causes
  String.join ((("Error: " ++ r.message) :: causes).map (· ++ "\n"))

/-- A report under a message that says what was attempted. -/
def under (message : String) (r : Report) : Report := ⟨message, r.message :: r.causes⟩

end Report

def ResolveError.report (e : ResolveError) : Report := ⟨e.message, []⟩

def LoadError.report (e : LoadError) : Report :=
  ⟨e.message, match e with
    | .unreadable _ cause => [cause.message]
    | _ => []⟩

def ConfigError.report (e : ConfigError) : Report :=
  ⟨e.message, match e with
    | .unreadable _ cause => [cause.message]
    | _ => []⟩

def EmitError.report (e : EmitError) : Report :=
  ⟨e.message, match e with
    | .io f => [f.cause.message]
    | _ => []⟩

def Template.TemplateError.report (e : TemplateError) : Report := ⟨e.message, []⟩

/-- A failed run tells what failed in it again as a cause. -/
def GenerateError.report (e : GenerateError) : Report :=
  match e with
  | .resolve r => r.report.under e.message
  | .template r => r.report.under e.message
  | .emit r => r.report.under e.message
  | .config r => r.report.under e.message
  | .missingCursor _ => ⟨e.message, []⟩

end ApiScaffold
