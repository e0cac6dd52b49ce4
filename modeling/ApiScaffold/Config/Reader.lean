/-
Reading settings. They come as YAML or as a JSON value; a `ConfigForm` says how the parts of either
are read, and the settings are put together from them in one way. Unknown names, names that are
given twice and parts of the wrong form are refused.
-/
import ApiScaffold.Config
import ApiScaffold.Yaml.Value

namespace ApiScaffold

inductive ConfigError where
  | unreadable (path : Path) (cause : FileError)
  | malformed (path : Path)
  | backendOptions (backend reason : String)
  deriving DecidableEq, Repr, Inhabited

def ConfigError.message : ConfigError → String
  | .unreadable path cause => s!"failed to read config {path.text}: {cause.message}"
  | .malformed path => s!"failed to parse config {path.text}"
  | .backendOptions backend reason => "invalid options for backend `" ++ backend ++ "`: " ++ reason

/-- How the parts of settings are read. -/
structure ConfigForm (ν : Type) where
  /-- The values of fields; a form without names gives them in the order of the fields. -/
  fields? : List String → ν → Option (List (String × ν))
  items? : ν → Option (List ν)
  members? : ν → Option Members
  text? : ν → Option String
  choice? : ν → Option String
  truth? : ν → Option Bool
  /-- Whether an optional value is missing. -/
  missing? : ν → Option Bool

namespace ConfigForm

/-- Settings in a JSON value. -/
def json : ConfigForm Json where
  fields?
    | names, .arr xs => if xs.length ≤ names.length then some (names.zip xs) else none
    | _, j => j.obj?
  items? := Json.arr?
  members? := Json.obj?
  text? := Json.str?
  choice?
    | .str s => some s
    | .obj [(key, .null)] => some key
    | _ => none
  truth? := Json.bool?
  missing?
    | .null => some true
    | _ => some false

open Yaml in
/-- Settings in a YAML document, without aliases. Scalars count as text whatever their form, and an
empty one is an empty list or mapping. -/
def yaml : ConfigForm Node where
  fields? _ n := entries? n
  items?
    | .sequence _ items => some items
    | n => if isBlank n then some [] else none
  members? n := do
    let ms ← (← entries? n).mapM fun (k, v) => return (k, ← v.toJson?)
    return Members.distinct ms
  text? := Node.text?
  choice?
    | .scalar text style tag? =>
      if isLocalTag tag? then
        if style == .plain && (text.isEmpty || isNullText text) then
          tag?.map fun tag => String.ofList (tag.toList.drop 1)
        else none
      else some text
    | _ => none
  truth?
    | .scalar text style tag? =>
      if style == .plain || (style == .literal && tag? == some (standardTag "bool")) then boolOfText? text
      else none
    | _ => none
  missing?
    | .void => some true
    | .scalar text .plain none => some (text.isEmpty || isNullText text)
    | .scalar text .plain (some tag) =>
      if tag == standardTag "null" then if isNullText text then some true else none else some false
    | _ => some false
where
  isBlank : Node → Bool
    | .void => true
    | .scalar text style _ => text.isEmpty && style == .plain
    | _ => false
  entries? : Node → Option (List (String × Node))
    | .mapping _ entries => entries.mapM fun (k, v) => return (← k.text?, v)
    | n => if isBlank n then some [] else none

variable {ν : Type} (f : ConfigForm ν)

/-- The fields of a value, all known and none twice. -/
def fields (names : List String) (v : ν) : Option (List (String × ν)) := do
  let fs ← f.fields? names v
  let found := fs.map (·.1)
  if found.all names.contains && found.eraseDups.length == found.length then some fs else none

def path? (v : ν) : Option Path := (f.text? v).map Path.mk

def optionalPath? (v : ν) : Option (Option Path) := do
  if ← f.missing? v then return none
  return some (← f.path? v)

def iteratorSpec? (v : ν) : Option IteratorSpec := do
  let fs ← f.fields ["iterator", "template", "output"] v
  return {
    granularity := ← Granularity.ofId? (← f.choice? (← fs.lookup "iterator"))
    template := ← f.text? (← fs.lookup "template")
    output := ← f.text? (← fs.lookup "output") }

/-- The names of the settings, in order. -/
def names : List String :=
  ["spec", "output", "templates", "implementation", "overwrite", "protected", "checksum_file", "untracked",
    "options", "iterators"]

/-- The settings in a value; those that are not given are the standard ones. -/
def config? (v : ν) : Option Config := do
  let fs ← f.fields names v
  let d := Config.standard
  let read {α : Type} (name : String) (fallback : α) (g : ν → Option α) : Option α :=
    match fs.lookup name with
    | some v => g v
    | none => some fallback
  return {
    spec := ← read "spec" d.spec f.path?
    output := ← read "output" d.output f.path?
    templates := ← read "templates" d.templates f.optionalPath?
    implementation := ← read "implementation" d.implementation fun v => do Implementation.ofId? (← f.choice? v)
    overwrite := ← read "overwrite" d.overwrite f.truth?
    protectedPatterns := ← read "protected" d.protectedPatterns fun v => do (← f.items? v).mapM f.text?
    checksumFile := ← read "checksum_file" d.checksumFile f.optionalPath?
    untracked := ← read "untracked" d.untracked fun v => do Untracked.ofId? (← f.choice? v)
    options := ← read "options" d.options f.members?
    iterators := ← read "iterators" d.iterators fun v => do (← f.items? v).mapM f.iteratorSpec? }

end ConfigForm

namespace Config

/-- The settings in a text; a blank one gives the standard settings. -/
def ofText (path : Path) (text : String) : Except ConfigError Config :=
  if text.toList.all Text.isBlank then .ok standard
  else match (Yaml.Node.read text).bind ConfigForm.yaml.config? with
    | some c => .ok c
    | none => .error (.malformed path)

/-- The settings in a file, if it exists. -/
def load? (t : FileTree) (path : Path) : Except ConfigError (Option Config) :=
  if !t.pathExists path then .ok none
  else match t.readText path with
    | .error cause => .error (.unreadable path cause)
    | .ok text => (ofText path text).map some

end Config

end ApiScaffold
