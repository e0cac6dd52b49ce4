/-
Where templates come from: a directory of the user's own, and the table of those that are built in. A
template that was read once stays as it was.
-/
import ApiScaffold.FileTree
import ApiScaffold.Template.Render

namespace ApiScaffold.Template

inductive TemplateError where
  | notFound (name : String)
  /-- Malformed, or in need of something that is not there. -/
  | failed (name : String)
  deriving DecidableEq, Repr, Inhabited

def TemplateError.message : TemplateError → String
  | .notFound name => "template `" ++ name ++ "` not found in user templates or built-ins"
  | .failed name => "failed to render `" ++ name ++ "`"

structure Library where
  /-- Searched first, for the whole name and then for its last part. -/
  userDirectory : Option Path
  builtIn : List (String × String)
  /-- Templates that were read, with their sources. -/
  loaded : List (String × String)
  deriving Inhabited

namespace Library

def ofTable (userDirectory : Option Path) (builtIn : List (String × String)) : Library :=
  ⟨userDirectory, builtIn, []⟩

/-- The first of some files that exists. -/
def firstFile (t : FileTree) : List Path → Lookup
  | [] => .missing
  | p :: ps =>
    match t.readText p with
    | .ok text => .source text
    | .error .notFound => firstFile t ps
    | .error _ => .unreadable

/-- Where the user's own template of a name may be. -/
def candidates (dir : Path) (name : String) : List Path :=
  dir.join name :: ((Path.mk name).fileName?.toList.map dir.join)

def find (l : Library) (t : FileTree) (name : String) : Lookup :=
  match l.loaded.lookup name with
  | some text => .source text
  | none =>
    let own := match l.userDirectory with
      | some dir => firstFile t (candidates dir name)
      | none => .missing
    match own with
    | .missing =>
      match l.builtIn.lookup name with
      | some text => .source text
      | none => .missing
    | found => found

/-- Renders a template of the library with values for its names. -/
def render (l : Library) (t : FileTree) (name : String) (context : Frame) :
    Except TemplateError (String × Library) :=
  match l.find t name with
  | .missing => .error (.notFound name)
  | _ =>
    match Template.render (l.find t) name context with
    | some (text, used) => .ok (text, { l with loaded := used ++ l.loaded })
    | none => .error (.failed name)

end Library

end ApiScaffold.Template
