/-
Paths of files as they are written. A path keeps its text; its parts are the names between slashes,
where empty names and single dots only count at the start.
-/
import ApiScaffold.Text.Split

namespace ApiScaffold

structure Path where
  text : String
  deriving DecidableEq, Repr, Inhabited

namespace Path

def isAbsolute (p : Path) : Bool := p.text.toList.head? == some '/'

/-- The texts between slashes, as written. -/
def segments (p : Path) : List String := Text.split '/' p.text

/-- Drops empty names and single dots from the end of reversed segments, the first segment of all
apart. -/
def trimEnd : List String → List String
  | [] => []
  | [s] => [s]
  | s :: t :: rest => if s == "" || s == "." then trimEnd (t :: rest) else s :: t :: rest

/-- The segments up to the last name, in reverse. -/
def reversed (p : Path) : List String := trimEnd p.segments.reverse

/-- Another path, taken from this one on; an absolute one replaces it. -/
def join (p : Path) (other : String) : Path :=
  if (Path.mk other).isAbsolute || p.text.isEmpty then ⟨other⟩
  else if p.text.toList.getLast? == some '/' then ⟨p.text ++ other⟩
  else ⟨p.text ++ "/" ++ other⟩

/-- The path without its last part, if it has one. -/
def parent? (p : Path) : Option Path :=
  match p.reversed with
  | [] => none
  | [s] => if s == "" then none else some ⟨""⟩
  | _ :: rest =>
    let text := "/".intercalate (trimEnd rest).reverse
    some ⟨if text.isEmpty then "/" else text⟩

/-- The last part, if it is a name. -/
def fileName? (p : Path) : Option String :=
  match p.reversed with
  | s :: rest => if s == "" || s == ".." || (s == "." && rest.isEmpty) then none else some s
  | [] => none

/-- What follows the last dot of the file name, unless the name begins with it. -/
def extension? (p : Path) : Option String :=
  p.fileName?.bind fun name =>
    match (name.toList.reverse.span (· != '.')) with
    | (ext, _ :: stem) => if stem.isEmpty then none else some (String.ofList ext.reverse)
    | _ => none

/-- The parts that count. -/
def parts (p : Path) : List String :=
  let names := (p.segments.drop 1).filter fun s => s != "" && s != "."
  match p.segments.head? with
  | some "" => if p.isAbsolute then "/" :: names else names
  | some s => s :: names
  | none => names

/-- Whether two paths have the same parts. -/
def sameAs (p q : Path) : Bool := p.parts == q.parts

end Path

end ApiScaffold
