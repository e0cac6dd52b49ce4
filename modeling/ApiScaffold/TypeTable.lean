/-
The words of a target language for the types of a document. Keys are primitive types, formats and
the markers of the array container: its name `array`, its opening `<` and its closing `>`.
-/
import ApiScaffold.ResolveError
import ApiScaffold.Text.Split

namespace ApiScaffold

/-- Words by key; the first entry of a key counts. -/
structure TypeTable where
  entries : List (String × String)
  deriving DecidableEq, Repr, Inhabited

namespace TypeTable

def keys (t : TypeTable) : List String := t.entries.map (·.1)

/-- The word for a type or format. -/
def word? (t : TypeTable) (key : String) : Option String := t.entries.lookup key

/-- The word for a type that must have one. -/
def require (t : TypeTable) (key : String) (loc : Location) : Except ResolveError String :=
  match t.word? key with
  | some w => .ok w
  | none => .error (.unmappedType key loc)

/-- The start of an array type, such as `List[`. -/
def arrayOpen (t : TypeTable) (loc : Location) : Except ResolveError String := do
  let name ← t.require "array" loc
  let opening ← t.require "<" loc
  return name ++ opening

/-- The ends of `depth` array types. -/
def closers (t : TypeTable) (depth : Nat) (loc : Location) : Except ResolveError String :=
  if depth = 0 then .ok "" else (t.require ">" loc).map (Text.repeated depth)

end TypeTable

end ApiScaffold
