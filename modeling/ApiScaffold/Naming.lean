/-
Names made up by the generator: the name of an operation that declares none, and identifiers that are
safe as file or module names.
-/
import ApiScaffold.HttpMethod
import ApiScaffold.Text.Split
import ApiScaffold.Text.Words

namespace ApiScaffold.Naming

/-- A word without its plural ending: `ies` becomes `y`, the `es` after `s`, `x` or `z` and a single
`s` are dropped. -/
def singularize (word : List Char) : List Char :=
  match word.reverse with
  | 's' :: 'e' :: 'i' :: c :: rest => (('y' :: c :: rest)).reverse
  | 's' :: 'e' :: 's' :: rest => ('s' :: rest).reverse
  | 's' :: 'e' :: 'x' :: rest => ('x' :: rest).reverse
  | 's' :: 'e' :: 'z' :: rest => ('z' :: rest).reverse
  | 's' :: 's' :: _ => word
  | 's' :: c :: rest => (c :: rest).reverse
  | _ => word

/-- The runs of letters and digits with one underscore between them. -/
def sanitize (s : List Char) : List Char := List.intercalate ['_'] (Text.alphanumericPieces s)

/-- A path segment that stands for a value. -/
def isParameter (segment : List Char) : Bool :=
  segment.head? == some '\x7b' && segment.getLast? == some '\x7d'

/-- The nonempty segments of a path. -/
def segments (path : String) : List (List Char) :=
  (Text.splitChars '/' path.toList).filter fun s => !s.isEmpty

/-- Whether the last segment of a path stands for a value. -/
def endsInParameter (path : String) : Bool := ((segments path).getLast?.map isParameter).getD false

/-- The first word of a derived name. -/
def verb (method : HttpMethod) (single : Bool) : String :=
  match method with
  | .get => if single then "get" else "list"
  | .post => "create"
  | .put => "update"
  | m => m.key

/-- The last element changed by `f`. -/
def mapLast (f : α → α) : List α → List α
  | [] => []
  | [x] => [f x]
  | x :: y :: rest => x :: mapLast f (y :: rest)

/-- The name of an operation from its method and path: a verb and the fixed segments, the last one in
the singular when the path ends in a value. -/
def routeName (method : HttpMethod) (path : String) : String :=
  let single := endsInParameter path
  let fixed := (segments path).filter fun s => !isParameter s
  let fixed := if single then mapLast singularize fixed else fixed
  verb method single ++
    String.join (fixed.map fun s => Text.pascalCase (String.ofList (sanitize s)))

/-- An identifier in lower case, with an underscore in front of a digit; a text without letters and
digits becomes `unnamed`. -/
def snakeIdentifier (name : String) : String :=
  let snake := Text.snakeCase (String.ofList (sanitize name.toList))
  match snake.toList with
  | [] => "unnamed"
  | c :: _ => if c.isDigit then "_" ++ snake else snake

end ApiScaffold.Naming
