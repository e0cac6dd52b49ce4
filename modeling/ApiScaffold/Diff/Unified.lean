/-
Differences as text: hunks of changed lines with three equal lines around them, each under a header
with its place in both texts.
-/
import ApiScaffold.Diff.Slide

namespace ApiScaffold.Diff

/-- The lines of a text with their ends: a line feed, a carriage return or both. -/
def linesFrom (current : List Char) : List Char → List String
  | [] => if current.isEmpty then [] else [String.ofList current.reverse]
  | '\r' :: '\n' :: cs => String.ofList ('\n' :: '\r' :: current).reverse :: linesFrom [] cs
  | c :: cs =>
    if c == '\n' || c == '\r' then String.ofList (c :: current).reverse :: linesFrom [] cs
    else linesFrom (c :: current) cs

def lines (text : String) : Lines := (linesFrom [] text.toList).toArray

/-- The equal lines shown on each side of a change. -/
def context : Nat := 3

/-- Shortens equal lines at the start to those shown. -/
def trimStart : List Edit → List Edit
  | .keep old new len :: es =>
    let cut := len - context
    .keep (old + cut) (new + cut) (len - cut) :: es
  | es => es

/-- Shortens equal lines at the end to those shown. -/
def trimEnd : List Edit → List Edit
  | [] => []
  | [.keep old new len] => [.keep old new (len - (len - context))]
  | e :: es => e :: trimEnd es

/-- Splits edits where many equal lines stand between changes; `pending` is the hunk so far, last edit
first. -/
def hunksFrom (pending : List Edit) : List Edit → List (List Edit)
  | [] => match pending with
    | [] => []
    | [.keep ..] => []
    | es => [es.reverse]
  | .keep old new len :: es =>
    if len > 2 * context then
      let cut := len - context
      (Edit.keep old new context :: pending).reverse ::
        hunksFrom [.keep (old + cut) (new + cut) (len - cut)] es
    else hunksFrom (.keep old new len :: pending) es
  | e :: es => hunksFrom (e :: pending) es

def hunks (es : List Edit) : List (List Edit) := hunksFrom [] (trimEnd (trimStart es))

/-- The place of a hunk: its first line, counted from 1, and how many lines if not one. -/
def placeText (lo hi : Nat) : String :=
  if hi - lo == 1 then toString (lo + 1)
  else if hi - lo == 0 then s!"{lo},0"
  else s!"{lo + 1},{hi - lo}"

/-- Lines behind a mark; a line without an end is followed by a remark. -/
def marked (mark : String) (text : Lines) (s : Span) : String :=
  String.join ((text.extract s.lo s.hi).toList.map fun line =>
    let ended := line.toList.getLast?.any fun c => c == '\n' || c == '\r'
    mark ++ line ++ (if ended then "" else "\n\\ No newline at end of file\n"))

def editText (old new : Lines) (e : Edit) : String :=
  match e with
  | .keep .. => marked " " old e.oldSpan
  | .delete .. => marked "-" old e.oldSpan
  | .insert .. => marked "+" new e.newSpan
  | .replace .. => marked "-" old e.oldSpan ++ marked "+" new e.newSpan

def hunkText (old new : Lines) (es : List Edit) : String :=
  match es.head?, es.getLast? with
  | some first, some last =>
    "@@ -" ++ placeText first.oldSpan.lo last.oldSpan.hi ++ " +" ++
      placeText first.newSpan.lo last.newSpan.hi ++ " @@\n" ++ String.join (es.map (editText old new))
  | _, _ => ""

/-- The differences between two texts under their names; equal texts have none. -/
def unified (oldName newName old new : String) : String :=
  let old := lines old
  let new := lines new
  match hunks (edits old new) with
  | [] => ""
  | hs => "--- " ++ oldName ++ "\n+++ " ++ newName ++ "\n" ++ String.join (hs.map (hunkText old new))

end ApiScaffold.Diff
