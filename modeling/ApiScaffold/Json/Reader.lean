/-
Reading JSON. A stack machine runs over the tokens: `Frame` is an open list, an open object or a
member that waits for its value, and `Expect` says what may come next. At most 127 lists and objects
may be open at once.
-/
import ApiScaffold.Json.Token

namespace ApiScaffold.Json

/-- An unfinished value; what it holds so far is in reverse. -/
inductive Frame where
  | arr (done : List Json)
  | obj (done : Members)
  /-- A member whose key was read, above the object it belongs to. -/
  | member (key : String)

/-- What may come next. -/
inductive Expect where
  | value
  /-- A value, or the end of the list just opened. -/
  | firstItem
  /-- A key, or the end of the object just opened. -/
  | firstKey
  | key
  | colon
  /-- A comma, or the end of the list or object. -/
  | next
  /-- The text is complete. -/
  | complete (v : Json)

structure Reader where
  stack : List Frame
  expect : Expect

namespace Reader

/-- The greatest number of lists and objects open at once. -/
def maxDepth : Nat := 127

/-- The number of open lists and objects. -/
def depth (stack : List Frame) : Nat :=
  stack.countP fun
    | .member _ => false
    | _ => true

/-- Puts a finished value where it belongs. -/
def place (v : Json) : List Frame → Option Reader
  | [] => some ⟨[], .complete v⟩
  | .arr done :: stack => some ⟨.arr (v :: done) :: stack, .next⟩
  | .member key :: .obj done :: stack => some ⟨.obj ((key, v) :: done) :: stack, .next⟩
  | _ => none

/-- Opens a list or an object. -/
def openFrame (stack : List Frame) (f : Frame) (e : Expect) : Option Reader :=
  if depth stack < maxDepth then some ⟨f :: stack, e⟩ else none

/-- A token where a value starts. -/
def value (stack : List Frame) : Token → Option Reader
  | .atom v => place v stack
  | .str s => place (.str s) stack
  | .openBracket => openFrame stack (.arr []) .firstItem
  | .openBrace => openFrame stack (.obj []) .firstKey
  | _ => none

/-- Closes the innermost list or object. -/
def close : List Frame → Token → Option Reader
  | .arr done :: stack, .closeBracket => place (.arr done.reverse) stack
  | .obj done :: stack, .closeBrace => place (.obj done.reverse) stack
  | _, _ => none

/-- One token more. -/
def step (r : Reader) (t : Token) : Option Reader :=
  match r.expect, t with
  | .value, t => value r.stack t
  | .firstItem, .closeBracket => close r.stack t
  | .firstItem, t => value r.stack t
  | .firstKey, .closeBrace => close r.stack t
  | .firstKey, .str key => some ⟨.member key :: r.stack, .colon⟩
  | .key, .str key => some ⟨.member key :: r.stack, .colon⟩
  | .colon, .colon => some { r with expect := .value }
  | .next, .comma =>
    match r.stack with
    | .arr _ :: _ => some { r with expect := .value }
    | .obj _ :: _ => some { r with expect := .key }
    | _ => none
  | .next, t => close r.stack t
  | _, _ => none

/-- The value when the tokens end. -/
def finish (r : Reader) : Option Json :=
  match r.expect with
  | .complete v => some v
  | _ => none

end Reader

/-- The value of a text, objects with their members as written. -/
def readAsWritten (text : String) : Option Json :=
  (Token.scan text).bind fun ts => (ts.foldlM Reader.step ⟨[], .value⟩).bind Reader.finish

/-- The value of a text, objects with distinct names. -/
def read (text : String) : Option Json := (readAsWritten text).map canonical

end ApiScaffold.Json
