/-
JSON values. The members of an object are a list in the order in which they were written; looking a
key up takes the first member of that name, and `Json.canonical` makes the names distinct, each at
its first place with its last value.
-/
import ApiScaffold.Number

namespace ApiScaffold

inductive Json where
  | null
  | bool (b : Bool)
  | num (n : Number)
  | str (s : String)
  | arr (items : List Json)
  | obj (members : List (String × Json))
  deriving Repr, Inhabited

/-- Named values in the order in which they were written. -/
abbrev Members := List (String × Json)

namespace Members

/-- The value of a key. -/
def get? (ms : List (String × α)) (key : String) : Option α := ms.lookup key

/-- Whether a key is present. -/
def has (ms : List (String × α)) (key : String) : Bool := (get? ms key).isSome

/-- Gives a key a value: in place when the key is present, else at the end. -/
def insert (ms : List (String × α)) (key : String) (v : α) : List (String × α) :=
  if has ms key then ms.map fun m => if m.1 == key then (key, v) else m
  else ms ++ [(key, v)]

/-- Distinct names: each at its first place with its last value. -/
def distinct (ms : List (String × α)) : List (String × α) :=
  ms.foldl (fun acc m => insert acc m.1 m.2) []

end Members

namespace Json

/-- The value of a member, of an object only. -/
def get? (key : String) : Json → Option Json
  | .obj ms => Members.get? ms key
  | _ => none

def str? : Json → Option String
  | .str s => some s
  | _ => none

def bool? : Json → Option Bool
  | .bool b => some b
  | _ => none

def arr? : Json → Option (List Json)
  | .arr xs => some xs
  | _ => none

def obj? : Json → Option Members
  | .obj ms => some ms
  | _ => none

def isObj (j : Json) : Bool := j.obj?.isSome

/-- A member that is a string. -/
def getStr? (key : String) (j : Json) : Option String := (j.get? key).bind str?

/-- A member that is a list. -/
def getArr? (key : String) (j : Json) : Option (List Json) := (j.get? key).bind arr?

/-- A member that is an object. -/
def getObj? (key : String) (j : Json) : Option Members := (j.get? key).bind obj?

/-- An optional value, absence shown as `null`. -/
def ofOption (f : α → Json) : Option α → Json
  | some a => f a
  | none => .null

mutual

/-- Every object with distinct names: each at its first place with its last value. -/
def canonical : Json → Json
  | .arr xs => .arr (canonicalItems xs)
  | .obj ms => .obj (Members.distinct (canonicalMembers ms))
  | j => j

def canonicalItems : List Json → List Json
  | [] => []
  | x :: xs => canonical x :: canonicalItems xs

def canonicalMembers : Members → Members
  | [] => []
  | (k, v) :: ms => (k, canonical v) :: canonicalMembers ms

end

mutual

/-- Structural equality, numbers compared as written. -/
def beq : Json → Json → Bool
  | .null, .null => true
  | .bool a, .bool b => a == b
  | .num a, .num b => a == b
  | .str a, .str b => a == b
  | .arr xs, .arr ys => beqItems xs ys
  | .obj xs, .obj ys => beqMembers xs ys
  | _, _ => false

def beqItems : List Json → List Json → Bool
  | [], [] => true
  | x :: xs, y :: ys => beq x y && beqItems xs ys
  | _, _ => false

def beqMembers : Members → Members → Bool
  | [], [] => true
  | (k, x) :: xs, (l, y) :: ys => k == l && beq x y && beqMembers xs ys
  | _, _ => false

end

instance : BEq Json := ⟨beq⟩

end Json

end ApiScaffold
