/-
The values that templates compute with: data, and the undefined value of a name that stands for
nothing. The entries of a mapping are in increasing order of their names.
-/
import ApiScaffold.Json.Basic
import ApiScaffold.SortedMap
import ApiScaffold.Text.Quoted
import ApiScaffold.Text.Split

namespace ApiScaffold.Template

inductive Value where
  | undefined
  | none
  | bool (b : Bool)
  | num (n : Number)
  | str (s : String)
  | list (items : List Value)
  | mapping (entries : List (String × Value))
  deriving Repr, Inhabited

namespace Value

/-- Puts entries in order; the last of equal names counts. -/
def sorted (entries : List (String × Value)) : Value := .mapping (SortedMap.ofList entries).entries

mutual

/-- The value of data. -/
def ofJson : Json → Value
  | .null => .none
  | .bool b => .bool b
  | .num n => .num n
  | .str s => .str s
  | .arr xs => .list (ofItems xs)
  | .obj ms => sorted (ofMembers ms)

def ofItems : List Json → List Value
  | [] => []
  | x :: xs => ofJson x :: ofItems xs

def ofMembers : Members → List (String × Value)
  | [] => []
  | (k, v) :: ms => (k, ofJson v) :: ofMembers ms

end

/-! ## Printing -/

/-- A double inside a list or mapping: with an exponent below `1e-4` and from `1e16` on. -/
def nestedDouble (x : Binary64) : String :=
  let d := Decimal.ofBinary64 x
  if x.isZero || (-4 < d.point && d.point ≤ 16) then x.toPositional
  else
    let e := d.point - 1
    let digits := match d.digits with
      | c :: rest => if rest.isEmpty then [c] else c :: '.' :: rest
      | [] => ['0']
    x.signed (String.ofList digits ++ "e" ++ toString e)

mutual

/-- A value inside a list or mapping. -/
def nested : Value → String
  | .undefined => "undefined"
  | .none => "none"
  | .bool b => if b then "true" else "false"
  | .num (.int n) => toString n
  | .num (.float x) => nestedDouble x
  | .str s => Text.quoted s
  | .list xs => "[" ++ ", ".intercalate (nestedItems xs) ++ "]"
  | .mapping es => "\x7b" ++ ", ".intercalate (nestedEntries es) ++ "\x7d"

def nestedItems : List Value → List String
  | [] => []
  | v :: vs => nested v :: nestedItems vs

def nestedEntries : List (String × Value) → List String
  | [] => []
  | (k, v) :: es => (Text.quoted k ++ ": " ++ nested v) :: nestedEntries es

end

/-- The text of a value: a string as it is, and nothing for the undefined value. -/
def print : Value → String
  | .undefined => ""
  | .str s => s
  | .num n => n.toPositional
  | v => v.nested

/-! ## Truth and comparison -/

def isTrue : Value → Bool
  | .undefined => false
  | .none => false
  | .bool b => b
  | .num n => !n.isZero
  | .str s => !s.isEmpty
  | .list xs => !xs.isEmpty
  | .mapping es => !es.isEmpty

/-- The number that a value counts as in a comparison; truth values are 0 and 1. -/
def number? : Value → Option Number
  | .bool b => some (.int (if b then 1 else 0))
  | .num n => some n
  | _ => Option.none

mutual

/-- Equality; numbers are compared by value. -/
def equal : Value → Value → Bool
  | .undefined, .undefined => true
  | .none, .none => true
  | .str a, .str b => a == b
  | .list xs, .list ys => equalItems xs ys
  | .mapping xs, .mapping ys => equalEntries xs ys
  | v, w =>
    match number? v, number? w with
    | some a, some b => a.compareValue b == .eq
    | _, _ => false

def equalItems : List Value → List Value → Bool
  | [], [] => true
  | x :: xs, y :: ys => equal x y && equalItems xs ys
  | _, _ => false

def equalEntries : List (String × Value) → List (String × Value) → Bool
  | [], [] => true
  | (k, x) :: xs, (l, y) :: ys => k == l && equal x y && equalEntries xs ys
  | _, _ => false

end

/-- The rank of a kind of value; values of different kinds are ordered by it. -/
def rank : Value → Nat
  | .undefined => 0
  | .none => 1
  | .bool _ => 2
  | .num _ => 3
  | .str _ => 4
  | .list _ => 5
  | .mapping _ => 6

mutual

/-- The order of values. -/
def order : Value → Value → Ordering
  | .str a, .str b => compareOfLessAndEq a b
  | .list xs, .list ys => orderItems xs ys
  | .mapping xs, .mapping ys => orderEntries xs ys
  | v, w =>
    if rank v != rank w then compare (rank v) (rank w)
    else match number? v, number? w with
      | some a, some b => a.compareValue b
      | _, _ => .eq

def orderItems : List Value → List Value → Ordering
  | [], [] => .eq
  | [], _ :: _ => .lt
  | _ :: _, [] => .gt
  | x :: xs, y :: ys => (order x y).then (orderItems xs ys)

def orderEntries : List (String × Value) → List (String × Value) → Ordering
  | [], [] => .eq
  | [], _ :: _ => .lt
  | _ :: _, [] => .gt
  | (k, x) :: xs, (l, y) :: ys =>
    (compareOfLessAndEq k l).then ((order x y).then (orderEntries xs ys))

end

/-! ## Parts -/

/-- The items of a value that can be walked through: characters, items, or names. -/
def items? : Value → Option (List Value)
  | .undefined => some []
  | .none => some []
  | .str s => some (s.toList.map fun c => .str (String.singleton c))
  | .list xs => some xs
  | .mapping es => some (es.map fun e => .str e.1)
  | _ => Option.none

/-- The item at an index, counted from the end if it is negative. -/
def at? (xs : List α) (i : Int) : Option α :=
  if 0 ≤ i then xs[i.toNat]?
  else if (-i).toNat ≤ xs.length then xs[xs.length - (-i).toNat]?
  else Option.none

/-- The entry of a name. The undefined value has no parts at all; where another value has no such
part, the part is undefined. -/
def attribute? (v : Value) (name : String) : Option Value :=
  match v with
  | .undefined => Option.none
  | .mapping es => some ((es.lookup name).getD .undefined)
  | _ => some .undefined

/-- The part of a value at an index or name. -/
def element? (v : Value) (key : Value) : Option Value :=
  match v, key with
  | .undefined, _ => Option.none
  | .mapping es, .str name => some ((es.lookup name).getD .undefined)
  | .list xs, .num (.int i) => some ((at? xs i).getD .undefined)
  | .str s, .num (.int i) =>
    some (((at? s.toList i).map fun c => .str (String.singleton c)).getD .undefined)
  | _, _ => some .undefined

/-- Whether a container holds a value, if it is one. -/
def contains? (container v : Value) : Option Bool :=
  match container with
  | .undefined => some false
  | .str s => some (Text.occursIn v.print s)
  | .list xs => some (xs.any fun x => x.equal v)
  | .mapping es => some (match v with
    | .str name => (es.lookup name).isSome
    | _ => false)
  | _ => Option.none

end Value

end ApiScaffold.Template
