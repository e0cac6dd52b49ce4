/-
The shortest decimal that reads back as a given double: the fewest digits inside the interval of
reals that round to it, and of those the nearest. `Decimal` is a digit string with the position of
its point; `positional` and `scientific` write it out.
-/
import ApiScaffold.Number.Binary64

namespace ApiScaffold

/-- The number `0.d₁d₂… * 10 ^ point`. -/
structure Decimal where
  digits : List Char
  point : Int
  deriving DecidableEq, Repr, Inhabited

namespace Decimal

/-- The least `k` with `10 ^ k * num ≥ den`, counted from `k`. -/
def leadingZeros (num den : Nat) : Nat → Nat → Nat
  | 0, k => k
  | fuel + 1, k => if num ≥ den then k else leadingZeros (num * 10) den fuel (k + 1)

/-- The decade of a positive ratio: `10 ^ (d - 1) ≤ num / den < 10 ^ d`. -/
def decade (num den : Nat) : Int :=
  if num ≥ den then ((Nat.toDigits 10 (num / den)).length : Int)
  else 1 - (leadingZeros num den 400 0 : Int)

/-- `a / b < c / d` for positive denominators. -/
def ratioLt (a b : Nat × Nat) : Bool := a.1 * b.2 < b.1 * a.2

/-- The bounds of the reals that round to a positive double, and whether they count. -/
def bounds (x : Binary64) : (Nat × Nat) × (Nat × Nat) × Bool :=
  let scale (n : Nat) : Nat × Nat :=
    let e := x.exponent - 2
    if e < 0 then (n, Nat.pow 2 (-e).toNat) else (n * Nat.pow 2 e.toNat, 1)
  let m := x.significand
  let low := if m = Nat.pow 2 52 && x.exponent > Binary64.minExponent then 4 * m - 1 else 4 * m - 2
  (scale low, scale (4 * m + 2), m % 2 == 0)

/-- Whether the multiple `c` of `10 ^ unit` reads back as the double with these bounds. -/
def hits (b : (Nat × Nat) × (Nat × Nat) × Bool) (c : Nat) (unit : Int) : Bool :=
  let v : Nat × Nat := if unit < 0 then (c, Nat.pow 10 (-unit).toNat) else (c * Nat.pow 10 unit.toNat, 1)
  (ratioLt b.1 v && ratioLt v b.2.1) ||
    (b.2.2 && ((!ratioLt v b.1 && !ratioLt b.1 v) || (!ratioLt v b.2.1 && !ratioLt b.2.1 v)))

/-- The decimal of `count` digits that reads back, if there is one: of the two neighbours on that
grid the nearer, and of two equally near the even one. -/
def withDigits (x : Binary64) (count : Nat) : Option (Nat × Int) :=
  let (num, den) := x.ratio
  let unit := decade num den - count
  let n := if unit < 0 then num * Nat.pow 10 (-unit).toNat else num
  let d := if unit < 0 then den else den * Nat.pow 10 unit.toNat
  let c := n / d
  let r := n % d
  let b := bounds x
  let down := hits b c unit
  let up := hits b (c + 1) unit
  if down && up then
    some (if 2 * r < d || (2 * r == d && c % 2 == 0) then c else c + 1, unit)
  else if down then some (c, unit)
  else if up then some (c + 1, unit)
  else none

/-- The first digit count from `count` on whose grid holds a hit. -/
def search (x : Binary64) : Nat → Nat → Nat × Int
  | 0, _ => (x.significand, 0)
  | fuel + 1, count => (withDigits x count).getD (search x fuel (count + 1))

/-- Digits without trailing zeros. -/
def stripZeros (ds : List Char) : List Char := (ds.reverse.dropWhile (· == '0')).reverse

/-- The shortest decimal of the magnitude of a double; zero has the digit `0`. -/
def ofBinary64 (x : Binary64) : Decimal :=
  if x.isZero then ⟨['0'], 1⟩
  else
    let (c, unit) := search x 17 1
    let ds := Nat.toDigits 10 c
    ⟨stripZeros ds, unit + ds.length⟩

/-- All digits around a point, with at least one digit on each side. -/
def positional (d : Decimal) : String :=
  if d.point ≤ 0 then
    "0." ++ String.ofList (List.replicate (-d.point).toNat '0' ++ d.digits)
  else
    let p := d.point.toNat
    let whole := d.digits.take p ++ List.replicate (p - d.digits.length) '0'
    let part := d.digits.drop p
    String.ofList whole ++ "." ++ (if part.isEmpty then "0" else String.ofList part)

/-- One digit before the point and a signed power of ten. -/
def scientific (d : Decimal) : String :=
  let e := d.point - 1
  let power := if e < 0 then "e-" ++ toString (-e).toNat else "e+" ++ toString e.toNat
  match d.digits with
  | [] => "0" ++ power
  | [c] => String.ofList [c] ++ power
  | c :: rest => String.ofList (c :: '.' :: rest) ++ power

end Decimal

namespace Binary64

/-- The sign of a double in front of the text of its magnitude. -/
def signed (x : Binary64) (text : String) : String := if x.negative then "-" ++ text else text

/-- The text of a double that never has an exponent. -/
def toPositional (x : Binary64) : String := x.signed (Decimal.ofBinary64 x).positional

/-- The text of a double in a data file: positional from `1e-5` up to `1e16`, else with an
exponent. -/
def toText (x : Binary64) : String :=
  let d := Decimal.ofBinary64 x
  x.signed (if -5 < d.point && d.point ≤ 16 then d.positional else d.scientific)

end Binary64

end ApiScaffold
