/-
Double precision numbers as exact values: a sign, a significand below `2 ^ 53` and a power of two.
Reading a decimal rounds to the nearest such value, a tie going to the even significand; a value
beyond the largest one has no result. All arithmetic is on natural numbers, so every reading can be
computed in a proof.
-/
namespace ApiScaffold

/-- A finite double `± significand * 2 ^ exponent`. Values made by `Binary64.ofRatio` have
`significand < 2 ^ 53`, `-1074 ≤ exponent ≤ 971`, and a significand below `2 ^ 52` only at the least
exponent. -/
structure Binary64 where
  negative : Bool
  significand : Nat
  exponent : Int
  deriving DecidableEq, Repr, Inhabited

namespace Binary64

/-- The least exponent of a double. -/
def minExponent : Int := -1074

/-- The greatest exponent of a double. -/
def maxExponent : Int := 971

/-- Zero with a sign. -/
def zero (negative : Bool) : Binary64 := ⟨negative, 0, minExponent⟩

/-- `num / (den * 2 ^ e)` rounded to the nearest natural number, ties to even. -/
def roundScaled (num den : Nat) (e : Int) : Nat :=
  let n := if e < 0 then num * Nat.pow 2 (-e).toNat else num
  let d := if e < 0 then den else den * Nat.pow 2 e.toNat
  let q := n / d
  let r := n % d
  if 2 * r > d || (2 * r == d && q % 2 == 1) then q + 1 else q

/-- The power of two at which `num / den` has 53 binary digits, or the least exponent. -/
def exponentOf (num den : Nat) : Int :=
  let guess : Int := (num.log2 : Int) - den.log2 - 52
  let n := if guess < 0 then num * Nat.pow 2 (-guess).toNat else num
  let d := if guess < 0 then den else den * Nat.pow 2 guess.toNat
  let e := if n < d * Nat.pow 2 52 then guess - 1 else guess
  max e minExponent

/-- The double nearest to `± num / den`, if that is not beyond the largest double. -/
def ofRatio (negative : Bool) (num den : Nat) : Option Binary64 :=
  if num = 0 then some (zero negative)
  else
    let e := exponentOf num den
    let m := roundScaled num den e
    let (m, e) := if m = Nat.pow 2 53 then (Nat.pow 2 52, e + 1) else (m, e)
    if e > maxExponent then none else some ⟨negative, m, e⟩

/-- The magnitude as a numerator and a denominator. -/
def ratio (x : Binary64) : Nat × Nat :=
  if x.exponent < 0 then (x.significand, Nat.pow 2 (-x.exponent).toNat)
  else (x.significand * Nat.pow 2 x.exponent.toNat, 1)

/-- Rounded product. -/
def mul (x y : Binary64) : Option Binary64 :=
  ofRatio (x.negative != y.negative) (x.ratio.1 * y.ratio.1) (x.ratio.2 * y.ratio.2)

/-- Rounded quotient; the divisor is not zero. -/
def div (x y : Binary64) : Option Binary64 :=
  ofRatio (x.negative != y.negative) (x.ratio.1 * y.ratio.2) (x.ratio.2 * y.ratio.1)

/-- The nearest double to a natural number. -/
def ofNat (n : Nat) : Option Binary64 := ofRatio false n 1

/-- The double nearest to `± digits * 10 ^ power`. Powers far outside the range of a double are
answered without computing them. -/
def ofDecimal (negative : Bool) (digits : Nat) (power : Int) : Option Binary64 :=
  if digits = 0 then some (zero negative)
  else
    let size : Int := (Nat.toDigits 10 digits).length
    if size + power > 400 then none
    else if size + power < -400 then some (zero negative)
    else if power < 0 then ofRatio negative digits (Nat.pow 10 (-power).toNat)
    else ofRatio negative (digits * Nat.pow 10 power.toNat) 1

/-- Divides by `10 ^ 308` until the power is a tabulated one, then once more. -/
def scaleDown : Nat → Binary64 → Nat → Option Binary64
  | 0, x, _ => some x
  | steps + 1, x, power =>
    if power ≤ 308 then (ofDecimal false 1 power).bind x.div
    else if x.significand = 0 then some x
    else ((ofDecimal false 1 308).bind x.div).bind fun y => scaleDown steps y (power - 308)

/-- A decimal read in two roundings: the digits become a double, which is then scaled by the nearest
double to the power of ten. Exact for up to 15 digits and small powers; a result beyond the largest
double has no value. -/
def scaled (negative : Bool) (digits : Nat) (power : Int) : Option Binary64 :=
  (ofNat digits).bind fun x =>
    let y := if power < 0 then scaleDown ((-power).toNat / 308 + 2) x (-power).toNat
      else if x.significand = 0 then some x
      else if power > 308 then none
      else (ofDecimal false 1 power).bind x.mul
    y.map fun y => { y with negative := negative }

/-- Zero of either sign. -/
def isZero (x : Binary64) : Bool := x.significand == 0

/-- The order of the magnitudes. -/
def compareMagnitude (x y : Binary64) : Ordering :=
  compare (x.ratio.1 * y.ratio.2) (y.ratio.1 * x.ratio.2)

/-- The numerical order; both zeros are equal. -/
def compareValue (x y : Binary64) : Ordering :=
  if x.isZero && y.isZero then .eq
  else match x.negative, y.negative with
    | true, false => .lt
    | false, true => .gt
    | false, false => x.compareMagnitude y
    | true, true => y.compareMagnitude x

/-- The integer that a double is equal to, if there is one. -/
def toInt? (x : Binary64) : Option Int :=
  if x.ratio.1 % x.ratio.2 = 0 then
    let n : Int := x.ratio.1 / x.ratio.2
    some (if x.negative then -n else n)
  else none

end Binary64

end ApiScaffold
