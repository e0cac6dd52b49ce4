/-
Numbers of a document: integers that fit 64 bits, signed or unsigned, and doubles for everything
else. The two kinds are kept apart, so `1` and `1.0` are written back as they were read.
-/
import ApiScaffold.Number.Shortest

namespace ApiScaffold

inductive Number where
  | int (n : Int)
  | float (x : Binary64)
  deriving DecidableEq, Repr, Inhabited

namespace Number

/-- The integers kept as integers: those of 64 bits, signed or unsigned. -/
def fitsInt (n : Int) : Bool := -(Nat.pow 2 63 : Int) ≤ n && n < Nat.pow 2 64

/-- The numerical order. -/
def compareValue : Number → Number → Ordering
  | .int a, .int b => compare a b
  | .float x, .float y => x.compareValue y
  | .int a, .float y => (ofInt a).compareValue y
  | .float x, .int b => x.compareValue (ofInt b)
where
  /-- An integer as an exact value, however large. -/
  ofInt (a : Int) : Binary64 := ⟨a < 0, a.natAbs, 0⟩

def isZero : Number → Bool
  | .int n => n == 0
  | .float x => x.isZero

/-- The text of a number in a data file. -/
def toText : Number → String
  | .int n => toString n
  | .float x => x.toText

/-- The text of a number that never has an exponent. -/
def toPositional : Number → String
  | .int n => toString n
  | .float x => x.toPositional

end Number

end ApiScaffold
