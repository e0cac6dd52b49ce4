/-
The differences between two lists of lines. The search runs from both ends at once, one edit more at
a time, until the two fronts meet; the place where they meet splits the lists in two, and each half
is compared in the same way.
-/
namespace ApiScaffold.Diff

/-- A part of the comparison, with where it begins in both lists. -/
inductive Edit where
  | keep (old new len : Nat)
  | delete (old new len : Nat)
  | insert (old new len : Nat)
  | replace (old oldLen new newLen : Nat)
  deriving DecidableEq, Repr, Inhabited

/-- A stretch of a list. -/
structure Span where
  lo : Nat
  hi : Nat
  deriving DecidableEq, Repr

namespace Span

def length (s : Span) : Nat := s.hi - s.lo

end Span

abbrev Lines := Array String

/-- How many lines agree from two places on. -/
def commonStart (old new : Lines) : Nat → Nat → Nat → Nat
  | 0, _, _ => 0
  | n + 1, i, j => if old[i]? == new[j]? then commonStart old new n (i + 1) (j + 1) + 1 else 0

/-- How many lines agree before two places. -/
def commonEnd (old new : Lines) : Nat → Nat → Nat → Nat
  | 0, _, _ => 0
  | n + 1, i, j => if old[i - 1]? == new[j - 1]? then commonEnd old new n (i - 1) (j - 1) + 1 else 0

/-- How many lines two stretches have in common at their starts. -/
def commonPrefix (old new : Lines) (a b : Span) : Nat :=
  commonStart old new (min a.length b.length) a.lo b.lo

/-- How many lines two stretches have in common at their ends. -/
def commonSuffix (old new : Lines) (a b : Span) : Nat :=
  commonEnd old new (min a.length b.length) a.hi b.hi

/-! ## Where the fronts meet -/

/-- How far a front has come on each diagonal; `middle` is the index of diagonal 0. -/
structure Front where
  reach : Array Nat
  middle : Nat

namespace Front

def start (bound : Nat) : Front := ⟨Array.replicate (2 * bound + 3) 0, bound + 1⟩

def get (f : Front) (k : Int) : Nat := f.reach.getD (f.middle + k).toNat 0

def set (f : Front) (k : Int) (x : Nat) : Front := { f with reach := f.reach.setIfInBounds (f.middle + k).toNat x }

/-- Where the next edit on a diagonal begins, after `d` edits in all. -/
def advance (f : Front) (d k : Int) : Nat :=
  if k == -d || (k != d && f.get (k - 1) < f.get (k + 1)) then f.get (k + 1) else f.get (k - 1) + 1

end Front

/-- The diagonals that can be reached with `d` edits, the last first. -/
def diagonals (d : Nat) : List Int := (List.range (d + 1)).map fun (i : Nat) => (d : Int) - 2 * i

/-- The most edits on either side until the fronts meet. -/
def maxEdits (n m : Nat) : Nat := (n + m + 1) / 2 + 1

section

variable (old new : Lines) (a b : Span)

/-- Moves the forward front on by one edit, unless it meets the other. -/
def forward (back : Front) (d : Nat) (f : Front) : Except (Nat × Nat) Front :=
  let n := a.length
  let m := b.length
  let delta : Int := (n : Int) - m
  (diagonals d).foldlM (fun f k =>
    let x := f.advance d k
    let y := ((x : Int) - k).toNat
    let x' := if x < n && y < m then x + commonPrefix old new ⟨a.lo + x, a.hi⟩ ⟨b.lo + y, b.hi⟩ else x
    let f := f.set k x'
    if delta % 2 != 0 && (k - delta).natAbs + 1 ≤ d && n ≤ x' + back.get (delta - k) then
      .error (x + a.lo, y + b.lo)
    else .ok f) f

/-- Moves the backward front on by one edit, unless it meets the other. -/
def backward (front : Front) (d : Nat) (f : Front) : Except (Nat × Nat) Front :=
  let n := a.length
  let m := b.length
  let delta : Int := (n : Int) - m
  (diagonals d).foldlM (fun f k =>
    let x := f.advance d k
    let y := ((x : Int) - k).toNat
    let common := if x < n && y < m then
        commonSuffix old new ⟨a.lo, a.lo + (n - x)⟩ ⟨b.lo, b.lo + (m - y)⟩
      else 0
    let f := f.set k (x + common)
    if delta % 2 == 0 && (k - delta).natAbs ≤ d && n ≤ x + common + front.get (delta - k) then
      .error (n - (x + common) + a.lo, m - (y + common) + b.lo)
    else .ok f) f

/-- Lets both fronts advance until they meet, for at most `fuel` more edits. -/
def meet : Nat → Nat → Front → Front → Option (Nat × Nat)
  | 0, _, _, _ => none
  | fuel + 1, d, f, g =>
    match forward old new a b g d f with
    | .error p => some p
    | .ok f =>
      match backward old new a b f d g with
      | .error p => some p
      | .ok g => meet fuel (d + 1) f g

/-- A place where two stretches can be split without more edits than needed. -/
def split? : Option (Nat × Nat) :=
  let bound := maxEdits a.length b.length
  meet old new a b bound 0 (Front.start bound) (Front.start bound)

end

/-- Compares two stretches, splitting at most `fuel` times. -/
def compare (old new : Lines) : Nat → Span → Span → List Edit
  | 0, a, b => [.delete a.lo b.lo a.length, .insert a.lo b.lo b.length]
  | fuel + 1, a, b =>
    let same := commonPrefix old new a b
    let before := if same == 0 then [] else [Edit.keep a.lo b.lo same]
    let a : Span := ⟨a.lo + same, a.hi⟩
    let b : Span := ⟨b.lo + same, b.hi⟩
    let ends := commonSuffix old new a b
    let a : Span := ⟨a.lo, a.hi - ends⟩
    let b : Span := ⟨b.lo, b.hi - ends⟩
    let after := if ends == 0 then [] else [Edit.keep a.hi b.hi ends]
    let between :=
      if a.length == 0 && b.length == 0 then []
      else if b.length == 0 then [Edit.delete a.lo b.lo a.length]
      else if a.length == 0 then [Edit.insert a.lo b.lo b.length]
      else match split? old new a b with
        | some (x, y) => compare old new fuel ⟨a.lo, x⟩ ⟨b.lo, y⟩ ++ compare old new fuel ⟨x, a.hi⟩ ⟨y, b.hi⟩
        | none => [.delete a.lo b.lo a.length, .insert a.lo b.lo b.length]
    before ++ between ++ after

end ApiScaffold.Diff
