/-
Regular expressions and where they match. A pattern is matched against the rest of a text from a
place in it; `Pattern.ends` lists the places where a match may end, and a text matches if some match
begins anywhere in it.
-/
import ApiScaffold.Pattern.CharSet

namespace ApiScaffold

/-- A condition on the characters before and after a place. -/
inductive Anchor where
  | textStart
  | textEnd
  /-- The start of a line; with `crlf` a carriage return also ends one. -/
  | lineStart (crlf : Bool)
  | lineEnd (crlf : Bool)
  /-- Between a character of the set and one outside it, or at an end of the text beside one. -/
  | boundary (letters : CharSet)
  | notBoundary (letters : CharSet)
  | wordStart (letters : CharSet)
  | wordEnd (letters : CharSet)
  | wordStartHalf (letters : CharSet)
  | wordEndHalf (letters : CharSet)
  deriving Repr, Inhabited

inductive Pattern where
  | empty
  | set (s : CharSet)
  | anchor (a : Anchor)
  | seq (a b : Pattern)
  | alt (a b : Pattern)
  /-- At least `least` copies, and at most `most` if that is given. -/
  | repeated (p : Pattern) (least : Nat) (most : Option Nat)
  deriving Repr, Inhabited

/-- A place in a text: the character before it and the characters after it. -/
structure TextPlace where
  before : Option Char
  after : List Char
  deriving DecidableEq, Repr

namespace Anchor

/-- Whether the condition is met at a place. -/
def holds (a : Anchor) (p : TextPlace) : Bool :=
  let next := p.after.head?
  let isIn (s : CharSet) (c : Option Char) : Bool := c.any s.contains
  match a with
  | .textStart => p.before.isNone
  | .textEnd => next.isNone
  | .lineStart crlf =>
    p.before.isNone || p.before == some '\n' || (crlf && p.before == some '\r' && next != some '\n')
  | .lineEnd crlf =>
    next.isNone || (crlf && next == some '\r') || (next == some '\n' && !(crlf && p.before == some '\r'))
  | .boundary w => isIn w p.before != isIn w next
  | .notBoundary w => isIn w p.before == isIn w next
  | .wordStart w => !isIn w p.before && isIn w next
  | .wordEnd w => isIn w p.before && !isIn w next
  | .wordStartHalf w => !isIn w p.before
  | .wordEndHalf w => !isIn w next

end Anchor

namespace Pattern

/-- The places without repetitions. -/
def distinctPlaces (ps : List TextPlace) : List TextPlace :=
  ps.foldr (fun p acc => if acc.any (·.after.length == p.after.length) then acc else p :: acc) []

/-- The places reached by `n` steps. -/
def steps (step : TextPlace → List TextPlace) : Nat → List TextPlace → List TextPlace
  | 0, ps => ps
  | n + 1, ps => if ps.isEmpty then [] else steps step n (distinctPlaces (ps.flatMap step))

/-- The places reached by at most `n` steps, those of `seen` among them. -/
def upTo (step : TextPlace → List TextPlace) : Nat → List TextPlace → List TextPlace → List TextPlace
  | 0, _, seen => seen
  | n + 1, frontier, seen =>
    let fresh := (distinctPlaces (frontier.flatMap step)).filter fun p =>
      !seen.any (·.after.length == p.after.length)
    if fresh.isEmpty then seen else upTo step n fresh (seen ++ fresh)

/-- The places where a match that begins at a place may end. -/
def ends : Pattern → TextPlace → List TextPlace
  | .empty, p => [p]
  | .set s, p => match p.after with
    | c :: rest => if s.contains c then [⟨some c, rest⟩] else []
    | [] => []
  | .anchor a, p => if a.holds p then [p] else []
  | .seq a b, p => distinctPlaces ((a.ends p).flatMap b.ends)
  | .alt a b, p => distinctPlaces (a.ends p ++ b.ends p)
  | .repeated q least most, p =>
    let started := steps q.ends least [p]
    let more := p.after.length + 1
    upTo q.ends (match most with | some m => min (m - least) more | none => more) started started

/-- Whether a match begins at a place or further on. -/
def matchesFrom (q : Pattern) (before : Option Char) : List Char → Bool
  | [] => !(q.ends ⟨before, []⟩).isEmpty
  | c :: rest => !(q.ends ⟨before, c :: rest⟩).isEmpty || matchesFrom q (some c) rest

/-- Whether a match begins anywhere in a text. -/
def occursIn (q : Pattern) (text : String) : Bool := q.matchesFrom none text.toList

/-- How many sets and conditions a pattern has once its repetitions are written out. -/
def size : Pattern → Nat
  | .empty => 1
  | .set _ => 1
  | .anchor _ => 1
  | .seq a b => a.size + b.size
  | .alt a b => a.size + b.size
  | .repeated q least most => q.size * max 1 (most.getD (least + 1))

end Pattern

end ApiScaffold
