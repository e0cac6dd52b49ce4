/-
Sets of characters, as bracket expressions and class escapes denote them.
-/
import ApiScaffold.Text.Case

namespace ApiScaffold

inductive CharSet where
  | empty
  /-- The characters between two code points, both included. -/
  | range (lo hi : Nat)
  | word
  | digit
  | blank
  | alphabetic
  | upper
  | lower
  | category (k : Text.Category)
  | union (a b : CharSet)
  | inter (a b : CharSet)
  | compl (a : CharSet)
  /-- The characters that differ at most in case from one in the set. -/
  | foldCase (a : CharSet)
  deriving Repr, Inhabited

namespace CharSet

def single (c : Char) : CharSet := .range c.toNat c.toNat

def ascii : CharSet := .range 0 0x7F

def all : CharSet := .compl .empty

def diff (a b : CharSet) : CharSet := .inter a (.compl b)

def symmDiff (a b : CharSet) : CharSet := .union (a.diff b) (b.diff a)

def contains : CharSet → Char → Bool
  | .empty, _ => false
  | .range lo hi, c => lo ≤ c.toNat && c.toNat ≤ hi
  | .word, c => Text.isWordChar c
  | .digit, c => Text.isDecimalDigit c
  | .blank, c => Text.isBlank c
  | .alphabetic, c => Text.isAlphabetic c
  | .upper, c => Text.isUppercase c
  | .lower, c => Text.isLowercase c
  | .category k, c => k.contains c
  | .union a b, c => a.contains c || b.contains c
  | .inter a b, c => a.contains c && b.contains c
  | .compl a, c => !a.contains c
  | .foldCase a, c => (Text.caseVariants c).any a.contains

end CharSet

end ApiScaffold
