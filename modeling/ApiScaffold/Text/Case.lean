/-
Character classes and case mappings. The ASCII half is computed directly and the rest looked up in
the tables, so statements about ASCII texts never meet a table.
-/
import ApiScaffold.Text.CaseTable
import ApiScaffold.Text.CategoryTable
import ApiScaffold.Text.ClassTable

namespace ApiScaffold.Text

/-- Whether a code point lies in one of the ranges. -/
def inRanges (ranges : List (Nat × Nat)) (n : Nat) : Bool := ranges.any fun r => r.1 ≤ n && n ≤ r.2

/-- Whether a code point lies in one of the stepped ranges. -/
def inSteps (ranges : List (Nat × Nat × Nat)) (n : Nat) : Bool :=
  ranges.any fun (lo, hi, step) => lo ≤ n && n ≤ hi && (n - lo) % step == 0

/-- Alphabetic, or of a numeric category. -/
def isAlphanumeric (c : Char) : Bool :=
  if c.toNat < 128 then c.isAlphanum else inRanges alphanumericRanges c.toNat

def isUppercase (c : Char) : Bool :=
  if c.toNat < 128 then c.isUpper else inSteps uppercaseRanges c.toNat

def isLowercase (c : Char) : Bool :=
  if c.toNat < 128 then c.isLower else inSteps lowercaseRanges c.toNat

def isBlank (c : Char) : Bool := inRanges blankRanges c.toNat

/-- Whether a character has a general category. -/
def Category.contains (k : Category) (c : Char) : Bool := inSteps k.runs c.toNat

/-- A decimal digit of any script. -/
def isDecimalDigit (c : Char) : Bool :=
  if c.toNat < 128 then c.isDigit else Category.decimalNumber.contains c

def isAlphabetic (c : Char) : Bool :=
  isAlphanumeric c && !isDecimalDigit c && !Category.otherNumber.contains c

/-- A letter, mark, decimal digit, connector or joiner. -/
def isWordChar (c : Char) : Bool :=
  if c.toNat < 128 then c.isAlphanum || c == '_' else inRanges wordRanges c.toNat

/-- The code point that a table moves `n` to. -/
def shift? (table : List (Nat × Nat × Nat × Int)) (n : Nat) : Option Nat :=
  (table.find? fun (lo, hi, step, _) => lo ≤ n && n ≤ hi && (n - lo) % step == 0).map
    fun (_, _, _, d) => ((n : Int) + d).toNat

/-- The full mapping of a character: by its expansion, else by its shift, else to itself. -/
def mapCase (expansions : List (Nat × List Nat)) (shifts : List (Nat × Nat × Nat × Int)) (c : Char) :
    List Char :=
  match expansions.lookup c.toNat with
  | some cs => cs.map Char.ofNat
  | none => [((shift? shifts c.toNat).map Char.ofNat).getD c]

/-- The upper case of a character. -/
def upperChar (c : Char) : List Char :=
  if c.toNat < 128 then [c.toUpper] else mapCase upperExpansions upperShifts c

/-- The lower case of a character. -/
def lowerChar (c : Char) : List Char :=
  if c.toNat < 128 then [c.toLower] else mapCase lowerExpansions lowerShifts c

/-- A character with its case forgotten, for comparing single characters. -/
def foldChar (c : Char) : Char :=
  let single (f : Char → List Char) (c : Char) : Char := match f c with
    | [d] => d
    | _ => c
  single lowerChar (single upperChar c)

/-- The characters that a table moves to a code point. -/
def unshift (table : List (Nat × Nat × Nat × Int)) (n : Nat) : List Char :=
  table.filterMap fun (lo, hi, step, d) =>
    let m := ((n : Int) - d).toNat
    if lo ≤ m && m ≤ hi && (m - lo) % step == 0 then some (Char.ofNat m) else none

/-- The characters that differ from `c` at most in case. -/
def caseVariants (c : Char) : List Char :=
  let folded := foldChar c
  let raised := match upperChar folded with
    | [d] => d
    | _ => folded
  c :: folded :: raised :: (unshift lowerShifts folded.toNat ++ unshift upperShifts raised.toNat)

/-- A text in upper case. -/
def toUpper (s : String) : String := String.ofList (s.toList.flatMap upperChar)

/-- A text in lower case, a capital sigma at the very end becoming a final sigma. -/
def lowerWord : List Char → List Char
  | [] => []
  | ['Σ'] => ['ς']
  | c :: cs => lowerChar c ++ lowerWord cs

/-- A word with its first character in upper case and the rest in lower case. -/
def capitalizeWord : List Char → List Char
  | [] => []
  | c :: cs => upperChar c ++ lowerWord cs

/-- Changes the first character only. -/
def mapFirst (f : Char → List Char) (s : String) : String :=
  match s.toList with
  | [] => ""
  | c :: cs => String.ofList (f c ++ cs)

/-- The first character in upper case, the rest as it is. -/
def capitalizeFirst (s : String) : String := mapFirst upperChar s

/-- The first character in lower case, the rest as it is. -/
def lowerFirst (s : String) : String := mapFirst lowerChar s

/-- A text without the blanks at its ends. -/
def trim (s : String) : String :=
  String.ofList ((s.toList.dropWhile isBlank).reverse.dropWhile isBlank).reverse

end ApiScaffold.Text
