/-
The JSON value that a YAML document stands for. A plain scalar is a null, a truth value, an integer, a
double or else a string, by its text; the standard tags ask for one of these. Mapping keys are strings
as written. Doubles that are not finite have no JSON form and become null.
-/
import ApiScaffold.Json.Basic
import ApiScaffold.Text.Split
import ApiScaffold.Yaml.Node

namespace ApiScaffold.Yaml

/-! ## Plain scalars -/

def isNullText (text : String) : Bool := ["null", "Null", "NULL", "~"].contains text

def boolOfText? (text : String) : Option Bool :=
  if ["true", "True", "TRUE"].contains text then some true
  else if ["false", "False", "FALSE"].contains text then some false
  else none

/-- The value of digits to a base. -/
def digitsValue? (base : Nat) (ds : List Char) : Option Nat :=
  if ds.isEmpty then none
  else ds.foldlM (fun n c => do
    let d ← hexValue? c
    if d < base then some (n * base + d) else none) 0

/-- Whether digits begin with a zero that is not alone; such a text is no number. -/
def isPadded (ds : List Char) : Bool := ds.length > 1 && ds.head? == some '0' && ds.all Char.isDigit

/-- A sign and what follows it. -/
def splitSign : List Char → Bool × List Char
  | '-' :: cs => (true, cs)
  | '+' :: cs => (false, cs)
  | cs => (false, cs)

/-- The integer that a text is, in base ten or with the mark of another base after its sign. -/
def integerOfText? (text : List Char) : Option Int :=
  let (negative, cs) := splitSign text
  let magnitude := match cs with
    | '0' :: 'x' :: ds => digitsValue? 16 ds
    | '0' :: 'o' :: ds => digitsValue? 8 ds
    | '0' :: 'b' :: ds => digitsValue? 2 ds
    | ds => if isPadded ds then none else digitsValue? 10 ds
  magnitude.map fun n => if negative then -(n : Int) else n

/-- The double that a text in decimal notation is, if it is finite. -/
def doubleOfText? (text : List Char) : Option Binary64 := do
  let (negative, cs) := splitSign text
  let whole := cs.takeWhile Char.isDigit
  let (part, rest) := match cs.dropWhile Char.isDigit with
    | '.' :: cs => (cs.takeWhile Char.isDigit, cs.dropWhile Char.isDigit)
    | cs => ([], cs)
  let digits ← digitsValue? 10 (whole ++ part)
  let power : Int ← match rest with
    | [] => some 0
    | c :: cs =>
      if c == 'e' || c == 'E' then
        let (negative, ds) := splitSign cs
        (digitsValue? 10 ds).map fun n => if negative then -(n : Int) else n
      else none
  Binary64.ofDecimal negative digits (power - part.length)

/-- Spellings of the doubles that are not finite. -/
def isNonFiniteText (text : String) : Bool :=
  [".inf", ".Inf", ".INF", "+.inf", "+.Inf", "+.INF", "-.inf", "-.Inf", "-.INF", ".nan", ".NaN", ".NAN"].contains text

/-- Integers up to this many bits are told apart from doubles. -/
def integerBits : Nat := 128

/-- Whether a text is taken for an integer at all. -/
def isIntegerRange (n : Int) : Bool := -(Nat.pow 2 (integerBits - 1) : Int) ≤ n && n < Nat.pow 2 integerBits

/-- An integer as a value; one of more than 64 bits has none. -/
def integerValue? (n : Int) : Option Json := if Number.fitsInt n then some (.num (.int n)) else none

def doubleValue? (text : String) : Option Json :=
  if isNonFiniteText text then some .null
  else (doubleOfText? text.toList).map fun x => .num (.float x)

/-- The value of a plain scalar without a tag. -/
def plainValue? (text : String) : Option Json :=
  if text.isEmpty || isNullText text then some .null
  else match boolOfText? text with
    | some b => some (.bool b)
    | none =>
      match (integerOfText? text.toList).filter isIntegerRange with
      | some n => integerValue? n
      | none =>
        let double? := if isPadded (splitSign text.toList).2 then none else doubleValue? text
        some (double?.getD (.str text))

/-! ## Documents -/

def standardTag (name : String) : String := "tag:yaml.org,2002:" ++ name

/-- A tag that is private to the document; no value bears one. -/
def isLocalTag (tag? : Option String) : Bool := tag?.any (Text.startsWith "!")

def scalarValue? (text : String) (style : Style) (tag? : Option String) : Option Json :=
  match tag? with
  | some tag =>
    if isLocalTag tag? then none
    else if tag == standardTag "bool" then (boolOfText? text).map .bool
    else if tag == standardTag "int" then
      ((integerOfText? text.toList).filter isIntegerRange).bind integerValue?
    else if tag == standardTag "float" then doubleValue? text
    else if tag == standardTag "null" then if isNullText text then some .null else none
    else some (.str text)
  | none => if style == .plain then plainValue? text else some (.str text)

namespace Node

/-- The text of a scalar. -/
def text? : Node → Option String
  | .scalar text _ _ => some text
  | _ => none

mutual

/-- The value of a tree without aliases, if it has one. -/
def toJson? : Node → Option Json
  | .void => some .null
  | .scalar text style tag? => scalarValue? text style tag?
  | .sequence tag? items => if isLocalTag tag? then none else (itemsJson? items).map .arr
  | .mapping tag? entries =>
    if isLocalTag tag? then none else (entriesJson? entries).map fun ms => .obj (Members.distinct ms)
  | .alias _ => none

def itemsJson? : List Node → Option (List Json)
  | [] => some []
  | n :: ns => do return (← toJson? n) :: (← itemsJson? ns)

def entriesJson? : List (Node × Node) → Option Members
  | [] => some []
  | (k, v) :: es => do return (← text? k, ← toJson? v) :: (← entriesJson? es)

end

end Node

/-- Reads the value of the one document of a stream. -/
def readJson (text : String) : Option Json := do (← Node.read text).toJson?

end ApiScaffold.Yaml
