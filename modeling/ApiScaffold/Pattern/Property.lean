/-
Sets of characters by the name of a property: a general category or a group of them, or one of a few
binary properties. Case, spaces, hyphens and underscores in a name do not count, nor does a leading
`is`.
-/
import ApiScaffold.Pattern.CharSet
import ApiScaffold.Text.Split

namespace ApiScaffold.CharSet

open Text (Category)

def ofCategories (ks : List Category) : CharSet := ks.foldr (fun k s => .union (.category k) s) .empty

def letters : List Category :=
  [.uppercaseLetter, .lowercaseLetter, .titlecaseLetter, .modifierLetter, .otherLetter]

def marks : List Category := [.nonspacingMark, .spacingMark, .enclosingMark]

def numbers : List Category := [.decimalNumber, .letterNumber, .otherNumber]

def punctuation : List Category :=
  [.connectorPunctuation, .dashPunctuation, .openPunctuation, .closePunctuation,
    .initialPunctuation, .finalPunctuation, .otherPunctuation]

def symbols : List Category := [.mathSymbol, .currencySymbol, .modifierSymbol, .otherSymbol]

def separators : List Category := [.spaceSeparator, .lineSeparator, .paragraphSeparator]

/-- The assigned characters that are none of the above. -/
def others : List Category := [.control, .format, .privateUse]

/-- The characters with a category. -/
def assigned : CharSet :=
  ofCategories (letters ++ marks ++ numbers ++ punctuation ++ symbols ++ separators ++ others)

/-- The general categories and groups of them under their names. -/
def categoryNames : List (List String × CharSet) := [
  (["l", "letter"], ofCategories letters),
  (["lc", "casedletter"], ofCategories [.uppercaseLetter, .lowercaseLetter, .titlecaseLetter]),
  (["lu", "uppercaseletter"], .category .uppercaseLetter),
  (["ll", "lowercaseletter"], .category .lowercaseLetter),
  (["lt", "titlecaseletter"], .category .titlecaseLetter),
  (["lm", "modifierletter"], .category .modifierLetter),
  (["lo", "otherletter"], .category .otherLetter),
  (["m", "mark", "combiningmark"], ofCategories marks),
  (["mn", "nonspacingmark"], .category .nonspacingMark),
  (["mc", "spacingmark"], .category .spacingMark),
  (["me", "enclosingmark"], .category .enclosingMark),
  (["n", "number"], ofCategories numbers),
  (["nd", "decimalnumber", "digit"], .category .decimalNumber),
  (["nl", "letternumber"], .category .letterNumber),
  (["no", "othernumber"], .category .otherNumber),
  (["p", "punctuation", "punct"], ofCategories punctuation),
  (["pc", "connectorpunctuation"], .category .connectorPunctuation),
  (["pd", "dashpunctuation"], .category .dashPunctuation),
  (["ps", "openpunctuation"], .category .openPunctuation),
  (["pe", "closepunctuation"], .category .closePunctuation),
  (["pi", "initialpunctuation"], .category .initialPunctuation),
  (["pf", "finalpunctuation"], .category .finalPunctuation),
  (["po", "otherpunctuation"], .category .otherPunctuation),
  (["s", "symbol"], ofCategories symbols),
  (["sm", "mathsymbol"], .category .mathSymbol),
  (["sc", "currencysymbol"], .category .currencySymbol),
  (["sk", "modifiersymbol"], .category .modifierSymbol),
  (["so", "othersymbol"], .category .otherSymbol),
  (["z", "separator"], ofCategories separators),
  (["zs", "spaceseparator"], .category .spaceSeparator),
  (["zl", "lineseparator"], .category .lineSeparator),
  (["zp", "paragraphseparator"], .category .paragraphSeparator),
  (["c", "other"], .union (ofCategories others) (.compl assigned)),
  (["cc", "control", "cntrl"], .category .control),
  (["cf", "format"], .category .format),
  (["cn", "unassigned"], .compl assigned),
  (["co", "privateuse"], .category .privateUse),
  (["any"], .all),
  (["assigned"], assigned),
  (["ascii"], .ascii)]

/-- The binary properties under their names. -/
def binaryNames : List (List String × CharSet) := [
  (["alphabetic", "alpha"], .alphabetic),
  (["lowercase", "lower"], .lower),
  (["uppercase", "upper"], .upper),
  (["whitespace", "wspace", "space"], .blank)]

def named? (rows : List (List String × CharSet)) (name : String) : Option CharSet :=
  (rows.find? (·.1.contains name)).map Prod.snd

/-- A name without the differences that do not count. -/
def plainName (cs : List Char) : String :=
  let cs := match cs with
    | i :: s :: rest => if i.toLower == 'i' && s.toLower == 's' then rest else cs
    | _ => cs
  String.ofList ((cs.filter fun c => !(c == ' ' || c == '_' || c == '-')).map Char.toLower)

/-- The characters with a property, which is given by its value or as `property=value`. -/
def ofProperty? (cs : List Char) : Option CharSet :=
  let ofValue (property value : List Char) : Option CharSet :=
    if ["gc", "generalcategory"].contains (plainName property) then
      named? categoryNames (plainName value)
    else none
  match Text.cutAt ['!', '='] cs, Text.cutAt [':'] cs, Text.cutAt ['='] cs with
  | some (p, v), _, _ => (ofValue p v).map .compl
  | none, some (p, v), _ => ofValue p v
  | none, none, some (p, v) => ofValue p v
  | none, none, none => named? (binaryNames ++ categoryNames) (plainName cs)

end ApiScaffold.CharSet
