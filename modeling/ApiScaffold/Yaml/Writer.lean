/-
Writing YAML in block style. Nested mappings are indented by two blanks, sequences inside mappings
are not, and empty collections are written in brackets. A string is written plain where that reads
back as the same string, as a literal block if it holds line feeds, and else in quotes: single ones
where they do, double ones with escapes where they do not.
-/
import ApiScaffold.Yaml.Value

namespace ApiScaffold.Yaml

/-! ## What a string allows -/

/-- Whether a character can be written without an escape. -/
def isShown (c : Char) : Bool :=
  let n := c.toNat
  n == 0xA || (0x20 ≤ n && n ≤ 0x7E) || (0xA0 ≤ n && n ≤ 0xFFFD && n != 0xFEFF)

/-- Line breaks, before they are made uniform. -/
def isAnyBreak (c : Char) : Bool := isBreak c || c == '\r' || c.toNat == 0x85

/-- A blank, a line break or the end of a string. -/
def isOpen (c : Option Char) : Bool := c.all fun c => isSpace c || isAnyBreak c || isEnd c

/-- Characters that have a meaning at the start of a plain scalar. -/
def isIndicator (c : Char) : Bool :=
  [',', '[', ']', '\x7b', '\x7d', '#', '&', '*', '!', '|', '>', '\'', '"', '%', '@', '\x60'].contains c

/-- Whether a plain scalar cannot start so. -/
def opensOtherwise (c : Char) (next : Option Char) : Bool :=
  isIndicator c || ((c == '?' || c == ':' || c == '-') && isOpen next)

/-- Whether a colon before a gap or a hash sign behind one stands after the first character. -/
def holdsMark : Char → List Char → Bool
  | _, [] => false
  | before, c :: cs =>
    (c == ':' && isOpen cs.head?) || (c == '#' && isOpen (some before)) || holdsMark c cs

/-- Whether a character of one kind is followed at once by one of another. -/
def holdsPair (p q : Char → Bool) : List Char → Bool
  | c :: d :: cs => (p c && q d) || holdsPair p q (d :: cs)
  | _ => false

/-- Whether the start of a text has a meaning outside of quotes, or a mark in it. -/
def holdsIndicator (cs : List Char) : Bool :=
  "---".toList.isPrefixOf cs || "...".toList.isPrefixOf cs ||
    match cs with
    | c :: cs => opensOtherwise c cs.head? || holdsMark c cs
    | [] => false

def isBlankChar (c : Char) : Bool := c == ' '

/-- Whether a text has a form that reads back only with escapes. -/
def needsEscapes (cs : List Char) : Bool :=
  cs.any (fun c => !isShown c) || holdsPair isBlankChar isAnyBreak cs

/-- Whether a text reads back when written plain. -/
def allowsPlain (cs : List Char) : Bool :=
  let isOuter (c : Option Char) : Bool := c.any isBlankChar
  !(isOuter cs.head? || isOuter cs.getLast? || cs.any isAnyBreak || needsEscapes cs || holdsIndicator cs)

/-- Whether a text reads back when written in single quotes. -/
def allowsSingle (cs : List Char) : Bool := !(holdsPair isAnyBreak isBlankChar cs || needsEscapes cs)

/-- Whether a text reads back when written as a block. -/
def allowsBlock (cs : List Char) : Bool := !(cs.getLast?.any isBlankChar || needsEscapes cs)

/-! ## Scalars -/

/-- Whether a plain text is read as something else than a string, or might be by others. -/
def isAmbiguous (text : String) : Bool :=
  match plainValue? text with
  | some (.str _) => isPadded (splitSign text.toList).2
  | _ => true

/-- The style of a string; keys that stand before their colon have to be on one line. -/
def styleOf (isKey : Bool) (text : String) : Style :=
  let cs := text.toList
  if cs.contains '\n' then if isKey || !allowsBlock cs then .doubleQuoted else .literal
  else if isKey && cs.any isAnyBreak then .doubleQuoted
  else if !isAmbiguous text && allowsPlain cs then .plain
  else if allowsSingle cs then .singleQuoted
  else .doubleQuoted

def pad (n : Nat) : List Char := List.replicate n ' '

/-- The inside of a text in single quotes. -/
def singleQuotedChars (indent : Nat) (afterBreak : Bool) : List Char → List Char
  | [] => if afterBreak then pad indent else []
  | c :: cs =>
    if isAnyBreak c then c :: singleQuotedChars indent true cs
    else
      (if afterBreak then pad indent else []) ++ (if c == '\'' then ['\'', '\''] else [c]) ++
        singleQuotedChars indent false cs

/-- The last `count` hexadecimal digits of a number. -/
def hexDigits : Nat → Nat → List Char
  | 0, _ => []
  | count + 1, n => hexDigits count (n / 16) ++ [(Nat.digitChar (n % 16)).toUpper]

/-- The letter of an escape that has one. -/
def escapeLetter? (c : Char) : Option Char :=
  match c.toNat with
  | 0x00 => some '0'
  | 0x07 => some 'a'
  | 0x08 => some 'b'
  | 0x09 => some 't'
  | 0x0A => some 'n'
  | 0x0B => some 'v'
  | 0x0C => some 'f'
  | 0x0D => some 'r'
  | 0x1B => some 'e'
  | 0x22 => some '"'
  | 0x5C => some '\\'
  | 0x85 => some 'N'
  | 0xA0 => some '_'
  | 0x2028 => some 'L'
  | 0x2029 => some 'P'
  | _ => none

/-- A character of a text in double quotes. -/
def doubleQuotedChar (c : Char) : List Char :=
  if isShown c && !isAnyBreak c && c != '"' && c != '\\' then [c]
  else match escapeLetter? c with
    | some e => ['\\', e]
    | none =>
      let n := c.toNat
      if n ≤ 0xFF then '\\' :: 'x' :: hexDigits 2 n
      else if n ≤ 0xFFFF then '\\' :: 'u' :: hexDigits 4 n
      else '\\' :: 'U' :: hexDigits 8 n

/-- The lines of a literal block. -/
def literalChars (indent : Nat) (afterBreak : Bool) : List Char → List Char
  | [] => []
  | c :: cs =>
    if isAnyBreak c then c :: literalChars indent true cs
    else (if afterBreak then pad indent else []) ++ c :: literalChars indent false cs

/-- The head of a literal block: whether its indentation has to be said, and what becomes of the
line breaks at its end. -/
def literalHead (cs : List Char) : List Char :=
  let outer := cs.head?.any fun c => isBlankChar c || isAnyBreak c
  let chomp := match cs.reverse with
    | c :: d :: _ => if !isAnyBreak c then ['-'] else if isAnyBreak d then ['+'] else []
    | [c] => if isAnyBreak c then ['+'] else ['-']
    | [] => ['-']
  '|' :: (if outer then ['2'] else []) ++ chomp

/-- A string in a style, its further lines indented. -/
def scalarChars (indent : Nat) (isKey : Bool) (text : String) : List Char :=
  let cs := text.toList
  match styleOf isKey text with
  | .plain => cs
  | .singleQuoted => '\'' :: singleQuotedChars indent false cs ++ ['\'']
  | .literal => literalHead cs ++ '\n' :: literalChars indent true cs
  | _ => '"' :: cs.flatMap doubleQuotedChar ++ ['"']

/-- Ends a line that has not ended yet. -/
def endLine (cs : List Char) : List Char := if cs.getLast?.any isAnyBreak then cs else cs ++ ['\n']

def stringLine (indent : Nat) (text : String) : List Char := endLine (scalarChars indent false text)

/-! ## Collections -/

/-- The greatest length of a key that stands before its colon, in bytes. -/
def maxKeySize : Nat := 128

def isShortKey (key : String) : Bool := key.utf8ByteSize ≤ maxKeySize && !key.toList.any isAnyBreak

/-- Texts that begin at a level of indentation, the first where the text stands. -/
def aligned (indent : Nat) (texts : List (List Char)) : List Char := (pad indent).intercalate texts

/-- The entries of a collection behind its mark, or on lines of their own. -/
def collection (empty : String) (indent : Nat) (ownLines : Bool) (entries : List (List Char)) : List Char :=
  if entries.isEmpty then ' ' :: empty.toList ++ ['\n']
  else if ownLines then '\n' :: pad indent ++ aligned indent entries
  else ' ' :: aligned indent entries

mutual

/-- A value behind a mark at a level of indentation. Behind a key in a mapping collections begin on
the next line, and sequences at the same level. -/
def valueChars (indent : Nat) (behindKey : Bool) : Json → List Char
  | .null => " null\n".toList
  | .bool b => if b then " true\n".toList else " false\n".toList
  | .num n => ' ' :: n.toText.toList ++ ['\n']
  | .str s => ' ' :: stringLine (indent + 2) s
  | .arr xs =>
    let inner := if behindKey then indent else indent + 2
    collection "[]" inner behindKey (items inner xs)
  | .obj ms => collection "\x7b\x7d" (indent + 2) behindKey (members (indent + 2) ms)

def items (indent : Nat) : List Json → List (List Char)
  | [] => []
  | x :: xs => ('-' :: valueChars indent false x) :: items indent xs

/-- The members of a mapping. A key that is too long or has several lines gets a mark of its own. -/
def members (indent : Nat) : Members → List (List Char)
  | [] => []
  | (key, v) :: ms =>
    (if isShortKey key then scalarChars (indent + 2) true key ++ ':' :: valueChars indent true v
      else '?' :: ' ' :: stringLine (indent + 2) key ++ pad indent ++ ':' :: valueChars indent false v) ::
    members indent ms

end

/-- A document that holds a value. -/
def write (j : Json) : String :=
  String.ofList <| match j with
    | .obj (m :: ms) => aligned 0 (members 0 (m :: ms))
    | .arr (x :: xs) => aligned 0 (items 0 (x :: xs))
    | j => (valueChars 0 false j).drop 1

end ApiScaffold.Yaml
