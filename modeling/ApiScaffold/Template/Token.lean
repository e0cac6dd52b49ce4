/-
Cutting templates into pieces: plain text, outputs in double braces, and tags in braces with percent
signs; comments vanish. A line break right after a tag or comment is dropped, and so are the blanks
between the start of a line and a tag or comment; a minus sign inside a mark drops all blanks on its
side, and a plus sign keeps what would be dropped.
-/
import ApiScaffold.Number
import ApiScaffold.Text.Case

namespace ApiScaffold.Template

/-- A token of an expression. -/
inductive Token where
  | name (s : String)
  | str (s : String)
  | int (n : Nat)
  | float (x : Binary64)
  /-- An operator, bracket or separator. -/
  | sign (s : String)
  deriving DecidableEq, Repr, Inhabited

inductive Piece where
  | text (s : String)
  | output (tokens : List Token)
  | tag (tokens : List Token)
  deriving DecidableEq, Repr, Inhabited

/-! ## Expressions -/

def isNameStart (c : Char) : Bool := c.isAlpha || c == '_'

def isNameChar (c : Char) : Bool := c.isAlphanum || c == '_'

/-- The character that an escape of one letter stands for. -/
def escaped? (c : Char) : Option Char :=
  match c with
  | '"' => some '"'
  | '\\' => some '\\'
  | '/' => some '/'
  | '\'' => some '\''
  | 'b' => some (Char.ofNat 0x08)
  | 'f' => some (Char.ofNat 0x0C)
  | 'n' => some '\n'
  | 'r' => some '\r'
  | 't' => some '\t'
  | _ => none

/-- The value of hexadecimal digits. -/
def hexDigits? (ds : List Char) : Option Nat :=
  ds.foldlM (fun n c =>
    if c.isDigit then some (n * 16 + (c.toNat - '0'.toNat))
    else if 'a' ≤ c.toLower && c.toLower ≤ 'f' then some (n * 16 + (c.toLower.toNat - 'a'.toNat + 10))
    else none) 0

/-- Reads a string after its opening quote. -/
def stringToken (quote : Char) (done : List Char) : List Char → Option (String × List Char)
  | [] => none
  | '\\' :: 'u' :: a :: b :: c :: d :: cs =>
    match hexDigits? [a, b, c, d] with
    | some n =>
      if 0xD800 ≤ n && n ≤ 0xDFFF then none else stringToken quote (Char.ofNat n :: done) cs
    | none => none
  | '\\' :: c :: cs =>
    match escaped? c with
    | some e => stringToken quote (e :: done) cs
    | none => none
  | c :: cs =>
    if c == quote then some (String.ofList done.reverse, cs) else stringToken quote (c :: done) cs

/-- The value of decimal digits. -/
def digitsValue (ds : List Char) : Nat := ds.foldl (fun n c => n * 10 + (c.toNat - '0'.toNat)) 0

/-- Reads a number, an integer unless it has a fraction. -/
def numberToken (cs : List Char) : Option (Token × List Char) :=
  let isDigit (c : Char) : Bool := c.isDigit || c == '_'
  let whole := (cs.takeWhile isDigit).filter (· != '_')
  let rest := cs.dropWhile isDigit
  match rest with
  | '.' :: d :: more =>
    if d.isDigit then
      let part := (d :: more).takeWhile Char.isDigit
      (Binary64.ofDecimal false (digitsValue (whole ++ part)) (-(part.length : Int))).map fun x =>
        (.float x, (d :: more).drop part.length)
    else some (.int (digitsValue whole), rest)
  | _ => some (.int (digitsValue whole), rest)

/-- The signs of two characters, which come before those of one. -/
def longSigns : List (Char × Char) := [('=', '='), ('!', '='), ('<', '='), ('>', '='), ('/', '/'), ('*', '*')]

def isSign (c : Char) : Bool :=
  ['+', '-', '*', '/', '%', '~', '=', '<', '>', '(', ')', '[', ']', '\x7b', '\x7d', ',', ':', '.', '|'].contains c

/-- Reads one token. -/
def exprToken (cs : List Char) : Option (Token × List Char) :=
  match cs with
  | [] => none
  | c :: rest =>
    if isNameStart c then
      some (.name (String.ofList (cs.takeWhile isNameChar)), cs.dropWhile isNameChar)
    else if c.isDigit then numberToken cs
    else if c == '"' || c == '\'' then
      (stringToken c [] rest).map fun (s, rest) => (.str s, rest)
    else
      match rest.head? with
      | some d =>
        if longSigns.contains (c, d) then some (.sign (String.ofList [c, d]), rest.drop 1)
        else if isSign c then some (.sign (String.singleton c), rest)
        else none
      | none => if isSign c then some (.sign (String.singleton c), rest) else none

/-- How a mark treats the blanks beside it. -/
inductive Blanks where
  /-- As the kind of mark demands. -/
  | usual
  /-- All dropped. -/
  | drop
  /-- All kept. -/
  | keep
  deriving DecidableEq, Repr

/-- The closing mark of a tag or output, if it comes next. -/
def closing? (close : Char) (cs : List Char) : Option (Blanks × List Char) :=
  match cs with
  | a :: b :: rest =>
    if a == close && b == '\x7d' then some (.usual, rest)
    else match rest with
      | c :: rest =>
        if b == close && c == '\x7d' then
          if a == '-' then some (.drop, rest) else if a == '+' then some (.keep, rest) else none
        else none
      | [] => none
  | _ => none

/-- Reads the tokens of a tag or output up to its closing mark, which counts outside of brackets
only. -/
def exprTokens (close : Char) (brackets : Int) (done : List Token) : Nat → List Char →
    Option (List Token × Blanks × List Char)
  | 0, _ => none
  | fuel + 1, cs =>
    let cs := cs.dropWhile Text.isBlank
    let ends := if brackets == 0 then closing? close cs else none
    match ends with
    | some (blanks, rest) => some (done.reverse, blanks, rest)
    | none =>
      match exprToken cs with
      | none => none
      | some (t, rest) =>
        let change : Int := match t with
          | .sign s =>
            if s == "(" || s == "[" || s == "\x7b" then 1
            else if s == ")" || s == "]" || s == "\x7d" then -1 else 0
          | _ => 0
        exprTokens close (brackets + change) (t :: done) fuel rest

/-! ## Pieces -/

def isLineEnd (c : Char) : Bool := c == '\n' || c == '\r'

/-- Text that stands before a tag or comment, in reverse, without the blanks at the start of its last
line; `atStart` says whether nothing but blanks stands before it on the line where it begins. -/
def trimLine (atStart : Bool) (text : List Char) : List Char :=
  let rest := text.dropWhile fun c => Text.isBlank c && !isLineEnd c
  match rest with
  | [] => if atStart then [] else text
  | c :: _ => if isLineEnd c then rest else text

/-- Whether only blanks stand on the last line of a text in reverse. -/
def endsBlank (atStart : Bool) (text : List Char) : Bool :=
  match text.dropWhile fun c => Text.isBlank c && !isLineEnd c with
  | [] => atStart
  | c :: _ => isLineEnd c

/-- Drops one line break. -/
def dropLineBreak (cs : List Char) : List Char :=
  let cs := if cs.head? == some '\r' then cs.drop 1 else cs
  if cs.head? == some '\n' then cs.drop 1 else cs

/-- The text up to an opening mark, in reverse, with the kind of the mark and what follows it. -/
def openingMark (done : List Char) : List Char → List Char × Option (Char × List Char)
  | [] => (done, none)
  | '\x7b' :: c :: cs =>
    if c == '\x7b' || c == '%' || c == '#' then (done, some (c, cs)) else openingMark ('\x7b' :: done) (c :: cs)
  | c :: cs => openingMark (c :: done) cs

/-- The blanks sign after an opening mark. -/
def openingBlanks : List Char → Blanks × List Char
  | '-' :: cs => (.drop, cs)
  | '+' :: cs => (.keep, cs)
  | cs => (.usual, cs)

/-- What follows a comment, and how its closing mark treats blanks. -/
def commentEnd : List Char → Option (Blanks × List Char)
  | [] => none
  | '-' :: '#' :: '\x7d' :: cs => some (.drop, cs)
  | '+' :: '#' :: '\x7d' :: cs => some (.keep, cs)
  | '#' :: '\x7d' :: cs => some (.usual, cs)
  | _ :: cs => commentEnd cs

/-- What follows a closing mark, without the blanks that it drops. -/
def afterClosing (isOutput : Bool) (blanks : Blanks) (cs : List Char) : List Char :=
  match blanks with
  | .drop => cs.dropWhile Text.isBlank
  | .keep => cs
  | .usual => if isOutput then cs else dropLineBreak cs

/-- A piece of text, if there is any. -/
def textPiece (reversed : List Char) : List Piece :=
  if reversed.isEmpty then [] else [.text (String.ofList reversed.reverse)]

/-- The pieces of a template; `atStart` says whether only blanks stand before on the same line. -/
def pieces (atStart : Bool) : Nat → List Char → Option (List Piece)
  | 0, _ => none
  | fuel + 1, cs => do
    let (before, mark) := openingMark [] cs
    match mark with
    | none => return textPiece before
    | some (kind, rest) =>
      let (blanks, rest) := openingBlanks rest
      let isOutput := kind == '\x7b'
      let text := match blanks with
        | .drop => before.dropWhile Text.isBlank
        | .keep => before
        | .usual => if isOutput then before else trimLine atStart before
      let (piece, blanks, rest) ←
        if kind == '#' then do
          let (blanks, rest) ← commentEnd rest
          pure (([] : List Piece), blanks, rest)
        else do
          let (tokens, blanks, rest) ← exprTokens (if isOutput then '\x7d' else '%') 0 [] (rest.length + 1) rest
          pure ([if isOutput then .output tokens else .tag tokens], blanks, rest)
      let following := afterClosing isOutput blanks rest
      let skipped := rest.take (rest.length - following.length)
      let more ← pieces (endsBlank false skipped.reverse) fuel following
      return textPiece text ++ piece ++ more

/-- The pieces of a template. -/
def Piece.ofText? (source : String) : Option (List Piece) :=
  pieces true (source.length + 1) source.toList

end ApiScaffold.Template
