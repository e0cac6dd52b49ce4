/-
The tokens of a JSON text. `Json.Token.scan` reads the text one character at a time; a string is
decoded and a number is read when its token ends. A raw control character, half of a surrogate pair
and a number outside the grammar are refused.
-/
import ApiScaffold.Json.Basic

namespace ApiScaffold.Json

inductive Token where
  | openBrace
  | closeBrace
  | openBracket
  | closeBracket
  | colon
  | comma
  | str (s : String)
  /-- A number, `true`, `false` or `null`. -/
  | atom (v : Json)
  deriving Repr

namespace Token

/-- The value of a hexadecimal digit. -/
def hexValue? (c : Char) : Option Nat :=
  if '0' ≤ c && c ≤ '9' then some (c.toNat - '0'.toNat)
  else if 'a' ≤ c && c ≤ 'f' then some (c.toNat - 'a'.toNat + 10)
  else if 'A' ≤ c && c ≤ 'F' then some (c.toNat - 'A'.toNat + 10)
  else none

/-- The value of a run of decimal digits. -/
def decimalValue (ds : List Char) : Nat := ds.foldl (fun n c => n * 10 + (c.toNat - '0'.toNat)) 0

/-- The digits that still fit 64 bits, and how many were left over. -/
def keepDigits : List Char → Nat → Nat × Nat
  | [], n => (n, 0)
  | d :: ds, n =>
    let m := n * 10 + (d.toNat - '0'.toNat)
    if m < Nat.pow 2 64 then keepDigits ds m else (n, ds.length + 1)

/-- The power of ten after `e` or `E`, if the text holds one. -/
def exponent? : List Char → Option Int
  | [] => some 0
  | c :: rest =>
    if c == 'e' || c == 'E' then
      let (negative, ds) := match rest with
        | '+' :: ds => (false, ds)
        | '-' :: ds => (true, ds)
        | ds => (false, ds)
      if ds.isEmpty || !ds.all Char.isDigit then none
      else some (if negative then -(decimalValue ds : Int) else decimalValue ds)
    else none

/-- A number in the JSON grammar. An integer of 64 bits is kept; any other number is a double, read
from the digits that fit 64 bits. -/
def number? (text : List Char) : Option Number :=
  let (negative, text) := match text with
    | '-' :: rest => (true, rest)
    | rest => (false, rest)
  let whole := text.takeWhile Char.isDigit
  let rest := text.dropWhile Char.isDigit
  let wellFormed := match whole with
    | [] => false
    | '0' :: _ :: _ => false
    | _ => true
  if !wellFormed then none
  else
    let n := decimalValue whole
    match rest with
    | [] =>
      if negative then
        if 0 < n && n ≤ Nat.pow 2 63 then some (.int (-(n : Int))) else float whole [] 0
      else if n < Nat.pow 2 64 then some (.int n) else float whole [] 0
    | '.' :: rest =>
      let part := rest.takeWhile Char.isDigit
      if part.isEmpty then none
      else (exponent? (rest.dropWhile Char.isDigit)).bind (float whole part)
    | rest => (exponent? rest).bind (float whole [])
  where
    float (whole part : List Char) (e : Int) : Option Number :=
      let (n, dropped) := keepDigits (whole ++ part) 0
      let power : Int := (dropped : Int) - part.length + e
      (Binary64.scaled (text.head? == some '-') n power).map .float

/-- A number or a keyword. -/
def atom? (text : List Char) : Option Token :=
  if text = ['t', 'r', 'u', 'e'] then some (.atom (.bool true))
  else if text = ['f', 'a', 'l', 's', 'e'] then some (.atom (.bool false))
  else if text = ['n', 'u', 'l', 'l'] then some (.atom .null)
  else (number? text).map fun n => .atom (.num n)

/-- Where the scanner stands; the characters read so far are in reverse. -/
inductive Mode where
  | between
  | bare (done : List Char)
  | quoted (done : List Char)
  /-- After a backslash. -/
  | escape (done : List Char)
  /-- Inside four hexadecimal digits, after the first half of a surrogate pair or not. -/
  | hex (done : List Char) (high : Option Nat) (left : Nat) (value : Nat)
  /-- After the first half of a surrogate pair; `slash` once its backslash was read. -/
  | low (done : List Char) (high : Nat) (slash : Bool)
  deriving Repr

/-- A token of one character. -/
def punctuation? (c : Char) : Option Token :=
  match c with
  | '\x7b' => some .openBrace
  | '\x7d' => some .closeBrace
  | '[' => some .openBracket
  | ']' => some .closeBracket
  | ':' => some .colon
  | ',' => some .comma
  | _ => none

def isBlank (c : Char) : Bool := c == ' ' || c == '\t' || c == '\n' || c == '\r'

/-- The character that an escape of one letter stands for. -/
def escaped? (c : Char) : Option Char :=
  match c with
  | '"' => some '"'
  | '\\' => some '\\'
  | '/' => some '/'
  | 'b' => some '\x08'
  | 'f' => some '\x0c'
  | 'n' => some '\n'
  | 'r' => some '\r'
  | 't' => some '\t'
  | _ => none

/-- The mode after four hexadecimal digits. -/
def unit? (done : List Char) (high : Option Nat) (value : Nat) : Option Mode :=
  match high with
  | some h =>
    if 0xDC00 ≤ value && value < 0xE000 then
      some (.quoted (Char.ofNat (0x10000 + (h - 0xD800) * 0x400 + (value - 0xDC00)) :: done))
    else none
  | none =>
    if 0xD800 ≤ value && value < 0xDC00 then some (.low done value false)
    else if 0xDC00 ≤ value && value < 0xE000 then none
    else some (.quoted (Char.ofNat value :: done))

/-- A character outside strings, after the tokens read so far. -/
def plain? (tokens : List Token) (c : Char) : Option (Mode × List Token) :=
  if isBlank c then some (.between, tokens)
  else if c == '"' then some (.quoted [], tokens)
  else match punctuation? c with
    | some t => some (.between, t :: tokens)
    | none => some (.bare [c], tokens)

/-- One character more; the tokens read so far are in reverse. -/
def step : Mode × List Token → Char → Option (Mode × List Token)
  | (.between, ts), c => plain? ts c
  | (.bare done, ts), c =>
    if isBlank c || c == '"' || (punctuation? c).isSome then
      (atom? done.reverse).bind fun t => plain? (t :: ts) c
    else some (.bare (c :: done), ts)
  | (.quoted done, ts), c =>
    if c == '"' then some (.between, .str (String.ofList done.reverse) :: ts)
    else if c == '\\' then some (.escape done, ts)
    else if c.toNat < 0x20 then none
    else some (.quoted (c :: done), ts)
  | (.escape done, ts), c =>
    if c == 'u' then some (.hex done none 4 0, ts)
    else (escaped? c).map fun e => (.quoted (e :: done), ts)
  | (.hex done high left value, ts), c =>
    (hexValue? c).bind fun d =>
      let value := value * 16 + d
      if left ≤ 1 then (unit? done high value).map (·, ts)
      else some (.hex done high (left - 1) value, ts)
  | (.low done high slash, ts), c =>
    if !slash && c == '\\' then some (.low done high true, ts)
    else if slash && c == 'u' then some (.hex done (some high) 4 0, ts)
    else none

/-- The tokens when the text ends. -/
def finish : Mode × List Token → Option (List Token)
  | (.between, ts) => some ts.reverse
  | (.bare done, ts) => (atom? done.reverse).map fun t => (t :: ts).reverse
  | _ => none

/-- The tokens of a text. -/
def scan (text : String) : Option (List Token) :=
  (text.toList.foldlM step (.between, [])).bind finish

end Token

end ApiScaffold.Json
