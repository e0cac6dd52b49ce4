/-
Writing JSON: on one line without blanks, or with one item a line and two blanks a level. A string
is written with its quotes, backslashes and control characters escaped and all else as it is.
-/
import ApiScaffold.Json.Basic

namespace ApiScaffold.Json

/-- A lower case hexadecimal digit. -/
def hexDigit (n : Nat) : Char := Nat.digitChar n

/-- A character inside a string. -/
def escapeChar (c : Char) : List Char :=
  if c == '"' then ['\\', '"']
  else if c == '\\' then ['\\', '\\']
  else if c == '\x08' then ['\\', 'b']
  else if c == '\x0c' then ['\\', 'f']
  else if c == '\n' then ['\\', 'n']
  else if c == '\r' then ['\\', 'r']
  else if c == '\t' then ['\\', 't']
  else if c.toNat < 0x20 then
    ['\\', 'u', '0', '0', hexDigit (c.toNat / 16), hexDigit (c.toNat % 16)]
  else [c]

/-- A string in quotes. -/
def quote (s : String) : String := String.ofList ('"' :: s.toList.flatMap escapeChar ++ ['"'])

/-- The texts of items between two brackets on one line. -/
def inline (opening closing : String) (items : List String) : String :=
  opening ++ String.intercalate "," items ++ closing

mutual

/-- On one line, without blanks. -/
def compact : Json → String
  | .null => "null"
  | .bool b => if b then "true" else "false"
  | .num n => n.toText
  | .str s => quote s
  | .arr xs => inline "[" "]" (compactItems xs)
  | .obj ms => inline "\x7b" "\x7d" (compactMembers ms)

def compactItems : List Json → List String
  | [] => []
  | x :: xs => compact x :: compactItems xs

def compactMembers : Members → List String
  | [] => []
  | (k, v) :: ms => (quote k ++ ":" ++ compact v) :: compactMembers ms

end

/-- The texts of items between two brackets, one a line. -/
def block (level : Nat) (opening closing : String) (items : List String) : String :=
  if items.isEmpty then opening ++ closing
  else
    let pad (n : Nat) := "\n" ++ String.ofList (List.replicate (2 * n) ' ')
    opening ++ pad (level + 1) ++ String.intercalate ("," ++ pad (level + 1)) items ++ pad level ++ closing

mutual

/-- One item a line, at a level of indentation. -/
def prettyAt (level : Nat) : Json → String
  | .null => "null"
  | .bool b => if b then "true" else "false"
  | .num n => n.toText
  | .str s => quote s
  | .arr xs => block level "[" "]" (prettyItems (level + 1) xs)
  | .obj ms => block level "\x7b" "\x7d" (prettyMembers (level + 1) ms)

def prettyItems (level : Nat) : List Json → List String
  | [] => []
  | x :: xs => prettyAt level x :: prettyItems level xs

def prettyMembers (level : Nat) : Members → List String
  | [] => []
  | (k, v) :: ms => (quote k ++ ": " ++ prettyAt level v) :: prettyMembers level ms

end

/-- One item a line and two blanks a level. -/
def pretty (j : Json) : String := prettyAt 0 j

end ApiScaffold.Json
