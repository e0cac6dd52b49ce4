/-
The tokens of a whole YAML stream. Indentation becomes start and end tokens. A mapping key is known
as one only at the colon behind it, so the lexer remembers where a key may have begun, one place per
enclosing flow collection, and puts the key token there once the colon has come.
-/
import ApiScaffold.Yaml.Token

namespace ApiScaffold.Yaml

/-- A place where a mapping key may have begun. -/
structure PossibleKey where
  /-- How many tokens stand before it. -/
  count : Nat
  index : Nat
  line : Nat
  column : Nat
  /-- Whether it must turn out to be a key. -/
  required : Bool
  deriving Repr

structure Lexer where
  rest : List Glyph
  /-- The tokens read, last first, and how many they are. -/
  tokens : List Token
  count : Nat
  /-- Possible keys, that of the innermost flow collection first and that of the block last. -/
  keys : List (Option PossibleKey)
  /-- The column of the current block, -1 outside of all, and those of the blocks around it. -/
  indent : Int
  indents : List Int
  /-- Whether a key may begin here. -/
  keyAllowed : Bool

namespace Lexer

def start (gs : List Glyph) : Lexer := ⟨gs, [], 0, [none], -1, [], true⟩

def inFlow (x : Lexer) : Bool := x.keys.length > 1

def column (x : Lexer) : Nat := (x.rest.head?.map (·.column)).getD 0

def push (x : Lexer) (t : Token) : Lexer := { x with tokens := t :: x.tokens, count := x.count + 1 }

/-- Puts tokens, given last first, after the first `count`. -/
def insertAfter (x : Lexer) (count : Nat) (ts : List Token) : Lexer :=
  let (later, earlier) := x.tokens.splitAt (x.count - count)
  { x with tokens := later ++ ts ++ earlier, count := x.count + ts.length }

/-- Opens a block at a column further right than the current one; the start token stands after the
first `count` tokens. -/
def openBlock (x : Lexer) (column count : Nat) (start : Token) : Lexer :=
  if !x.inFlow && x.indent < column then
    { x.insertAfter count [start] with indent := column, indents := x.indent :: x.indents }
  else x

/-- Closes the blocks further right than a column. -/
def closeBlocks (x : Lexer) (column : Int) : Lexer :=
  if x.inFlow then x else close x.indents x
where
  close : List Int → Lexer → Lexer
    | [], x => x
    | outer :: indents, x =>
      if x.indent > column then close indents { x.push .blockEnd with indent := outer, indents } else x

/-- Gives up the possible key of the innermost collection, unless it is required. -/
def dropKey (x : Lexer) : Option Lexer :=
  match x.keys with
  | some k :: keys => if k.required then none else some { x with keys := none :: keys }
  | _ => some x

/-- Notes that a key may begin here. -/
def noteKey (x : Lexer) : Option Lexer :=
  match x.keyAllowed, x.rest with
  | true, g :: _ => do
    let x ← x.dropKey
    let required := !x.inFlow && x.indent == (g.column : Int)
    return { x with keys := some ⟨x.count, g.index, g.line, g.column, required⟩ :: x.keys.drop 1 }
  | _, _ => some x

/-- Gives up the keys that are on an earlier line or too far back. -/
def dropStaleKeys (x : Lexer) : Option Lexer :=
  match x.rest with
  | [] => some x
  | g :: _ => do
    let keys ← x.keys.mapM fun key =>
      match key with
      | some k =>
        if k.line < g.line || k.index + 1024 < g.index then
          if k.required then none else some none
        else some (some k)
      | none => some none
    return { x with keys }

/-- Skips blanks, comments and line breaks before a token. -/
def skipGaps (inFlow : Bool) : Bool → List Glyph → Bool × List Glyph
  | keyAllowed, [] => (keyAllowed, [])
  | keyAllowed, g :: rest =>
    if g.char == ' ' || (g.char == '\t' && (inFlow || !keyAllowed)) then skipGaps inFlow keyAllowed rest
    else if isBreak g.char then skipGaps inFlow (keyAllowed || !inFlow) rest
    else if g.char == '#' then comment keyAllowed rest
    else (keyAllowed, g :: rest)
where
  comment : Bool → List Glyph → Bool × List Glyph
    | keyAllowed, [] => (keyAllowed, [])
    | keyAllowed, g :: rest =>
      if isBreak g.char then skipGaps inFlow (keyAllowed || !inFlow) rest
      else if isEnd g.char then (keyAllowed, g :: rest)
      else comment keyAllowed rest

/-- Whether a plain scalar may begin with a character. -/
def startsPlain (inFlow : Bool) (c next : Char) : Bool :=
  !(isGap c || ['-', '?', ':', ',', '[', ']', '\x7b', '\x7d', '#', '&', '*', '!', '|', '>', '\'', '"', '%', '@',
    Char.ofNat 0x60].contains c) ||
  (c == '-' && !isSpace next) ||
  (!inFlow && (c == '?' || c == ':') && !isGap next)

/-- Steps over an indicator of `n` characters. -/
def indicator (x : Lexer) (n : Nat) (t : Token) : Lexer := { x.push t with rest := x.rest.drop n }

/-- What a possible key before a colon becomes. -/
def colon (x : Lexer) : Option Lexer :=
  match x.keys with
  | some k :: keys =>
    let x := { x.insertAfter k.count [.key] with keys := none :: keys, keyAllowed := false }
    some (x.openBlock k.column k.count .blockMappingStart)
  | _ =>
    if x.inFlow then some { x with keyAllowed := false }
    else if x.keyAllowed then some (x.openBlock x.column x.count .blockMappingStart)
    else none

/-- A dash or question mark of a block. -/
def blockIndicator (x : Lexer) (start : Token) : Option Lexer :=
  if x.inFlow then some x
  else if x.keyAllowed then some (x.openBlock x.column x.count start)
  else none

/-- Reads a scalar, alias, anchor or tag, which may be a key or the start of one. -/
def keyToken (x : Lexer) (read : Option (Token × List Glyph)) : Option Lexer := do
  let x ← x.noteKey
  let (t, rest) ← read
  return { x.push t with rest, keyAllowed := false }

def collectionStart (x : Lexer) (t : Token) : Option Lexer := do
  let x ← x.noteKey
  return { x.indicator 1 t with keys := none :: x.keys, keyAllowed := true }

def collectionEnd (x : Lexer) (t : Token) : Option Lexer := do
  let x ← x.dropKey
  let keys := if x.inFlow then x.keys.drop 1 else x.keys
  return { x.indicator 1 t with keys, keyAllowed := false }

/-- Reads the token that begins at a character. -/
def token (x : Lexer) (c next : Char) : Option Lexer := do
  let atStart := x.column == 0
  let named (make : String → Token) : Option (Token × List Glyph) :=
    (anchorName (x.rest.drop 1)).map fun (name, rest) => (make (String.ofList name), rest)
  let quoted (single : Bool) : Option (Token × List Glyph) :=
    (quotedScalar single .text [] .none (x.rest.drop 1)).map fun (text, rest) =>
      (.scalar (String.ofList text) (if single then .singleQuoted else .doubleQuoted), rest)
  if atStart && c == '%' then
    let x ← (x.closeBlocks (-1)).dropKey
    let (t, rest) ← directive x.rest
    return { x.push t with rest, keyAllowed := false }
  if Glyph.atDocumentMark x.rest then
    let x ← (x.closeBlocks (-1)).dropKey
    return { x.indicator 3 (if c == '-' then .documentStart else .documentEnd) with keyAllowed := false }
  if c == '[' then return ← x.collectionStart .flowSequenceStart
  if c == '\x7b' then return ← x.collectionStart .flowMappingStart
  if c == ']' then return ← x.collectionEnd .flowSequenceEnd
  if c == '\x7d' then return ← x.collectionEnd .flowMappingEnd
  if c == ',' then
    let x ← x.dropKey
    return { x.indicator 1 .flowEntry with keyAllowed := true }
  if c == '-' && isGap next then
    let x ← (← x.blockIndicator .blockSequenceStart).dropKey
    return { x.indicator 1 .blockEntry with keyAllowed := true }
  if c == '?' && (x.inFlow || isGap next) then
    let x ← (← x.blockIndicator .blockMappingStart).dropKey
    return { x.indicator 1 .key with keyAllowed := !x.inFlow }
  if c == ':' && (x.inFlow || isGap next) then
    return (← x.colon).indicator 1 .value
  if c == '*' then return ← x.keyToken (named .alias)
  if c == '&' then return ← x.keyToken (named .anchor)
  if c == '!' then return ← x.keyToken (tagToken x.inFlow x.rest)
  if !x.inFlow && (c == '|' || c == '>') then
    let x ← x.dropKey
    let (text, rest) ← blockScalar (c == '|') x.indent (x.rest.drop 1)
    let style := if c == '|' then Style.literal else .folded
    return { x.push (.scalar (String.ofList text) style) with rest, keyAllowed := true }
  if c == '\'' then return ← x.keyToken (quoted true)
  if c == '"' then return ← x.keyToken (quoted false)
  if startsPlain x.inFlow c next then
    let x ← x.noteKey
    let (text, broken, rest) ← plainScalar x.inFlow (x.indent + 1) [] .none x.rest
    return { x.push (.scalar (String.ofList text) .plain) with rest, keyAllowed := broken }
  none

/-- Reads up to the end of the stream, at most `fuel` tokens. -/
def run : Nat → Lexer → Option (List Token)
  | 0, _ => none
  | fuel + 1, x => do
    let (keyAllowed, rest) := skipGaps x.inFlow x.keyAllowed x.rest
    let x ← { x with rest, keyAllowed }.dropStaleKeys
    let x := x.closeBlocks x.column
    let c := Glyph.head rest
    if isEnd c then
      let x ← (x.closeBlocks (-1)).dropKey
      return x.tokens.reverse
    run fuel (← x.token c (Glyph.peek rest 1))

end Lexer

/-- The tokens of a stream, if it is well formed so far. -/
def Token.ofText? (text : String) : Option (List Token) := do
  let gs ← Glyph.ofText text
  Lexer.run (gs.length + 1) (Lexer.start gs)

end ApiScaffold.Yaml
