/-
The tokens of a YAML stream, and the scalars inside them. Each reader takes the text at the start of
its token and answers with what it read and the text that follows, or nothing if the text is
malformed.
-/
import ApiScaffold.Yaml.Glyph

namespace ApiScaffold.Yaml

/-- How a scalar is written. -/
inductive Style where
  | plain
  | singleQuoted
  | doubleQuoted
  | literal
  | folded
  deriving DecidableEq, Repr, Inhabited

inductive Token where
  | version (major minor : Nat)
  | tagDirective (handle stem : String)
  | documentStart
  | documentEnd
  | blockSequenceStart
  | blockMappingStart
  | blockEnd
  | flowSequenceStart
  | flowSequenceEnd
  | flowMappingStart
  | flowMappingEnd
  | blockEntry
  | flowEntry
  | key
  | value
  | alias (name : String)
  | anchor (name : String)
  | tag (handle suffix : String)
  | scalar (text : String) (style : Style)
  deriving DecidableEq, Repr, Inhabited

/-! ## Blanks inside scalars -/

/-- Blanks and line breaks that were read and not yet written, in reverse. -/
structure Pending where
  spaces : List Char
  /-- Whether a line break was read; blanks after it do not count. -/
  broken : Bool
  /-- The first line break, unless it was escaped. -/
  first : Option Char
  /-- The line breaks after the first. -/
  more : List Char

namespace Pending

def none : Pending := ⟨[], false, Option.none, []⟩

def isNone (p : Pending) : Bool := p.spaces.isEmpty && !p.broken

/-- A blank or line break more. -/
def push (p : Pending) (c : Char) : Pending :=
  if isBreak c then
    if p.broken then { p with more := c :: p.more } else ⟨[], true, some c, []⟩
  else if p.broken then p
  else { p with spaces := c :: p.spaces }

/-- What stands in the scalar for them: a single line feed is folded into a blank. -/
def fold (p : Pending) : List Char :=
  if p.broken then
    match p.first with
    | some c =>
      if c == '\n' then if p.more.isEmpty then [' '] else p.more.reverse
      else c :: p.more.reverse
    | Option.none => p.more.reverse
  else p.spaces.reverse

end Pending

/-! ## Plain scalars -/

/-- Whether a plain scalar ends before a character that is not a gap. -/
def endsPlain (flow : Bool) (c next : Char) : Bool :=
  (c == ':' && isGap next) ||
    (flow && (c == ',' || c == '[' || c == ']' || c == '\x7b' || c == '\x7d'))

/-- A colon that is no separator and must not stand before this character in a flow collection. -/
def isStrayColon (flow : Bool) (c next : Char) : Bool :=
  flow && c == ':' &&
    (next == ',' || next == '?' || next == '[' || next == ']' || next == '\x7b' || next == '\x7d')

/-- Reads a plain scalar, whose lines after the first are indented by `indent` columns at least. Also
tells whether a line break stands between it and what follows. -/
def plainScalar (flow : Bool) (indent : Int) (done : List Char) (p : Pending) :
    List Glyph → Option (List Char × Bool × List Glyph)
  | [] => Option.none
  | g :: rest =>
    let c := g.char
    let stop := some (done.reverse, p.broken, g :: rest)
    if isEnd c then stop
    else if isSpace c || isBreak c then
      if c == '\t' && p.broken && (g.column : Int) < indent then Option.none
      else plainScalar flow indent done (p.push c) rest
    else
      let fresh := !p.isNone || done.isEmpty
      if !p.isNone && !flow && (g.column : Int) < indent then stop
      else if fresh && (Glyph.atDocumentMark (g :: rest) || c == '#') then stop
      else if isStrayColon flow c (Glyph.head rest) then Option.none
      else if endsPlain flow c (Glyph.head rest) then stop
      else plainScalar flow indent (c :: p.fold.reverse ++ done) .none rest

/-! ## Quoted scalars -/

/-- Where the reader of a quoted scalar stands. -/
inductive QuoteMode where
  | text
  /-- The next character was taken care of. -/
  | skip
  | escape
  | hex (left value : Nat)

/-- The character that a one-letter escape stands for. -/
def escaped? (c : Char) : Option Char :=
  match c with
  | '0' => some (Char.ofNat 0)
  | 'a' => some (Char.ofNat 0x07)
  | 'b' => some (Char.ofNat 0x08)
  | 't' => some '\t'
  | '\t' => some '\t'
  | 'n' => some '\n'
  | 'v' => some (Char.ofNat 0x0B)
  | 'f' => some (Char.ofNat 0x0C)
  | 'r' => some '\r'
  | 'e' => some (Char.ofNat 0x1B)
  | ' ' => some ' '
  | '"' => some '"'
  | '/' => some '/'
  | '\\' => some '\\'
  | 'N' => some (Char.ofNat 0x85)
  | '_' => some (Char.ofNat 0xA0)
  | 'L' => some (Char.ofNat 0x2028)
  | 'P' => some (Char.ofNat 0x2029)
  | _ => Option.none

/-- The number of hexadecimal digits after an escape letter. -/
def hexLength? (c : Char) : Option Nat :=
  match c with
  | 'x' => some 2
  | 'u' => some 4
  | 'U' => some 8
  | _ => Option.none

def hexValue? (c : Char) : Option Nat :=
  if c.isDigit then some (c.toNat - '0'.toNat)
  else if 'a' ≤ c && c ≤ 'f' then some (c.toNat - 'a'.toNat + 10)
  else if 'A' ≤ c && c ≤ 'F' then some (c.toNat - 'A'.toNat + 10)
  else Option.none

/-- Code points that are characters. -/
def isScalarValue (n : Nat) : Bool := n ≤ 0x10FFFF && !(0xD800 ≤ n && n ≤ 0xDFFF)

/-- Reads a quoted scalar after its opening quote. -/
def quotedScalar (single : Bool) (mode : QuoteMode) (done : List Char) (p : Pending) :
    List Glyph → Option (List Char × List Glyph)
  | [] => Option.none
  | g :: rest =>
    let c := g.char
    match mode with
    | .skip => quotedScalar single .text done p rest
    | .escape =>
      match escaped? c, hexLength? c with
      | some e, _ => quotedScalar single .text (e :: done) p rest
      | _, some n => quotedScalar single (.hex n 0) done p rest
      | _, _ => Option.none
    | .hex left value =>
      match hexValue? c with
      | Option.none => Option.none
      | some d =>
        let value := value * 16 + d
        if left ≤ 1 then
          if isScalarValue value then quotedScalar single .text (Char.ofNat value :: done) p rest
          else Option.none
        else quotedScalar single (.hex (left - 1) value) done p rest
    | .text =>
      if isEnd c || Glyph.atDocumentMark (g :: rest) then Option.none
      else if isSpace c || isBreak c then quotedScalar single .text done (p.push c) rest
      else
        let done := p.fold.reverse ++ done
        if single then
          if c == '\'' then
            if Glyph.head rest == '\'' then quotedScalar single .skip ('\'' :: done) .none rest
            else some (done.reverse, rest)
          else quotedScalar single .text (c :: done) .none rest
        else if c == '"' then some (done.reverse, rest)
        else if c == '\\' then
          if isBreak (Glyph.head rest) then
            quotedScalar single .skip done ⟨[], true, Option.none, []⟩ rest
          else quotedScalar single .escape done .none rest
        else quotedScalar single .text (c :: done) .none rest

/-! ## Block scalars -/

/-- What becomes of the line breaks at the end of a block scalar. -/
inductive Chomping where
  | strip
  | clip
  | keep
  deriving DecidableEq, Repr

def chomping? (c : Char) : Option Chomping :=
  if c == '-' then some .strip else if c == '+' then some .keep else Option.none

/-- The chomping and the explicit indentation after the indicator of a block scalar, in either
order. -/
def blockHeader (gs : List Glyph) : Option (Chomping × Nat × List Glyph) :=
  let digit (c : Char) : Nat := c.toNat - '0'.toNat
  match chomping? (Glyph.head gs) with
  | some chomping =>
    let rest := gs.drop 1
    let c := Glyph.head rest
    if !c.isDigit then some (chomping, 0, rest)
    else if c == '0' then Option.none
    else some (chomping, digit c, rest.drop 1)
  | Option.none =>
    let c := Glyph.head gs
    if !c.isDigit then some (.clip, 0, gs)
    else if c == '0' then Option.none
    else
      let rest := gs.drop 1
      match chomping? (Glyph.head rest) with
      | some chomping => some (chomping, digit c, rest.drop 1)
      | Option.none => some (.clip, digit c, rest)

/-- The rest of a line that may only hold blanks and a comment, without its line break. -/
def skipComment (gs : List Glyph) : Option (List Glyph) :=
  let gs := gs.dropWhile fun g => isSpace g.char
  let gs := if Glyph.head gs == '#' then gs.dropWhile fun g => !(isBreak g.char || isEnd g.char) else gs
  if isBreak (Glyph.head gs) then some (gs.drop 1)
  else if isEnd (Glyph.head gs) then some gs
  else Option.none

/-- Reads indentation and empty lines up to the next line of text, with the line breaks in reverse.
An `indent` of 0 is found out: the widest column reached, but more than `least`. -/
def blockBreaks (indent : Nat) (least : Int) (widest : Nat) (breaks : List Char) :
    List Glyph → Option (Nat × List Char × List Glyph)
  | [] => Option.none
  | g :: rest =>
    let inside := indent == 0 || g.column < indent
    if inside && g.char == ' ' then blockBreaks indent least widest breaks rest
    else
      let widest := max widest g.column
      if inside && g.char == '\t' then Option.none
      else if isBreak g.char then blockBreaks indent least widest (g.char :: breaks) rest
      else
        let found := if indent == 0 then max (max widest (least + 1).toNat) 1 else indent
        some (found, breaks, g :: rest)

/-- The lines of a block scalar: the text so far in reverse, the line break after its last line, and
the line breaks of the empty lines that follow. -/
def blockLines (literal : Bool) (indent : Nat) : Nat → List Char → Option Char → List Char → Bool →
    List Glyph → Option (List Char × Option Char × List Char × List Glyph)
  | 0, _, _, _, _, _ => Option.none
  | fuel + 1, done, last, more, lastBlank, gs =>
    if (gs.head?.map (·.column)) != some indent || isEnd (Glyph.head gs) then some (done, last, more, gs)
    else
      let blank := isSpace (Glyph.head gs)
      let joint := if !literal && last == some '\n' && !lastBlank && !blank then
          if more.isEmpty then [' '] else []
        else last.toList
      let (line, rest) := Glyph.span (fun c => !(isBreak c || isEnd c)) gs
      let done := line.reverse ++ more ++ joint ++ done
      let next := if isBreak (Glyph.head rest) then some (Glyph.head rest) else Option.none
      let rest := if next.isSome then rest.drop 1 else rest
      match blockBreaks indent 0 0 [] rest with
      | Option.none => Option.none
      | some (_, more, rest) => blockLines literal indent fuel done next more blank rest

/-- Reads a block scalar after its indicator; `parent` is the indentation of the block it is in. -/
def blockScalar (literal : Bool) (parent : Int) (gs : List Glyph) : Option (List Char × List Glyph) := do
  let (chomping, explicit, rest) ← blockHeader gs
  let rest ← skipComment rest
  let indent := if explicit == 0 then 0 else (if parent ≥ 0 then parent.toNat + explicit else explicit)
  let (indent, breaks, rest) ← blockBreaks indent parent 0 [] rest
  let (done, last, more, rest) ← blockLines literal indent (rest.length + 1) [] Option.none breaks false rest
  let tail := match chomping with
    | .strip => []
    | .clip => last.toList
    | .keep => last.toList ++ more.reverse
  return (done.reverse ++ tail, rest)

/-! ## Names, tags and directives -/

/-- Reads the name of an anchor or alias after its indicator. -/
def anchorName (gs : List Glyph) : Option (List Char × List Glyph) :=
  let (name, rest) := Glyph.span isNameChar gs
  let c := Glyph.head rest
  if name.isEmpty then Option.none
  else if isGap c || c == '?' || c == ':' || c == ',' || c == ']' || c == '\x7d' || c == '%' || c == '@' ||
      c.toNat == 0x60 then some (name, rest)
  else Option.none

/-- Characters of a tag; the verbatim form also allows flow indicators. -/
def isTagChar (verbatim : Bool) (c : Char) : Bool :=
  isNameChar c || [';', '/', '?', ':', '@', '&', '=', '+', '$', '.', '%', '!', '~', '*', '\'', '(', ')'].contains c ||
    (verbatim && (c == ',' || c == '[' || c == ']'))

/-- Reads the characters of a tag, undoing `%` escapes of ASCII characters; others are refused. -/
def tagChars (verbatim : Bool) (done : List Char) : List Glyph → Option (List Char × List Glyph)
  | [] => Option.none
  | g :: rest =>
    if !isTagChar verbatim g.char then some (done.reverse, g :: rest)
    else if g.char == '%' then
      match rest with
      | a :: b :: rest =>
        match hexValue? a.char, hexValue? b.char with
        | some x, some y =>
          if x < 8 then tagChars verbatim (Char.ofNat (x * 16 + y) :: done) rest else Option.none
        | _, _ => Option.none
      | _ => Option.none
    else tagChars verbatim (g.char :: done) rest

/-- Reads a handle: an exclamation mark, a name and perhaps another mark. -/
def tagHandle (gs : List Glyph) : Option (List Char × List Glyph) :=
  if Glyph.head gs != '!' then Option.none
  else
    let (name, rest) := Glyph.span isNameChar (gs.drop 1)
    if Glyph.head rest == '!' then some ('!' :: name ++ ['!'], rest.drop 1) else some ('!' :: name, rest)

/-- Whether a handle is one of the form `!name!`. -/
def isFullHandle (handle : List Char) : Bool :=
  handle.length ≥ 2 && handle.getLast? == some '!'

/-- Reads a tag. -/
def tagToken (flow : Bool) (gs : List Glyph) : Option (Token × List Glyph) := do
  let (handle, suffix, rest) ←
    if Glyph.peek gs 1 == '<' then do
      let (uri, rest) ← tagChars true [] (gs.drop 2)
      if uri.isEmpty || Glyph.head rest != '>' then Option.none
      else some ([], uri, rest.drop 1)
    else do
      let (handle, rest) ← tagHandle gs
      let (suffix, rest) ← tagChars false [] rest
      if isFullHandle handle then
        if suffix.isEmpty then Option.none else some (handle, suffix, rest)
      else
        let suffix := handle.drop 1 ++ suffix
        if suffix.isEmpty then some ([], ['!'], rest) else some (['!'], suffix, rest)
  let c := Glyph.head rest
  if isGap c || (flow && c == ',') then
    some (.tag (String.ofList handle) (String.ofList suffix), rest)
  else Option.none

/-- Reads a number of at most nine digits. -/
def versionNumber (gs : List Glyph) : Option (Nat × List Glyph) :=
  let (ds, rest) := Glyph.span Char.isDigit gs
  if ds.isEmpty || ds.length > 9 then Option.none
  else some (ds.foldl (fun n c => n * 10 + (c.toNat - '0'.toNat)) 0, rest)

/-- Reads a directive with its line. -/
def directive (gs : List Glyph) : Option (Token × List Glyph) := do
  let (name, rest) := Glyph.span isNameChar (gs.drop 1)
  if !isGap (Glyph.head rest) then Option.none
  let (blanks, rest) := Glyph.span isSpace rest
  let (token, rest) ←
    if name == ['Y', 'A', 'M', 'L'] then do
      let (major, rest) ← versionNumber rest
      if Glyph.head rest != '.' then Option.none
      let (minor, rest) ← versionNumber (rest.drop 1)
      some (Token.version major minor, rest)
    else if name == ['T', 'A', 'G'] && !blanks.isEmpty then do
      let (handle, rest) ← tagHandle rest
      if !isFullHandle handle && handle != ['!'] then Option.none
      if !isSpace (Glyph.head rest) then Option.none
      let (_, rest) := Glyph.span isSpace rest
      let (stem, rest) ← tagChars true [] rest
      if stem.isEmpty || !isGap (Glyph.head rest) then Option.none
      some (Token.tagDirective (String.ofList handle) (String.ofList stem), rest)
    else Option.none
  let rest ← skipComment rest
  return (token, rest)

end ApiScaffold.Yaml
