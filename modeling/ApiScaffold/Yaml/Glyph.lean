/-
The text of a YAML stream as characters with their places. Line breaks are made uniform first: a
carriage return, the pair of it and a line feed, and the next-line character all become a line feed.
The text ends in a `NUL`, which no stream may hold itself.
-/
namespace ApiScaffold.Yaml

/-- A character with its place, counted from 0. -/
structure Glyph where
  char : Char
  index : Nat
  line : Nat
  column : Nat
  deriving Repr, Inhabited

/-- Characters that a stream may hold. -/
def isPrintable (c : Char) : Bool :=
  let n := c.toNat
  n == 0x9 || n == 0xA || n == 0xD || (0x20 ≤ n && n ≤ 0x7E) || n == 0x85 || (0xA0 ≤ n && n ≤ 0xD7FF) ||
    (0xE000 ≤ n && n ≤ 0xFFFD) || 0x10000 ≤ n

/-- Line breaks, once they are uniform: the line feed and the line and paragraph separators. -/
def isBreak (c : Char) : Bool := c == '\n' || c.toNat == 0x2028 || c.toNat == 0x2029

def isSpace (c : Char) : Bool := c == ' ' || c == '\t'

def isEnd (c : Char) : Bool := c.toNat == 0

/-- A blank, a line break or the end of the text. -/
def isGap (c : Char) : Bool := isSpace c || isBreak c || isEnd c

/-- Characters of handles, anchors and directive names. -/
def isNameChar (c : Char) : Bool := c.isAlphanum || c == '_' || c == '-'

/-- Makes the line breaks uniform. -/
def uniformBreaks : List Char → List Char
  | [] => []
  | '\r' :: '\n' :: cs => '\n' :: uniformBreaks cs
  | c :: cs => (if c == '\r' || c.toNat == 0x85 then '\n' else c) :: uniformBreaks cs

namespace Glyph

/-- Gives the characters their places and appends the end. -/
def place : Nat → Nat → Nat → List Char → List Glyph
  | index, line, column, [] => [⟨Char.ofNat 0, index, line, column⟩]
  | index, line, column, c :: cs =>
    ⟨c, index, line, column⟩ ::
      (if isBreak c then place (index + 1) (line + 1) 0 cs else place (index + 1) line (column + 1) cs)

/-- The glyphs of a stream without a byte order mark, if all its characters are printable. -/
def ofText (text : String) : Option (List Glyph) :=
  let cs := match text.toList with
    | c :: cs => if c.toNat == 0xFEFF then cs else c :: cs
    | [] => []
  if cs.all isPrintable then some (place 0 0 0 (uniformBreaks cs)) else none

/-- The next character, the end if there is none. -/
def head (gs : List Glyph) : Char := (gs.head?.map (·.char)).getD (Char.ofNat 0)

/-- The character `n` places further on. -/
def peek (gs : List Glyph) (n : Nat) : Char := head (gs.drop n)

/-- Whether the text goes on with `---` or `...` and a gap. -/
def documentMark? (gs : List Glyph) : Option Char :=
  let c := peek gs 0
  if (c == '-' || c == '.') && peek gs 1 == c && peek gs 2 == c && isGap (peek gs 3) then some c else none

/-- Whether a document marker stands at the start of a line. -/
def atDocumentMark (gs : List Glyph) : Bool :=
  (gs.head?.map (·.column)) == some 0 && (documentMark? gs).isSome

/-- The characters up to the first that fails the test, and the rest. -/
def span (p : Char → Bool) (gs : List Glyph) : List Char × List Glyph :=
  ((gs.takeWhile fun g => p g.char).map (·.char), gs.dropWhile fun g => p g.char)

end Glyph

end ApiScaffold.Yaml
