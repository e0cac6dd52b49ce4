/-
Reading regular expressions. Groups nest, so the reader is recursive; flags that are set inside a
group end with it. A text that is no regular expression has no pattern.
-/
import ApiScaffold.Pattern
import ApiScaffold.Pattern.Property

namespace ApiScaffold.Pattern

/-- The settings that flags change. -/
structure Flags where
  /-- Case is ignored. -/
  foldCase : Bool
  /-- Anchors of lines, not of the text. -/
  multiLine : Bool
  /-- The dot matches line breaks. -/
  dotAll : Bool
  /-- Blanks and comments are skipped. -/
  verbose : Bool
  /-- A carriage return also ends a line. -/
  crlf : Bool
  /-- Classes know ASCII only. -/
  ascii : Bool

namespace Flags

/-- A set with the case of its characters forgotten if it does not count. -/
def folded (flags : Flags) (s : CharSet) : CharSet :=
  if !flags.foldCase then s
  else if flags.ascii then .union s (.inter .ascii (.foldCase s))
  else .foldCase s

/-- The complement of a set; where classes know ASCII only, none may leave it. -/
def complement? (flags : Flags) (s : CharSet) : Option CharSet :=
  if flags.ascii then none else some (.compl s)

end Flags

structure Reader where
  rest : List Char
  flags : Flags
  /-- The names of groups so far. -/
  names : List (List Char)

namespace Reader

abbrev Step := StateT Reader Option

def peek : Step (Option Char) := return (← get).rest.head?

def peekAt (n : Nat) : Step (Option Char) := return (← get).rest[n]?

def advance (n : Nat) : Step Unit := modify fun r => { r with rest := r.rest.drop n }

/-- Steps over a text if it comes next. -/
def accept (s : String) : Step Bool := do
  if s.toList.isPrefixOf (← get).rest then
    advance s.length
    return true
  return false

def require (s : String) : Step Unit := do
  if !(← accept s) then failure

def next : Step Char := do
  match ← peek with
  | some c =>
    advance 1
    return c
  | none => failure

/-- The rest after blanks and comments. -/
def dropBlanks (inComment : Bool) : List Char → List Char
  | [] => []
  | c :: cs =>
    if inComment then dropBlanks (c != '\n') cs
    else if Text.isBlank c then dropBlanks false cs
    else if c == '#' then dropBlanks true cs
    else c :: cs

/-- Skips blanks and comments if they do not count. -/
def skipBlanks : Step Unit :=
  modify fun r => if r.flags.verbose then { r with rest := dropBlanks false r.rest } else r

/-! ## Characters and classes -/

/-- What a backslash and the characters after it denote. -/
inductive Escape where
  | char (c : Char)
  | set (s : CharSet)
  | anchor (a : Anchor)

def hexValue? (c : Char) : Option Nat :=
  if c.isDigit then some (c.toNat - '0'.toNat)
  else if 'a' ≤ c && c ≤ 'f' then some (c.toNat - 'a'.toNat + 10)
  else if 'A' ≤ c && c ≤ 'F' then some (c.toNat - 'A'.toNat + 10)
  else none

/-- The character of a code point in hexadecimal. -/
def hexChar? (ds : List Char) : Option Char := do
  let n ← ds.foldlM (fun n c => (hexValue? c).map (n * 16 + ·)) 0
  if !ds.isEmpty && (n < 0xD800 || (0xDFFF < n && n ≤ 0x10FFFF)) then some (Char.ofNat n) else none

/-- A code point of `count` digits, or of any number of digits in braces. -/
def hexEscape (count : Nat) : Step Char := do
  skipBlanks
  if ← accept "\x7b" then
    let ds := (← get).rest.takeWhile (hexValue? · |>.isSome)
    advance ds.length
    require "\x7d"
    (hexChar? ds : Option Char)
  else
    let ds := (← get).rest.take count
    advance count
    if ds.length < count then failure
    (hexChar? ds : Option Char)

def asciiRanges (rs : List (Char × Char)) : CharSet :=
  rs.foldr (fun r acc => .union (.range r.1.toNat r.2.toNat) acc) .empty

def asciiWord : CharSet := asciiRanges [('a', 'z'), ('A', 'Z'), ('0', '9'), ('_', '_')]

def asciiBlank : CharSet := asciiRanges [('\t', '\r'), (' ', ' ')]

def asciiDigit : CharSet := asciiRanges [('0', '9')]

/-- The classes `d`, `s` and `w`. -/
def classOf? (ascii : Bool) (c : Char) : Option CharSet :=
  match c with
  | 'd' => some (if ascii then asciiDigit else .digit)
  | 's' => some (if ascii then asciiBlank else .blank)
  | 'w' => some (if ascii then asciiWord else .word)
  | _ => none

/-- The classes in brackets and colons. -/
def namedClass? (name : String) : Option CharSet :=
  match name with
  | "alnum" => some (asciiRanges [('0', '9'), ('A', 'Z'), ('a', 'z')])
  | "alpha" => some (asciiRanges [('A', 'Z'), ('a', 'z')])
  | "ascii" => some (.range 0 0x7F)
  | "blank" => some (asciiRanges [('\t', '\t'), (' ', ' ')])
  | "cntrl" => some (.union (.range 0 0x1F) (.range 0x7F 0x7F))
  | "digit" => some asciiDigit
  | "graph" => some (.range 0x21 0x7E)
  | "lower" => some (asciiRanges [('a', 'z')])
  | "print" => some (.range 0x20 0x7E)
  | "punct" => some (asciiRanges [('!', '/'), (':', '@'), ('[', Char.ofNat 0x60), ('\x7b', '~')])
  | "space" => some asciiBlank
  | "upper" => some (asciiRanges [('A', 'Z')])
  | "word" => some asciiWord
  | "xdigit" => some (asciiRanges [('0', '9'), ('A', 'F'), ('a', 'f')])
  | _ => none

/-- A property after `p` or `P`. -/
def propertySet (negated : Bool) : Step CharSet := do
  let flags := (← get).flags
  if flags.ascii then failure
  let c ← next
  let name ←
    if c == '\x7b' then do
      let name := (← get).rest.takeWhile (· != '\x7d')
      advance name.length
      require "\x7d"
      pure name
    else pure [c]
  let s ← (CharSet.ofProperty? name : Option CharSet)
  return if negated then .compl (flags.folded s) else s

/-- The boundaries named in braces. -/
def namedBoundary? (name : String) (letters : CharSet) : Option Anchor :=
  match name with
  | "start" => some (.wordStart letters)
  | "end" => some (.wordEnd letters)
  | "start-half" => some (.wordStartHalf letters)
  | "end-half" => some (.wordEndHalf letters)
  | _ => none

/-- A boundary after `b`, with a name in braces or without. -/
def boundary (letters : CharSet) : Step Anchor := do
  let isName (c : Char) : Bool := c.isAlpha || c == '-'
  if (← peek) == some '\x7b' && (← peekAt 1).any isName then
    advance 1
    let name := (← get).rest.takeWhile isName
    advance name.length
    require "\x7d"
    (namedBoundary? (String.ofList name) letters : Option Anchor)
  else return .boundary letters

/-- Whether a backslash makes a character stand for itself. -/
def standsForItself (c : Char) : Bool := c.toNat < 128 && !c.isAlphanum && c != '<' && c != '>'

/-- What follows a backslash. -/
def escape : Step Escape := do
  let c ← next
  let flags := (← get).flags
  let letters := if flags.ascii then asciiWord else CharSet.word
  match c with
  | 'x' => return .char (← hexEscape 2)
  | 'u' => return .char (← hexEscape 4)
  | 'U' => return .char (← hexEscape 8)
  | 'p' => return .set (← propertySet false)
  | 'P' => return .set (← propertySet true)
  | 'a' => return .char (Char.ofNat 0x07)
  | 'f' => return .char (Char.ofNat 0x0C)
  | 't' => return .char '\t'
  | 'n' => return .char '\n'
  | 'r' => return .char '\r'
  | 'v' => return .char (Char.ofNat 0x0B)
  | 'A' => return .anchor .textStart
  | 'z' => return .anchor .textEnd
  | 'b' => return .anchor (← boundary letters)
  | 'B' => return .anchor (.notBoundary letters)
  | '<' => return .anchor (.wordStart letters)
  | '>' => return .anchor (.wordEnd letters)
  | _ =>
    match classOf? flags.ascii c with
    | some s => return .set s
    | none =>
      match classOf? flags.ascii c.toLower with
      | some s => return .set (← (flags.complement? s : Option CharSet))
      | none => if standsForItself c then return .char c else failure

/-! ## Bracket expressions -/

/-- A class such as `[:alpha:]`, if one comes next, whether it is negated, and the rest. -/
def asciiClass? (rest : List Char) : Option (CharSet × Bool × List Char) :=
  match rest with
  | '[' :: ':' :: rest => do
    let (negated, rest) := match rest with
      | '^' :: rest => (true, rest)
      | rest => (false, rest)
    let name := rest.takeWhile (· != ':')
    let s ← namedClass? (String.ofList name)
    match rest.drop name.length with
    | ':' :: ']' :: rest => some (s, negated, rest)
    | _ => none
  | _ => none

/-- A character or class of a bracket expression; a place has no meaning there. -/
def bracketItem : Step (Char ⊕ CharSet) := do
  if ← accept "\\" then
    match ← escape with
    | .char c => member c
    | .set s => return .inr s
    | .anchor _ => failure
  else member (← next)
where
  /-- Where classes know ASCII only, other characters are no members. -/
  member (c : Char) : Step (Char ⊕ CharSet) := do
    if (← get).flags.ascii && c.toNat ≥ 128 then failure
    return .inl c

/-- A character, a class or a range of a bracket expression. -/
def bracketRange : Step CharSet := do
  let first ← bracketItem
  let itemSet (i : Char ⊕ CharSet) : CharSet := match i with
    | .inl c => .single c
    | .inr s => s
  skipBlanks
  if (← peek) != some '-' then return itemSet first
  let beyond := (if (← get).flags.verbose then dropBlanks false else id) ((← get).rest.drop 1)
  if beyond.isEmpty then failure
  if beyond.head? == some ']' || beyond.head? == some '-' then return itemSet first
  modify fun r => { r with rest := beyond }
  match first, ← bracketItem with
  | .inl lo, .inl hi => if lo ≤ hi then return .range lo.toNat hi.toNat else failure
  | _, _ => failure

/-- How two sets of a bracket expression are combined. -/
inductive SetOp where
  | inter
  | diff
  | symmDiff

def SetOp.apply (flags : Flags) (pending : Option (SetOp × CharSet)) (s : CharSet) : CharSet :=
  match pending with
  | none => flags.folded s
  | some (op, t) =>
    let s := flags.folded s
    match op with
    | .inter => .inter t s
    | .diff => t.diff s
    | .symmDiff => t.symmDiff s

def operator? : Step (Option SetOp) := do
  if ← accept "&&" then return some .inter
  if ← accept "--" then return some .diff
  if ← accept "~~" then return some .symmDiff
  return none

/-- Hyphens at the start of a bracket expression stand for themselves. -/
def leadingHyphens (s : CharSet) : Nat → Step CharSet
  | 0 => return s
  | fuel + 1 => do
    if ← accept "-" then
      skipBlanks
      leadingHyphens (.single '-') fuel
    else return s

/-- What follows an opening bracket up to its closing one. -/
def bracket : Nat → Step CharSet
  | 0 => failure
  | fuel + 1 => do
    skipBlanks
    let negated ← accept "^"
    skipBlanks
    let hyphens ← leadingHyphens .empty ((← get).rest.length)
    let start ← match hyphens with
      | .empty => do if ← accept "]" then pure (CharSet.single ']') else pure .empty
      | s => pure s
    let s ← members start none fuel
    if negated then ((← get).flags.complement? s : Option CharSet) else return s
where
  /-- The members from `sofar` on; `pending` is the left side of an operator. -/
  members (sofar : CharSet) (pending : Option (SetOp × CharSet)) : Nat → Step CharSet
    | 0 => failure
    | fuel + 1 => do
      skipBlanks
      let r ← get
      match asciiClass? r.rest with
      | some (s, negated, rest) =>
        modify fun r => { r with rest }
        let s ← if negated then (r.flags.complement? (r.flags.folded s) : Option CharSet) else pure s
        members (.union sofar s) pending fuel
      | none =>
        if ← accept "[" then
          let s ← bracket fuel
          members (.union sofar s) pending fuel
        else if ← accept "]" then return SetOp.apply r.flags pending sofar
        else match ← operator? with
          | some op => members .empty (some (op, SetOp.apply r.flags pending sofar)) fuel
          | none => do
            let s ← bracketRange
            members (.union sofar s) pending fuel

/-! ## Groups and repetitions -/

/-- Gives a flag its value. -/
def setFlag? (flags : Flags) (c : Char) (on : Bool) : Option Flags :=
  match c with
  | 'i' => some { flags with foldCase := on }
  | 'm' => some { flags with multiLine := on }
  | 's' => some { flags with dotAll := on }
  | 'x' => some { flags with verbose := on }
  | 'R' => some { flags with crlf := on }
  | 'u' => some { flags with ascii := !on }
  | 'U' => some flags
  | _ => none

/-- Reads flags, each once and at most one minus sign, which is not the last. -/
def readFlags (flags : Flags) (on : Bool) (seen : List Char) : List Char → Option (Flags × List Char × Bool)
  | [] => none
  | c :: rest =>
    if c == ':' || c == ')' then
      if seen.head? == some '-' then none else some (flags, c :: rest, !seen.isEmpty)
    else if seen.contains c then none
    else if c == '-' then readFlags flags false (c :: seen) rest
    else (setFlag? flags c on).bind fun flags => readFlags flags on (c :: seen) rest

/-- The name of a group up to its closing angle. -/
def groupName : Step Unit := do
  let r ← get
  let name := r.rest.takeWhile (· != '>')
  let isLetter (c : Char) : Bool := c == '_' || Text.isAlphabetic c
  let isNameChar (c : Char) : Bool := c == '_' || c == '.' || c == '[' || c == ']' || Text.isAlphanumeric c
  match name with
  | [] => failure
  | c :: cs =>
    if !isLetter c || !cs.all isNameChar || r.names.contains name then failure
    modify fun r => { r with rest := r.rest.drop name.length, names := name :: r.names }
    require ">"

/-- Runs a reader and undoes its changes of flags. -/
def withFlagsKept (p : Step α) : Step α := do
  let flags := (← get).flags
  let a ← p
  modify fun r => { r with flags }
  return a

def decimal : Step (Option Nat) := do
  let trim := modify fun r => { r with rest := r.rest.dropWhile Text.isBlank }
  trim
  let ds := (← get).rest.takeWhile Char.isDigit
  advance ds.length
  trim
  if ds.isEmpty then return none
  let n := ds.foldl (fun n c => n * 10 + (c.toNat - '0'.toNat)) 0
  if n < Nat.pow 2 32 then return some n else failure

/-- The bounds of a repetition after its opening brace. -/
def bounds : Step (Nat × Option Nat) := do
  skipBlanks
  let least? ← decimal
  let least : Nat ← (least? : Option Nat)
  let most ← if ← accept "," then do
      skipBlanks
      if (← peek) == some '\x7d' then pure none
      else do
        let most : Nat ← ((← decimal) : Option Nat)
        pure (some most)
    else pure (some least)
  require "\x7d"
  skipBlanks
  if most.any (· < least) then failure
  return (least, most)

/-- A character or class outside of brackets. -/
def ofSet (s : CharSet) : Step Pattern := return .set ((← get).flags.folded s)

/-- A pattern that is a single character, class or condition. -/
def primitive (fuel : Nat) : Step Pattern := do
  let flags := (← get).flags
  match ← next with
  | '\\' =>
    match ← escape with
    | .char c => ofSet (.single c)
    | .set s => ofSet s
    | .anchor a => return .anchor a
  | '.' =>
    if flags.ascii then failure
    else if flags.dotAll then return .set .all
    else if flags.crlf then return .set (.compl (.union (.single '\n') (.single '\r')))
    else return .set (.compl (.single '\n'))
  | '^' => return .anchor (if flags.multiLine then .lineStart flags.crlf else .textStart)
  | '$' => return .anchor (if flags.multiLine then .lineEnd flags.crlf else .textEnd)
  | '[' => return .set (← bracket fuel)
  | c => ofSet (.single c)

/-- Concatenates patterns given last first. -/
def concat (ps : List Pattern) : Pattern :=
  match ps with
  | [] => .empty
  | p :: ps => ps.foldl (fun acc q => .seq q acc) p

/-- Reads up to the end of a group or of the text. `branches` are the alternatives so far and `items`
the parts of the current one, last first; `repeatable` says whether the last part may be repeated. -/
def group (branches items : List Pattern) (repeatable : Bool) : Nat → Step Pattern
  | 0 => failure
  | fuel + 1 => do
    skipBlanks
    let finish := branches.foldl (fun acc b => .alt b acc) (concat items)
    let repeated (least : Nat) (most : Option Nat) : Step Pattern := do
      match repeatable, items with
      | true, p :: ps => group branches (.repeated p least most :: ps) true fuel
      | _, _ => failure
    let simple (least : Nat) (most : Option Nat) : Step Pattern := do
      advance 1
      let _ ← accept "?"
      repeated least most
    match ← peek with
    | none => return finish
    | some ')' => return finish
    | some '|' =>
      advance 1
      group (concat items :: branches) [] false fuel
    | some '*' => simple 0 none
    | some '+' => simple 1 none
    | some '?' => simple 0 (some 1)
    | some '\x7b' =>
      advance 1
      let (least, most) ← bounds
      let _ ← accept "?"
      repeated least most
    | some '(' =>
      advance 1
      skipBlanks
      if (← accept "?P<") || (← accept "?<") then
        if (← peek) == some '=' || (← peek) == some '!' then failure
        groupName
        let p ← withFlagsKept (group [] [] false fuel)
        require ")"
        group branches (p :: items) true fuel
      else if ← accept "?" then
        let r ← get
        let (flags, rest, any) ← (readFlags r.flags true [] r.rest : Option (Flags × List Char × Bool))
        modify fun r => { r with rest }
        if ← accept ")" then
          if !any then failure
          modify fun r => { r with flags }
          group branches items false fuel
        else
          require ":"
          let p ← withFlagsKept do
            modify fun r => { r with flags }
            group [] [] false fuel
          require ")"
          group branches (p :: items) true fuel
      else
        let p ← withFlagsKept (group [] [] false fuel)
        require ")"
        group branches (p :: items) true fuel
    | some _ =>
      let p ← primitive fuel
      group branches (p :: items) true fuel

end Reader

/-- Patterns that would grow beyond this size are refused. -/
def maxSize : Nat := 250000

/-- The pattern that a text denotes. -/
def read (text : String) : Option Pattern := do
  let cs := text.toList
  let flags : Flags := ⟨false, false, false, false, false, false⟩
  let (p, r) ← (Reader.group [] [] false (2 * cs.length + 2)).run ⟨cs, flags, []⟩
  if r.rest.isEmpty && p.size ≤ maxSize then some p else none

end ApiScaffold.Pattern
