/-
The nodes of a YAML document, read from its tokens. A stream holds one document at most. Aliases stay
in the tree; `Document.expanded?` puts copies of what they stand for in their places, within bounds
on the depth of the tree and on the number of copies.
-/
import ApiScaffold.Yaml.Token.Lexer

namespace ApiScaffold.Yaml

inductive Node where
  /-- Where a document has no content at all. -/
  | void
  | scalar (text : String) (style : Style) (tag? : Option String)
  | sequence (tag? : Option String) (items : List Node)
  | mapping (tag? : Option String) (entries : List (Node × Node))
  /-- A copy of the node that an anchor's slot holds in the end. -/
  | alias (slot : Nat)
  deriving Inhabited

namespace Node

def empty : Node := .scalar "" .plain none

end Node

/-- A node that an anchor marks. -/
structure AnchoredNode where
  /-- The number by which aliases know it. -/
  slot : Nat
  /-- How many parts of the document begin or end before it. -/
  place : Nat
  node : Node

structure Document where
  root : Node
  anchored : List AnchoredNode
  /-- The number of scalars and aliases and of starts and ends of collections. -/
  size : Nat

/-! ## Reading tokens -/

structure NodeReader where
  tokens : List Token
  /-- What tag handles stand for, the first entry of a handle counts. -/
  handles : List (String × String)
  /-- The slots of anchors by name, the latest first. -/
  slots : List (String × Nat)
  anchored : List AnchoredNode
  size : Nat

namespace NodeReader

abbrev Step := StateT NodeReader Option

def peek : Step (Option Token) := return (← get).tokens.head?

def next : Step Unit := modify fun r => { r with tokens := r.tokens.drop 1 }

/-- Steps over a token if it comes next. -/
def accept (t : Token) : Step Bool := do
  if (← peek) == some t then
    next
    return true
  return false

def require (t : Token) : Step Unit := do
  if !(← accept t) then failure

def count : Step Unit := modify fun r => { r with size := r.size + 1 }

def emptyScalar : Step Node := do
  count
  return .empty

/-- An empty scalar if one of the tokens comes next. -/
def orEmpty (stops : List Token) (read : Step Node) : Step Node := do
  match ← peek with
  | some t => if stops.contains t then emptyScalar else read
  | none => read

/-- What a node begins with: its tag and the name that anchors it. -/
structure Properties where
  tag? : Option String
  anchor? : Option String

/-- The tag that a handle and a suffix stand for; with no handle it is the suffix. -/
def expandTag (handle suffix : String) : Step String := do
  if handle.isEmpty then return suffix
  match (← get).handles.lookup handle with
  | some stem => return stem ++ suffix
  | none => failure

def anchorName? : Step (Option String) := do
  match ← peek with
  | some (.anchor name) =>
    next
    return some name
  | _ => return none

def tag? : Step (Option String) := do
  match ← peek with
  | some (.tag handle suffix) =>
    next
    return some (← expandTag handle suffix)
  | _ => return none

/-- Reads a tag and an anchor, in either order. -/
def properties : Step Properties := do
  match ← anchorName? with
  | some name => return ⟨← tag?, some name⟩
  | none =>
    let tag ← tag?
    return ⟨tag, ← anchorName?⟩

/-- Counts the start of a node and gives its anchor a slot. A slot's number is the number of names
that stand for slots so far, so that a name used again can leave two names with one slot. -/
def begin (p : Properties) : Step (Option (Nat × Nat)) := do
  let r ← get
  let place := r.size
  count
  match p.anchor? with
  | none => return none
  | some name =>
    let slot := r.slots.length
    modify fun r => { r with slots := (name, slot) :: r.slots.filter (·.1 != name) }
    return some (slot, place)

/-- Keeps a node for the aliases of its slot. -/
def finish (slot? : Option (Nat × Nat)) (n : Node) : Step Node := do
  if let some (slot, place) := slot? then
    modify fun r => { r with anchored := ⟨slot, place, n⟩ :: r.anchored }
  return n

/-- Reads a scalar after its properties. -/
def scalar (p : Properties) (text : String) (style : Style) : Step Node := do
  let slot ← begin p
  finish slot (.scalar text style (if p.tag? == some "!" then none else p.tag?))

mutual

/-- Reads a node. Outside of flow collections it may be a block collection, and where
`indentless` is set also the items of a sequence at the indentation of the mapping around it. -/
def node (block indentless : Bool) : Nat → Step Node
  | 0 => failure
  | fuel + 1 => do
    match ← peek with
    | some (.alias name) =>
      next
      count
      match (← get).slots.lookup name with
      | some slot => return .alias slot
      | none => failure
    | _ =>
      let p ← properties
      let sequence (items : Step (List Node)) : Step Node := do
        let slot ← begin p
        let items ← items
        count
        finish slot (.sequence p.tag? items)
      let mapping (entries : Step (List (Node × Node))) : Step Node := do
        let slot ← begin p
        let entries ← entries
        count
        finish slot (.mapping p.tag? entries)
      match ← peek with
      | some .blockEntry =>
        if indentless then sequence (indentlessItems fuel)
        else if p.tag?.isSome || p.anchor?.isSome then scalar p "" .plain
        else failure
      | some (.scalar text style) =>
        next
        scalar p text style
      | some .flowSequenceStart =>
        next
        sequence (flowItems true fuel)
      | some .flowMappingStart =>
        next
        mapping (flowEntries true fuel)
      | t =>
        if block && t == some .blockSequenceStart then
          next
          sequence (blockItems fuel)
        else if block && t == some .blockMappingStart then
          next
          mapping (blockEntries fuel)
        else if p.tag?.isSome || p.anchor?.isSome then scalar p "" .plain
        else failure

/-- The items of a block sequence up to its end. -/
def blockItems : Nat → Step (List Node)
  | 0 => failure
  | fuel + 1 => do
    if ← accept .blockEntry then
      let item ← orEmpty [.blockEntry, .blockEnd] (node true false fuel)
      return item :: (← blockItems fuel)
    require .blockEnd
    return []

/-- The items of a sequence that has no indentation of its own. -/
def indentlessItems : Nat → Step (List Node)
  | 0 => failure
  | fuel + 1 => do
    if ← accept .blockEntry then
      let item ← orEmpty [.blockEntry, .key, .value, .blockEnd] (node true false fuel)
      return item :: (← indentlessItems fuel)
    return []

/-- The entries of a block mapping up to its end. -/
def blockEntries : Nat → Step (List (Node × Node))
  | 0 => failure
  | fuel + 1 => do
    if ← accept .key then
      let stops := [Token.key, .value, .blockEnd]
      let key ← orEmpty stops (node true true fuel)
      let value ← if ← accept .value then orEmpty stops (node true true fuel) else emptyScalar
      return (key, value) :: (← blockEntries fuel)
    require .blockEnd
    return []

/-- The items of a flow sequence up to its end. An item may be a single mapping entry without
braces. -/
def flowItems (first : Bool) : Nat → Step (List Node)
  | 0 => failure
  | fuel + 1 => do
    if ← accept .flowSequenceEnd then return []
    if !first then require .flowEntry
    if ← accept .key then
      count
      let stops := [Token.flowEntry, .flowSequenceEnd]
      let key ← match ← peek with
        | some t =>
          if t == .value || stops.contains t then do
            next
            emptyScalar
          else node false false fuel
        | none => failure
      let value ← if ← accept .value then orEmpty stops (node false false fuel) else emptyScalar
      count
      return .mapping none [(key, value)] :: (← flowItems false fuel)
    if ← accept .flowSequenceEnd then return []
    let item ← node false false fuel
    return item :: (← flowItems false fuel)

/-- The entries of a flow mapping up to its end. A node without a key indicator is a key without a
value. -/
def flowEntries (first : Bool) : Nat → Step (List (Node × Node))
  | 0 => failure
  | fuel + 1 => do
    if ← accept .flowMappingEnd then return []
    if !first then require .flowEntry
    if ← accept .key then
      let stops := [Token.flowEntry, .flowMappingEnd]
      let key ← orEmpty (.value :: stops) (node false false fuel)
      let value ← if ← accept .value then orEmpty stops (node false false fuel) else emptyScalar
      return (key, value) :: (← flowEntries false fuel)
    if ← accept .flowMappingEnd then return []
    let key ← node false false fuel
    let value ← emptyScalar
    return (key, value) :: (← flowEntries false fuel)

end

/-- Reads the directives before a document: one version at most, and no handle twice. -/
def directives (versionSeen : Bool) (handles : List (String × String)) :
    List Token → Option (List (String × String) × List Token)
  | .version major minor :: ts =>
    if versionSeen || major != 1 || (minor != 1 && minor != 2) then none
    else directives true handles ts
  | .tagDirective handle stem :: ts =>
    if (handles.lookup handle).isSome then none
    else directives versionSeen (handles ++ [(handle, stem)]) ts
  | ts => some (handles, ts)

/-- The handles that every document knows. -/
def standardHandles : List (String × String) := [("!", "!"), ("!!", "tag:yaml.org,2002:")]

end NodeReader

open NodeReader in
/-- The document of a stream. -/
def Document.ofTokens? (tokens : List Token) : Option Document :=
  if tokens.isEmpty then some ⟨.void, [], 1⟩
  else do
    let (handles, body) ← directives false [] tokens
    let explicit := body.head? == some .documentStart
    if !explicit && body.length != tokens.length then none
    let body := if explicit then body.drop 1 else body
    let read : Step Node := do
      let tokens := (← get).tokens
      if explicit && (tokens.isEmpty || tokens.head? == some .documentStart || tokens.head? == some .documentEnd) then
        emptyScalar
      else node true false (3 * tokens.length + 3)
    let (root, r) ← read.run ⟨body, handles ++ standardHandles, [], [], 0⟩
    if r.tokens.any (· != .documentEnd) then none
    return ⟨root, r.anchored, r.size⟩

namespace Document

/-- How deep the collections of a document may be nested. -/
def maxDepth : Nat := 128

/-- The node that the aliases of a slot stand for: the last that begins. -/
def target? (d : Document) (slot : Nat) : Option Node :=
  (d.anchored.foldl (fun best a =>
    if a.slot != slot then best
    else match best with
      | some (b : AnchoredNode) => if b.place < a.place then some a else best
      | none => some a) none).map (·.node)

/-- Copies a node, with copies of what its aliases stand for; `left` is the number of further copies
allowed. -/
def expand (d : Document) : Nat → Node → StateT Nat Option Node
  | depth, .alias slot => do
    let left ← get
    if left == 0 then failure
    set (left - 1)
    match d.target? slot with
    | some (.sequence tag items) => collection depth (.sequence tag items)
    | some (.mapping tag entries) => collection depth (.mapping tag entries)
    | some n => return n
    | none => failure
  | depth, n => collection depth n
where
  collection : Nat → Node → StateT Nat Option Node
    | 0, .sequence .. => failure
    | 0, .mapping .. => failure
    | depth + 1, .sequence tag items => return .sequence tag (← items.mapM (d.expand depth))
    | depth + 1, .mapping tag entries =>
      return .mapping tag (← entries.mapM fun (k, v) => return (← d.expand depth k, ← d.expand depth v))
    | _, n => return n

/-- The tree without aliases, unless it is too deep or has too many copies. -/
def expanded? (d : Document) : Option Node := (d.expand maxDepth d.root).run' (d.size * 100)

end Document

/-- Reads the one document of a stream. -/
def Node.read (text : String) : Option Node := do
  (← Document.ofTokens? (← Token.ofText? text)).expanded?

end ApiScaffold.Yaml
