/-
Rendering templates. Statements are carried out in order on a `Rendering`: what was written so far
and the names that have values. Templates that take in others and blocks that stand elsewhere are
reached by name, each such step one level deeper; the depth is limited.
-/
import ApiScaffold.Template.Filter
import ApiScaffold.Template.Reader

namespace ApiScaffold.Template

/-- What is known about a template name. -/
inductive Lookup where
  | source (text : String)
  | missing
  | unreadable
  deriving DecidableEq, Repr, Inhabited

/-- Values of names, the latest first. -/
abbrev Frame := List (String × Value)

/-- What is needed to go on with a block of a template. -/
structure BlockPlace where
  name : String
  /-- How many templates that inherit this one were passed over. -/
  level : Nat
  deriving Repr, Inhabited

structure Rendering where
  /-- What was written, last first. -/
  written : List String
  /-- The names that have values, innermost first. -/
  frames : List Frame
  /-- How many templates and blocks this one is inside of. -/
  depth : Nat
  /-- Whether characters with a meaning in markup are escaped. -/
  escaping : Bool
  /-- Whether output is dropped. -/
  muted : Bool
  /-- The bodies of every block, those of inheriting templates first. -/
  blocks : List (String × List (List Stmt))
  /-- The block that is being written. -/
  current : Option BlockPlace
  /-- The statements to go on with instead of those that follow. -/
  parent : Option (List Stmt)
  /-- The templates that inherit each other. -/
  chain : List String
  /-- The templates that were read, with their sources. -/
  used : List (String × String)

namespace Rendering

abbrev Step := StateT Rendering Option

/-- The greatest depth. -/
def maxDepth : Nat := 500

/-- How much deeper a template that is taken in lies. -/
def insertDepth : Nat := 10

/-- Names of templates whose output is markup, by their last part. -/
def isMarkupName (name : String) : Bool :=
  let cs := name.toList.reverse
  let cut := [".j2", ".jinja2", ".jinja"].find? fun s => s.toList.reverse.isPrefixOf cs
  let cs := match cut with
    | some s => cs.drop s.length
    | none => cs
  ["html", "htm", "xml"].contains (String.ofList (cs.takeWhile (· != '.')).reverse)

def escapeChar (c : Char) : List Char :=
  match c with
  | '<' => "&lt;".toList
  | '>' => "&gt;".toList
  | '&' => "&amp;".toList
  | '"' => "&quot;".toList
  | '\'' => "&#x27;".toList
  | '/' => "&#x2f;".toList
  | _ => [c]

def escape (s : String) : String := String.ofList (s.toList.flatMap escapeChar)

def write (s : String) : Step Unit :=
  modify fun r => if r.muted then r else { r with written := s :: r.written }

/-- The value of a name, undefined if it has none. -/
def lookup (name : String) : Step Value :=
  return ((← get).frames.findSome? (·.lookup name)).getD .undefined

/-- Gives a name a value in the innermost frame. -/
def store (name : String) (v : Value) : Step Unit :=
  modify fun r => match r.frames with
    | f :: fs => { r with frames := ((name, v) :: f.filter (·.1 != name)) :: fs }
    | [] => { r with frames := [[(name, v)]] }

/-- Goes deeper, within the limit. -/
def deepen (by_ : Nat) : Step Unit := do
  let r ← get
  if r.depth + by_ > maxDepth then failure
  set { r with depth := r.depth + by_ }

/-- Runs a step with a frame of its own. -/
def inFrame (p : Step α) : Step α := do
  deepen 1
  modify fun r => { r with frames := [] :: r.frames }
  let a ← p
  modify fun r => { r with frames := r.frames.drop 1, depth := r.depth - 1 }
  return a

mutual

def assign : Target → Value → Step Unit
  | .name name, v => store name v
  | .items ts, v =>
    match v with
    | .list xs => assignItems ts xs
    | .mapping es => assignItems ts (es.map fun e => .str e.1)
    | _ => failure

/-- Gives the items of a list to as many targets. -/
def assignItems : List Target → List Value → Step Unit
  | [], [] => return ()
  | t :: ts, x :: xs => do
    assign t x
    assignItems ts xs
  | _, _ => failure

end

/-! ## Expressions -/

def compare (op : Comparison) (a b : Value) : Bool :=
  match op with
  | .equal => a.equal b
  | .unequal => !a.equal b
  | .less => a.order b == .lt
  | .lessOrEqual => a.order b != .gt
  | .greater => a.order b == .gt
  | .greaterOrEqual => a.order b != .lt

/-- The opposite of a number. -/
def opposite? : Value → Option Value
  | .num (.int n) => some (.num (.int (-n)))
  | .num (.float x) => some (.num (.float { x with negative := !x.negative }))
  | _ => none

mutual

def eval : Expr → Step Value
  | .const v => return v
  | .var name => lookup name
  | .list items => return .list (← evalItems items)
  | .mapping entries => return .sorted (← evalEntries entries)
  | .attribute e name => do ((← eval e).attribute? name : Option Value)
  | .element e key => do
    let v ← eval e
    (v.element? (← eval key) : Option Value)
  | .filter e name args => do
    let v ← eval e
    (applyFilter name v (← evalItems args) : Option Value)
  | .test e name => do
    let b ← (applyTest name (← eval e) : Option Bool)
    return .bool b
  | .call _ _ => failure
  | .not e => return .bool !(← eval e).isTrue
  | .negate e => do (opposite? (← eval e) : Option Value)
  | .and a b => do
    let v ← eval a
    if v.isTrue then eval b else return v
  | .or a b => do
    let v ← eval a
    if v.isTrue then return v else eval b
  | .compare op a b => do
    let v ← eval a
    return .bool (compare op v (← eval b))
  | .isIn a b => do
    let v ← eval a
    let b ← ((← eval b).contains? v : Option Bool)
    return .bool b
  | .concat a b => do
    let v ← eval a
    return .str (v.print ++ (← eval b).print)
  | .choose condition a b => do
    if (← eval condition).isTrue then eval a
    else match b with
      | some b => eval b
      | none => return .undefined

def evalItems : List Expr → Step (List Value)
  | [] => return []
  | e :: es => do
    let v ← eval e
    return v :: (← evalItems es)

/-- The entries of a mapping, whose keys are strings. -/
def evalEntries : List (Expr × Expr) → Step (List (String × Value))
  | [] => return []
  | (k, e) :: es => do
    match ← eval k with
    | .str name =>
      let v ← eval e
      return (name, v) :: (← evalEntries es)
    | _ => failure

end

/-! ## Statements -/

/-- What a loop says about itself in a round. -/
def loopValue (items : List Value) (index : Nat) : Value :=
  let int (n : Nat) : Value := .num (.int n)
  let count := items.length
  .sorted [("index", int (index + 1)), ("index0", int index), ("first", .bool (index == 0)),
    ("last", .bool (index + 1 == count)), ("length", int count), ("revindex", int (count - index)),
    ("revindex0", int (count - index - 1)), ("depth", int 1), ("depth0", int 0),
    ("previtem", if index == 0 then .undefined else (items[index - 1]?).getD .undefined),
    ("nextitem", (items[index + 1]?).getD .undefined)]

/-- What stands elsewhere and is reached by name. -/
inductive Call where
  | template (name : String)
  | block (place : BlockPlace)

/-- The statements of a template that was found. -/
def load (find : String → Lookup) (name : String) : Step (List Stmt) := do
  match find name with
  | .source text =>
    modify fun r => { r with used := (name, text) :: r.used }
    (Stmt.ofText? text : Option (List Stmt))
  | _ => failure

/-- Puts the blocks of a template behind those of the templates that inherit it. -/
def addBlocks (blocks : List (String × List (List Stmt))) (more : List NamedBlock) :
    List (String × List (List Stmt)) :=
  more.foldl (fun bs (name, body) =>
    match bs.lookup name with
    | some bodies => (name, bodies ++ [body]) :: bs.filter (·.1 != name)
    | none => (name, [body]) :: bs) blocks

/-- Goes over to the template that is inherited; until its statements begin, output is dropped. -/
def inheritFrom (find : String → Lookup) (v : Value) : Step Unit := do
  match v with
  | .str name =>
    let r ← get
    if r.parent.isSome || r.chain.contains name then failure
    let body ← load find name
    modify fun r => { r with
      parent := some body
      muted := true
      chain := name :: r.chain
      blocks := addBlocks r.blocks (blocksOf body) }
  | _ => failure

/-- The first of some template names that is known. -/
def firstKnown (find : String → Lookup) : List Value → Option (Option String)
  | [] => some none
  | .str name :: vs =>
    match find name with
    | .missing => firstKnown find vs
    | _ => some (some name)
  | _ => none

section

variable (find : String → Lookup) (call : Call → Step Unit)

/-- The block of the inherited template with the name of the current one. -/
def parentBlock : Step Unit := do
  match (← get).current with
  | some place => call (.block ⟨place.name, place.level + 1⟩)
  | none => failure

mutual

def run : Stmt → Step Unit
  | .text s => write s
  | .output (.call (.var "super") []) => parentBlock call
  | .output e => do
    let text := (← eval e).print
    write (if (← get).escaping then escape text else text)
  | .loop target source test body otherwise => do
    let items ← ((← eval source).items? : Option (List Value))
    let items ← match test with
      | some test => inFrame (items.filterM fun v => do
          assign target v
          return (← eval test).isTrue)
      | none => pure items
    inFrame (items.zipIdx.forM fun (v, i) => do
      store "loop" (loopValue items i)
      assign target v
      runAll body)
    if items.isEmpty then runAll otherwise
  | .branch condition body otherwise => do
    if (← eval condition).isTrue then runAll body else runAll otherwise
  | .assign target e => do assign target (← eval e)
  | .insert name optional => do
    let names ← match ← eval name with
      | .list vs => pure vs
      | v => pure [v]
    match ← (firstKnown find names : Option (Option String)) with
    | some name => call (.template name)
    | none => if !(optional || names.isEmpty) then failure
  | .inherit name => do inheritFrom find (← eval name)
  | .block name _ => do
    let r ← get
    if r.parent.isNone && !r.muted then call (.block ⟨name, 0⟩)

def runAll : List Stmt → Step Unit
  | [] => return ()
  | s :: ss => do
    run s
    runAll ss

end

/-- Runs the statements of a template, and then those of the templates that it inherits. -/
def runTemplate (wasMuted : Bool) : Nat → List Stmt → Step Unit
  | 0, _ => failure
  | fuel + 1, body => do
    runAll find call body
    match (← get).parent with
    | some body =>
      modify fun r => { r with parent := none, muted := wasMuted }
      runTemplate wasMuted fuel body
    | none => return ()

end

/-- Enough steps for any chain of templates that inherit each other. -/
def maxChain : Nat := 1000

/-- Carries out a call, at most `fuel` levels deep. -/
def perform (find : String → Lookup) : Nat → Call → Step Unit
  | 0, _ => failure
  | fuel + 1, .template name => do
    let body ← load find name
    let outer ← get
    deepen insertDepth
    modify fun r => { r with
      escaping := isMarkupName name
      blocks := addBlocks [] (blocksOf body)
      current := none
      parent := none
      chain := [name] }
    runTemplate find (perform find fuel) outer.muted maxChain body
    modify fun r => { outer with written := r.written, frames := r.frames, used := r.used }
  | fuel + 1, .block place => do
    let outer ← get
    match (outer.blocks.lookup place.name).bind (·[place.level]?) with
    | none => failure
    | some body =>
      inFrame do
        modify fun r => { r with current := some place }
        runAll find (perform find fuel) body
      modify fun r => { r with current := outer.current }

end Rendering

/-- Renders a template with values for its names. Also gives the sources that were read. -/
def render (find : String → Lookup) (name : String) (context : Frame) : Option (String × List (String × String)) := do
  let p := Rendering.perform find (Rendering.maxDepth + 1) (.template name)
  let (_, r) ← p.run ⟨[], [context], 0, false, false, [], none, none, [], []⟩
  return (String.join r.written.reverse, r.used)

end ApiScaffold.Template
