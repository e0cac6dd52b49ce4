/-
Reading templates. Expressions are read by precedence, from conditional expressions down to names and
constants with the attributes, indices, filters and tests behind them; statements are read up to the
tag that ends them.
-/
import ApiScaffold.Template.Expr
import ApiScaffold.Template.Token

namespace ApiScaffold.Template

namespace ExprReader

abbrev Step := StateT (List Token) Option

def peek : Step (Option Token) := return (← get).head?

def next : Step Token := do
  match ← get with
  | t :: ts =>
    set ts
    return t
  | [] => failure

/-- Steps over a token if it comes next. -/
def accept (t : Token) : Step Bool := do
  if (← peek) == some t then
    let _ ← next
    return true
  return false

def require (t : Token) : Step Unit := do
  if !(← accept t) then failure

def acceptSign (s : String) : Step Bool := accept (.sign s)

def requireSign (s : String) : Step Unit := require (.sign s)

def requireName : Step String := do
  match ← next with
  | .name s => return s
  | _ => failure

/-- The constants that have names. -/
def namedConstant? (name : String) : Option Value :=
  match name with
  | "true" => some (.bool true)
  | "True" => some (.bool true)
  | "false" => some (.bool false)
  | "False" => some (.bool false)
  | "none" => some .none
  | "None" => some .none
  | _ => none

def comparison? (s : String) : Option Comparison :=
  match s with
  | "==" => some .equal
  | "!=" => some .unequal
  | "<" => some .less
  | "<=" => some .lessOrEqual
  | ">" => some .greater
  | ">=" => some .greaterOrEqual
  | _ => none

mutual

/-- An expression with its conditions. -/
def conditional : Nat → Step Expr
  | 0 => failure
  | fuel + 1 => do conditionalFrom (← disjunction fuel) fuel

/-- Conditions behind an expression. -/
def conditionalFrom (e : Expr) : Nat → Step Expr
  | 0 => failure
  | fuel + 1 => do
    if ← accept (.name "if") then
      let condition ← disjunction fuel
      let other ← if ← accept (.name "else") then some <$> conditional fuel else pure none
      conditionalFrom (.choose condition e other) fuel
    else return e

def disjunction : Nat → Step Expr
  | 0 => failure
  | fuel + 1 => do disjunctionFrom (← conjunction fuel) fuel

def disjunctionFrom (a : Expr) : Nat → Step Expr
  | 0 => failure
  | fuel + 1 => do
    if ← accept (.name "or") then
      let b ← conjunction fuel
      disjunctionFrom (.or a b) fuel
    else return a

def conjunction : Nat → Step Expr
  | 0 => failure
  | fuel + 1 => do conjunctionFrom (← negation fuel) fuel

def conjunctionFrom (a : Expr) : Nat → Step Expr
  | 0 => failure
  | fuel + 1 => do
    if ← accept (.name "and") then
      let b ← negation fuel
      conjunctionFrom (.and a b) fuel
    else return a

def negation : Nat → Step Expr
  | 0 => failure
  | fuel + 1 => do
    if ← accept (.name "not") then return .not (← negation fuel)
    comparisonFrom (← concatenation fuel) fuel

def comparisonFrom (a : Expr) : Nat → Step Expr
  | 0 => failure
  | fuel + 1 => do
    match ← peek with
    | some (.sign s) =>
      match comparison? s with
      | some op =>
        let _ ← next
        let b ← concatenation fuel
        comparisonFrom (.compare op a b) fuel
      | none => return a
    | some (.name "in") =>
      let _ ← next
      let b ← concatenation fuel
      comparisonFrom (.isIn a b) fuel
    | some (.name "not") =>
      let _ ← next
      require (.name "in")
      let b ← concatenation fuel
      comparisonFrom (.not (.isIn a b)) fuel
    | _ => return a

def concatenation : Nat → Step Expr
  | 0 => failure
  | fuel + 1 => do concatenationFrom (← filtered fuel) fuel

def concatenationFrom (a : Expr) : Nat → Step Expr
  | 0 => failure
  | fuel + 1 => do
    if ← acceptSign "~" then
      let b ← filtered fuel
      concatenationFrom (.concat a b) fuel
    else return a

/-- An operand with its attributes, and then its filters and tests. -/
def filtered : Nat → Step Expr
  | 0 => failure
  | fuel + 1 => do
    let e ← signed fuel
    filtersFrom (← partsFrom e fuel) fuel

def signed : Nat → Step Expr
  | 0 => failure
  | fuel + 1 => do
    if ← acceptSign "-" then return .negate (← signed fuel)
    primary fuel

/-- Attributes, indices and arguments behind an expression. -/
def partsFrom (e : Expr) : Nat → Step Expr
  | 0 => failure
  | fuel + 1 => do
    if ← acceptSign "." then
      let name ← requireName
      partsFrom (.attribute e name) fuel
    else if ← acceptSign "[" then
      let key ← conditional fuel
      requireSign "]"
      partsFrom (.element e key) fuel
    else if ← acceptSign "(" then
      let args ← itemsUntil ")" true fuel
      partsFrom (.call e args) fuel
    else return e

/-- Filters and tests behind an expression. -/
def filtersFrom (e : Expr) : Nat → Step Expr
  | 0 => failure
  | fuel + 1 => do
    if ← acceptSign "|" then
      let name ← requireName
      let args ← if ← acceptSign "(" then itemsUntil ")" true fuel else pure []
      filtersFrom (.filter e name args) fuel
    else if ← accept (.name "is") then
      let negated ← accept (.name "not")
      let name ← requireName
      let t := Expr.test e name
      filtersFrom (if negated then .not t else t) fuel
    else return e

def primary : Nat → Step Expr
  | 0 => failure
  | fuel + 1 => do
    match ← next with
    | .name s => return ((namedConstant? s).map Expr.const).getD (.var s)
    | .str s => return .const (.str s)
    | .int n => return .const (.num (.int n))
    | .float x => return .const (.num (.float x))
    | .sign "[" => return .list (← itemsUntil "]" true fuel)
    | .sign "\x7b" => return .mapping (← entriesUntil true fuel)
    | .sign "(" =>
      if ← acceptSign ")" then return .list []
      let e ← conditional fuel
      if ← acceptSign "," then return .list (e :: (← itemsUntil ")" true fuel))
      requireSign ")"
      return e
    | _ => failure

/-- Expressions with commas between them, up to a closing bracket. -/
def itemsUntil (close : String) (first : Bool) : Nat → Step (List Expr)
  | 0 => failure
  | fuel + 1 => do
    if ← acceptSign close then return []
    if !first then
      requireSign ","
      if ← acceptSign close then return []
    let e ← conditional fuel
    return e :: (← itemsUntil close false fuel)

/-- The entries of a mapping up to its closing brace. -/
def entriesUntil (first : Bool) : Nat → Step (List (Expr × Expr))
  | 0 => failure
  | fuel + 1 => do
    if ← acceptSign "\x7d" then return []
    if !first then
      requireSign ","
      if ← acceptSign "\x7d" then return []
    let key ← conditional fuel
    requireSign ":"
    let value ← conditional fuel
    return (key, value) :: (← entriesUntil false fuel)

end

/-- Enough steps for any expression in the tokens that are left. -/
def bound : Step Nat := return 16 * (← get).length + 16

def expression : Step Expr := do conditional (← bound)

/-- An expression without conditions of its own. -/
def plainExpression : Step Expr := do disjunction (← bound)

/-- Names that cannot be given values. -/
def reservedNames : List String := ["true", "True", "false", "False", "none", "None", "loop", "self"]

mutual

/-- A name, or a list of targets in brackets. -/
def singleTarget : Nat → Step Target
  | 0 => failure
  | fuel + 1 => do
    if ← acceptSign "(" then
      let ts ← targetItems fuel
      requireSign ")"
      return ts
    let name ← requireName
    if reservedNames.contains name then failure
    return .name name

/-- One target, or several with commas between them. -/
def targetItems : Nat → Step Target
  | 0 => failure
  | fuel + 1 => do
    let t ← singleTarget fuel
    if (← peek) != some (.sign ",") then return t
    return .items (t :: (← moreTargets fuel))

def moreTargets : Nat → Step (List Target)
  | 0 => failure
  | fuel + 1 => do
    if ← acceptSign "," then
      if (← peek) == some (.name "in") then return []
      let t ← singleTarget fuel
      return t :: (← moreTargets fuel)
    else return []

end

def target : Step Target := do targetItems (← bound)

/-- Runs a reader that must use all tokens. -/
def complete (p : Step α) (ts : List Token) : Option α := do
  let (a, rest) ← p.run ts
  if rest.isEmpty then some a else none

end ExprReader

/-! ## Statements -/

/-- The head of a loop. -/
structure LoopHead where
  target : Target
  source : Expr
  test : Option Expr

open ExprReader in
def loopHead : Step LoopHead := do
  let t ← target
  require (.name "in")
  let source ← plainExpression
  let test ← if ← accept (.name "if") then some <$> expression else pure none
  return ⟨t, source, test⟩

open ExprReader in
def assignment : Step Stmt := do
  let t ← target
  requireSign "="
  return .assign t (← expression)

open ExprReader in
def insertion : Step Stmt := do
  let name ← expression
  let optional ← accept (.name "ignore")
  if optional then require (.name "missing")
  return .insert name optional

/-- The statements up to a tag with one of the names `stops`, with that name, its tokens and the
pieces behind it; without stops up to the end. -/
def statements (stops : List String) : Nat → List Piece →
    Option (List Stmt × Option (String × List Token) × List Piece)
  | 0, _ => none
  | _, [] => if stops.isEmpty then some ([], none, []) else none
  | fuel + 1, .text s :: ps => do
    let (ss, stop, rest) ← statements stops fuel ps
    return (.text s :: ss, stop, rest)
  | fuel + 1, .output ts :: ps => do
    let e ← ExprReader.complete ExprReader.expression ts
    let (ss, stop, rest) ← statements stops fuel ps
    return (.output e :: ss, stop, rest)
  | fuel + 1, .tag ts :: ps => do
    match ts with
    | .name word :: ts =>
      if stops.contains word then return ([], some (word, ts), ps)
      let (s, ps) ← statement word ts fuel ps
      let (ss, stop, rest) ← statements stops fuel ps
      return (s :: ss, stop, rest)
    | _ => none
where
  /-- Statements up to a closing tag that holds nothing but its name. -/
  plainBody (stops : List String) : Nat → List Piece → Option (List Stmt × String × List Piece)
    | 0, _ => none
    | fuel + 1, ps => do
      match ← statements stops fuel ps with
      | (ss, some (word, []), rest) => return (ss, word, rest)
      | _ => none
  /-- The branches of a condition behind its first tag. -/
  branches (condition : Expr) : Nat → List Piece → Option (Stmt × List Piece)
    | 0, _ => none
    | fuel + 1, ps => do
      match ← statements ["elif", "else", "endif"] fuel ps with
      | (body, some ("endif", []), rest) => return (.branch condition body [], rest)
      | (body, some ("else", []), rest) =>
        let (other, _, rest) ← plainBody ["endif"] fuel rest
        return (.branch condition body other, rest)
      | (body, some ("elif", ts), rest) =>
        let (s, rest) ← branches (← ExprReader.complete ExprReader.expression ts) fuel rest
        return (.branch condition body [s], rest)
      | _ => none
  /-- A statement after the first word of its tag, with the pieces behind it. -/
  statement (word : String) (ts : List Token) : Nat → List Piece → Option (Stmt × List Piece)
    | 0, _ => none
    | fuel + 1, ps =>
      match word with
      | "for" => do
        let head ← ExprReader.complete loopHead ts
        let (body, word, rest) ← plainBody ["else", "endfor"] fuel ps
        let (other, _, rest) ←
          if word == "else" then plainBody ["endfor"] fuel rest else some ([], word, rest)
        return (.loop head.target head.source head.test body other, rest)
      | "if" => do branches (← ExprReader.complete ExprReader.expression ts) fuel ps
      | "set" => do return (← ExprReader.complete assignment ts, ps)
      | "include" => do return (← ExprReader.complete insertion ts, ps)
      | "extends" => do return (.inherit (← ExprReader.complete ExprReader.expression ts), ps)
      | "block" => do
        let name ← ExprReader.complete ExprReader.requireName ts
        match ← statements ["endblock"] fuel ps with
        | (body, some (_, []), rest) => return (.block name body, rest)
        | (body, some (_, [.name other]), rest) => if other == name then return (.block name body, rest) else none
        | _ => none
      | _ => none

/-- The statements of a template; no two blocks have the same name. -/
def Stmt.ofText? (source : String) : Option (List Stmt) := do
  let ps ← Piece.ofText? source
  let (ss, _, _) ← statements [] (4 * ps.length + 4) ps
  let names := (blocksOf ss).map (·.1)
  if names.eraseDups.length == names.length then some ss else none

end ApiScaffold.Template
