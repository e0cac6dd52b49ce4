/-
The parts of templates: expressions, and statements between plain text.
-/
import ApiScaffold.Template.Value

namespace ApiScaffold.Template

/-- Comparisons of two values. -/
inductive Comparison where
  | equal
  | unequal
  | less
  | lessOrEqual
  | greater
  | greaterOrEqual
  deriving DecidableEq, Repr, Inhabited

inductive Expr where
  | const (v : Value)
  | var (name : String)
  | list (items : List Expr)
  | mapping (entries : List (Expr × Expr))
  | attribute (e : Expr) (name : String)
  | element (e key : Expr)
  | filter (e : Expr) (name : String) (args : List Expr)
  | test (e : Expr) (name : String)
  | call (f : Expr) (args : List Expr)
  | not (e : Expr)
  | negate (e : Expr)
  | and (a b : Expr)
  | or (a b : Expr)
  | compare (op : Comparison) (a b : Expr)
  /-- Whether the first is in the second. -/
  | isIn (a b : Expr)
  | concat (a b : Expr)
  /-- The first value if the condition holds, else the second or nothing. -/
  | choose (condition a : Expr) (b : Option Expr)
  deriving Repr, Inhabited

/-- What values are given to: a name, or the items of a list one by one. -/
inductive Target where
  | name (s : String)
  | items (ts : List Target)
  deriving Repr, Inhabited

inductive Stmt where
  | text (s : String)
  | output (e : Expr)
  /-- A loop over the items that pass the test, or the other body if there are none. -/
  | loop (target : Target) (source : Expr) (test : Option Expr) (body otherwise : List Stmt)
  | branch (condition : Expr) (body otherwise : List Stmt)
  | assign (target : Target) (e : Expr)
  /-- The output of another template in this place. -/
  | insert (name : Expr) (optional : Bool)
  /-- From here on only blocks count, and the rest comes from another template. -/
  | inherit (name : Expr)
  /-- A part that templates which inherit this one may replace. -/
  | block (name : String) (body : List Stmt)
  deriving Repr, Inhabited

/-- A named part of a template. -/
abbrev NamedBlock := String × List Stmt

mutual

/-- The blocks of a statement, inner ones too. -/
def Stmt.blocks : Stmt → List NamedBlock
  | .block name body => (name, body) :: blocksOf body
  | .loop _ _ _ body otherwise => blocksOf body ++ blocksOf otherwise
  | .branch _ body otherwise => blocksOf body ++ blocksOf otherwise
  | _ => []

def blocksOf : List Stmt → List NamedBlock
  | [] => []
  | s :: ss => s.blocks ++ blocksOf ss

end

end ApiScaffold.Template
