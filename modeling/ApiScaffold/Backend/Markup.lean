/-
Writing down the templates that are built in.
-/
namespace ApiScaffold.Backend

/-- The value of an expression in a template. -/
def out (expr : String) : String := "\x7b\x7b " ++ expr ++ " \x7d\x7d"

/-- A tag of a template. -/
def tag (content : String) : String := "\x7b% " ++ content ++ " %\x7d"

/-- Text in braces. -/
def braced (content : String) : String := "\x7b" ++ content ++ "\x7d"

/-- Lines with a line break after each. -/
def lines (ls : List String) : String := String.join (ls.map (· ++ "\n"))

end ApiScaffold.Backend
