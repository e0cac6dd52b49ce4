/-
The filters and tests of templates. A filter that changes text takes the printed form of its value.
-/
import ApiScaffold.Template.Value
import ApiScaffold.Text.Words

namespace ApiScaffold.Template

/-- Changes the printed form of a value. -/
def textFilter (f : String → String) (v : Value) : List Value → Option Value
  | [] => some (.str (f v.print))
  | _ => none

/-- The first character, item or name. -/
def firstOf (v : Value) : Option Value :=
  match v with
  | .str s => some ((s.toList.head?.map fun c => .str (String.singleton c)).getD .undefined)
  | .list xs => some (xs.head?.getD .undefined)
  | .mapping es => some ((es.head?.map fun e => .str e.1).getD .undefined)
  | _ => none

/-- The number of characters, items or entries. -/
def lengthOf (v : Value) : Option Value :=
  let count (n : Nat) : Option Value := some (.num (.int n))
  match v with
  | .str s => count s.length
  | .list xs => count xs.length
  | .mapping es => count es.length
  | _ => none

/-- The entries of a mapping as pairs. -/
def entriesOf (v : Value) : Option Value :=
  match v with
  | .mapping es => some (.list (es.map fun (k, v) => .list [.str k, v]))
  | _ => none

/-- A part of a part of a value, the names between dots. -/
def partAt (v : Value) (path : String) : Option Value :=
  (Text.split '.' path).foldlM (fun v name => v.attribute? name) v

/-- The items whose part of a name counts as true. -/
def selectBy (v : Value) (path : String) : Option Value := do
  let xs ← (← v.items?).filterMapM fun x => do
    return if (← partAt x path).isTrue then some x else none
  return .list xs

/-- Another value for the undefined one, and if so asked also for any that counts as false. -/
def defaultFor (v : Value) (args : List Value) : Option Value :=
  let other := (args.head?).getD (.str "")
  match args.drop 1 with
  | [] => some (match v with
    | .undefined => other
    | v => v)
  | [lax] => some (match v with
    | .undefined => other
    | v => if lax.isTrue && !v.isTrue then other else v)
  | _ => none

/-- Applies a filter by its name. -/
def applyFilter (name : String) (v : Value) (args : List Value) : Option Value :=
  let bare (r : Option Value) : Option Value := if args.isEmpty then r else none
  match name with
  | "lower_first" => textFilter Text.lowerFirst v args
  | "snake_case" => textFilter Text.snakeCase v args
  | "camel_case" => textFilter Text.camelCase v args
  | "pascal_case" => textFilter Text.pascalCase v args
  | "upper" => textFilter Text.toUpper v args
  | "first" => bare (firstOf v)
  | "length" => bare (lengthOf v)
  | "count" => bare (lengthOf v)
  | "items" => bare (entriesOf v)
  | "list" => bare (v.items?.map .list)
  | "default" => defaultFor v args
  | "d" => defaultFor v args
  | "selectattr" =>
    match args with
    | [.str path] => selectBy v path
    | _ => none
  | _ => none

/-- Applies a test by its name. -/
def applyTest (name : String) (v : Value) : Option Bool :=
  match name, v with
  | "none", .none => some true
  | "none", _ => some false
  | "defined", .undefined => some false
  | "defined", _ => some true
  | "undefined", .undefined => some true
  | "undefined", _ => some false
  | "string", .str _ => some true
  | "string", _ => some false
  | "number", .num _ => some true
  | "number", _ => some false
  | "sequence", .list _ => some true
  | "sequence", _ => some false
  | "mapping", .mapping _ => some true
  | "mapping", _ => some false
  | "boolean", .bool _ => some true
  | "boolean", _ => some false
  | "true", .bool b => some b
  | "true", _ => some false
  | "false", .bool b => some !b
  | "false", _ => some false
  | _, _ => none

end ApiScaffold.Template
