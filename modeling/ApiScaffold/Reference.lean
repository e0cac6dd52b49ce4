/-
References inside a document: texts of the form `#/part/group/name` with three nonempty pieces.
Resolving one looks the three keys up from the root, one mapping after the other; it takes a single
step, so a target that is itself a reference is returned as it is.
-/
import ApiScaffold.Json.Basic
import ApiScaffold.ResolveError
import ApiScaffold.Text.Split

namespace ApiScaffold

/-- The three keys of a reference. -/
structure Reference where
  part : String
  group : String
  name : String
  deriving DecidableEq, Repr

namespace Reference

/-- The keys of a reference text, if it has the right form. -/
def parse (text : String) : Option Reference :=
  match Text.split '/' text with
  | ["#", part, group, name] =>
    if part != "" && group != "" && name != "" then some ⟨part, group, name⟩ else none
  | _ => none

/-- The node that a reference names. -/
def find? (r : Reference) (root : Json) : Option Json :=
  ((root.get? r.part).bind (·.get? r.group)).bind (·.get? r.name)

/-- The node that a reference text names. -/
def resolve (root : Json) (text : String) (loc : Location) : Except ResolveError Json :=
  match parse text with
  | none => .error (.invalidRef text loc)
  | some r =>
    match r.find? root with
    | none => .error (.referenceNotFound text loc)
    | some node => .ok node

/-- The last key of a reference text, whether its target exists or not. -/
def nameOf (text : String) (loc : Location) : Except ResolveError String :=
  match parse text with
  | none => .error (.invalidRef text loc)
  | some r => .ok r.name

/-- The name of the target of a reference that resolves. -/
def targetName (root : Json) (text : String) (loc : Location) : Except ResolveError String :=
  (resolve root text loc).bind fun _ => nameOf text loc

/-- The reference that a node is, if it is one. -/
def ofNode? (node : Json) : Option String := node.getStr? "$ref"

/-- The target of a node that is a reference, else the node. -/
def deref (root node : Json) (loc : Location) : Except ResolveError Json :=
  match ofNode? node with
  | some text => resolve root text loc
  | none => .ok node

end Reference

end ApiScaffold
