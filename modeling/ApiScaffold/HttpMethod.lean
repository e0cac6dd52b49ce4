/-
The eight methods of a path item, in the order in which a document's operations are read and listed.
-/
namespace ApiScaffold

inductive HttpMethod where
  | get
  | put
  | post
  | delete
  | options
  | head
  | patch
  | trace
  deriving DecidableEq, Repr, Inhabited

namespace HttpMethod

/-- All methods, in order. -/
def all : List HttpMethod := [.get, .put, .post, .delete, .options, .head, .patch, .trace]

/-- The key of the method in a path item. -/
def key : HttpMethod → String
  | .get => "get"
  | .put => "put"
  | .post => "post"
  | .delete => "delete"
  | .options => "options"
  | .head => "head"
  | .patch => "patch"
  | .trace => "trace"

/-- The place of the method in the order. -/
def rank : HttpMethod → Nat
  | .get => 0
  | .put => 1
  | .post => 2
  | .delete => 3
  | .options => 4
  | .head => 5
  | .patch => 6
  | .trace => 7

/-- The method of a key. -/
def ofKey? (key : String) : Option HttpMethod := all.find? fun m => m.key == key

end HttpMethod

end ApiScaffold
