/-
Paths that are never written. A pattern protects the paths that contain it as it is, and those that
it matches as a regular expression if it is one.
-/
import ApiScaffold.Pattern.Reader
import ApiScaffold.Text.Split

namespace ApiScaffold

structure Protection where
  patterns : List (String × Option Pattern)
  deriving Inhabited

namespace Protection

def ofTexts (texts : List String) : Protection := ⟨texts.map fun text => (text, Pattern.read text)⟩

def covers (p : Protection) (path : String) : Bool :=
  p.patterns.any fun (text, pattern) => Text.occursIn text path || pattern.any (·.occursIn path)

end Protection

end ApiScaffold
