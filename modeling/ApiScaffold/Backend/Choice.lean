/-
The backend that settings ask for.
-/
import ApiScaffold.Backend.Flask
import ApiScaffold.Backend.TypeScript

namespace ApiScaffold

def Implementation.backend : Implementation → Backend
  | .flask => Backend.flask
  | .typeScript => Backend.typeScript

end ApiScaffold
