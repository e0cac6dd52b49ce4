/-
Clients in TypeScript: a module for each schema and a class for each tag. There are no options.
-/
import ApiScaffold.Backend
import ApiScaffold.Backend.TypeScript.Templates
import ApiScaffold.Backend.Words

namespace ApiScaffold.Backend.TypeScript

def id : String := Implementation.typeScript.id

/-- A file with a name of its own. -/
def fixed (template directory name : String) : OutputFile := ⟨template, ⟨directory⟩, fun _ => name⟩

def stages : List OutputStage :=
  [⟨.once, [
      fixed "client_typescript/index.j2" "" "index.ts",
      fixed "client_typescript/variables.j2" "" "variables.ts",
      fixed "client_typescript/configuration.j2" "" "configuration.ts",
      fixed "client_typescript/api_ts.j2" "api" "api.ts",
      fixed "client_typescript/models.j2" "model" "models.ts"]⟩,
    ⟨.perTag, [⟨"client_typescript/service.j2", ⟨"api"⟩, fun tag => tag ++ ".service.ts"⟩]⟩,
    ⟨.perSchema, [⟨"client_typescript/model.j2", ⟨"model"⟩, fun name => name ++ ".ts"⟩]⟩]

/-- Refuses any option. -/
def outputs : Members → Except ConfigError (List OutputStage)
  | [] => .ok stages
  | (key, _) :: _ => .error (.backendOptions id ("unknown option `" ++ key ++ "`"))

end TypeScript

def typeScript : Backend where
  id := TypeScript.id
  words := typeScriptWords
  templates := TypeScript.templates
  outputs := TypeScript.outputs
  prepare := .ok
  schemaStem name := name
  tagStem name := name

end ApiScaffold.Backend
