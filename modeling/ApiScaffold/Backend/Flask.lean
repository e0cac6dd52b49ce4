/-
Server stubs for Flask: a Python package with a module for each schema and one of functions for each
tag.
-/
import ApiScaffold.Backend
import ApiScaffold.Backend.Flask.Templates
import ApiScaffold.Backend.Words
import ApiScaffold.Text.Words

namespace ApiScaffold.Backend.Flask

def id : String := Implementation.flask.id

structure Options where
  /-- The package that the server goes to. -/
  serverName : String
  deriving DecidableEq, Repr, Inhabited

def Options.standard : Options := ⟨"flask_server"⟩

/-- What a value is, in a message about one that is not a string. -/
def describe : Json → String
  | .null => "null"
  | .bool b => "boolean `" ++ (if b then "true" else "false") ++ "`"
  | .num (.int n) => "integer `" ++ toString n ++ "`"
  | .num n => "floating point `" ++ n.toText ++ "`"
  | .str s => "string " ++ Text.quoted s
  | .arr _ => "sequence"
  | .obj _ => "map"

/-- Takes an option over. -/
def Options.set (o : Options) : String × Json → Except ConfigError Options
  | ("server_name", .str s) => .ok { o with serverName := s }
  | ("server_name", v) =>
    .error (.backendOptions id ("invalid type: " ++ describe v ++ ", expected a string"))
  | (key, _) => .error (.backendOptions id ("unknown field `" ++ key ++ "`, expected `server_name`"))

/-- The options in the settings, taken over in the order in which they are given. -/
def Options.ofMembers (ms : Members) : Except ConfigError Options := ms.foldlM Options.set .standard

def schemaStem (name : String) : String := Text.lowerFirst name

def tagStem (tag : String) : String := Text.snakeCase tag

/-- A file with a name of its own. -/
def fixed (template : String) (directory : Path) (name : String) : OutputFile :=
  ⟨template, directory, fun _ => name⟩

def stages (o : Options) : List OutputStage :=
  let output : Path := ⟨""⟩
  let server : Path := ⟨o.serverName⟩
  let models := server.join "models"
  let controllers := server.join "controllers"
  [⟨.once, [
      fixed "server_flask/requirements.j2" output "requirements.txt",
      fixed "server_flask/Dockerfile.j2" output "Dockerfile",
      fixed "server_flask/setup.j2" output "setup.py",
      fixed "server_flask/init.j2" server "__init__.py",
      fixed "server_flask/main.j2" server "__main__.py",
      fixed "server_flask/util.j2" server "util.py",
      fixed "server_flask/encoder.j2" server "encoder.py",
      fixed "server_flask/models_init.j2" models "__init__.py",
      fixed "server_flask/base_model.j2" models "base_model.py",
      fixed "server_flask/init.j2" controllers "__init__.py"]⟩,
    ⟨.perTag, [⟨"server_flask/controller.j2", controllers, fun tag => tagStem tag ++ "_controller.py"⟩]⟩,
    ⟨.perSchema, [⟨"server_flask/model.j2", models, fun name => schemaStem name ++ ".py"⟩]⟩]

/-- An address with its parameters in angle brackets instead of braces. -/
def routeUrl (url : String) : String := Text.replaceChar '\x7d' '>' (Text.replaceChar '\x7b' '<' url)

/-- Adds the name of the package to the options, and rewrites all addresses. -/
def prepare (c : Context) : Except ConfigError Context := do
  let o ← Options.ofMembers c.options
  let options := match Members.get? c.options "server_name" with
    | some _ => c.options
    | none => c.options ++ [("server_name", .str o.serverName)]
  let paths := c.api.paths.mapValues fun ops => ops.map fun op => { op with url := routeUrl op.url }
  return { c with api := { c.api with paths := paths }, options := options }

end Flask

def flask : Backend where
  id := Flask.id
  words := pythonWords
  templates := Flask.templates
  outputs ms := return Flask.stages (← Flask.Options.ofMembers ms)
  prepare := Flask.prepare
  schemaStem := Flask.schemaStem
  tagStem := Flask.tagStem

end ApiScaffold.Backend
