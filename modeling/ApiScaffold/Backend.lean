/-
A kind of code that can be produced: its words for types, its templates, and the files of a run.
-/
import ApiScaffold.Stage

namespace ApiScaffold

structure Backend where
  /-- Also its name in the settings. -/
  id : String
  words : TypeTable
  /-- The templates that are built in, with their names. -/
  templates : List (String × String)
  /-- The stages of every run, from the options of the settings. -/
  outputs : Members → Except ConfigError (List OutputStage)
  /-- Makes the context ready before a run. -/
  prepare : Context → Except ConfigError Context
  /-- What the name of the file of a schema begins with. -/
  schemaStem : String → String
  /-- What the name of the file of a tag begins with. -/
  tagStem : String → String

end ApiScaffold
