/-
The words of the target languages for types and formats.
-/
import ApiScaffold.TypeTable

namespace ApiScaffold.Backend

/-- Annotations of Python. -/
def pythonWords : TypeTable := ⟨[
  ("integer", "int"), ("int32", "int"), ("long", "int"), ("int64", "int"),
  ("float", "float"), ("double", "float"), ("number", "float"),
  ("string", "str"), ("byte", "str"), ("binary", "str"), ("password", "str"),
  ("boolean", "bool"), ("date", "date"), ("date-time", "datetime"), ("object", "object"),
  ("array", "List"), ("<", "["), (">", "]")]⟩

/-- Types of TypeScript. -/
def typeScriptWords : TypeTable := ⟨[
  ("integer", "number"), ("int32", "number"), ("long", "number"), ("int64", "number"),
  ("float", "number"), ("double", "number"), ("number", "number"),
  ("string", "string"), ("byte", "string"), ("binary", "string"), ("password", "string"),
  ("boolean", "boolean"), ("date", "string"), ("date-time", "Date"), ("object", "any"),
  ("array", "Array"), ("<", "<"), (">", ">")]⟩

end ApiScaffold.Backend
