import TypedFetch.Json.Writer
import TypedFetch.Schema.Basic

/-!
# The manifest of a generated package
-/

namespace TypedFetch.Package

/-- A text, unless it is empty. -/
def nonEmpty (s : Option String) : Option String :=
  s.bind fun t => if t.isEmpty then none else some t

/-- The name of a package that is given none. -/
def defaultPackageName : String := "generated-api-client"

/-- The description of a package whose schema has none. -/
def defaultDescription : String := "Generated API client from protobuf definitions"

/-- The manifest of the package of a schema. -/
def manifest (schema : Schema) (packageName : Option String) : Json.Document :=
  .object [
    ("name", .text ((nonEmpty packageName).getD defaultPackageName)),
    ("version", .text "1.0.0"),
    ("description", .text ((nonEmpty schema.description).getD defaultDescription)),
    ("main", .text "./client.js"),
    ("types", .text "./client.d.ts"),
    ("scripts", .object [("build", .text "tsc"), ("dev", .text "tsc --watch")]),
    ("dependencies", .object [("proto2fetch", .text "^1.0.0")]),
    ("devDependencies", .object [("typescript", .text "^5.0.0")])]

/-- The text of the manifest. -/
def manifestText (schema : Schema) (packageName : Option String) : String :=
  (manifest schema packageName).write 0 ++ "\n"

end TypedFetch.Package
