import TypedFetch.Files.Tree
import TypedFetch.Text.Utf8

/-!
# Bundled schemas

The schemas that bind methods to verbs and paths and that mark the behaviour of fields.  They are
laid out as files in a directory of their own, which is searched after all include directories.
-/

namespace TypedFetch.Proto

open TypedFetch.Files

/-- The text of a source from its lines. -/
def sourceText (lines : List String) : String :=
  String.join (lines.map (· ++ "\n"))

/-- The rules that bind methods to verbs and paths. -/
def httpSource : String :=
  sourceText [
    "syntax = \"proto3\";",
    "package google.api;",
    "",
    "message Http \x7b",
    "  repeated HttpRule rules = 1;",
    "  bool fully_decode_reserved_expansion = 2;",
    "\x7d",
    "",
    "message HttpRule \x7b",
    "  string selector = 1;",
    "  oneof pattern \x7b",
    "    string get = 2;",
    "    string put = 3;",
    "    string post = 4;",
    "    string delete = 5;",
    "    string patch = 6;",
    "    CustomHttpPattern custom = 8;",
    "  \x7d",
    "  string body = 7;",
    "  string response_body = 12;",
    "  repeated HttpRule additional_bindings = 11;",
    "\x7d",
    "",
    "message CustomHttpPattern \x7b",
    "  string kind = 1;",
    "  string path = 2;",
    "\x7d"]

/-- The option of a method that holds its rule. -/
def annotationsSource : String :=
  sourceText [
    "syntax = \"proto3\";",
    "package google.api;",
    "",
    "import \"google/api/http.proto\";",
    "import \"google/protobuf/descriptor.proto\";",
    "",
    "extend google.protobuf.MethodOptions \x7b",
    "  HttpRule http = 72295728;",
    "\x7d"]

/-- The option of a field that says how it behaves. -/
def fieldBehaviorSource : String :=
  sourceText [
    "syntax = \"proto3\";",
    "package google.api;",
    "",
    "import \"google/protobuf/descriptor.proto\";",
    "",
    "extend google.protobuf.FieldOptions \x7b",
    "  repeated google.api.FieldBehavior field_behavior = 1052 [packed = false];",
    "\x7d",
    "",
    "enum FieldBehavior \x7b",
    "  FIELD_BEHAVIOR_UNSPECIFIED = 0;",
    "  OPTIONAL = 1;",
    "  REQUIRED = 2;",
    "  OUTPUT_ONLY = 3;",
    "  INPUT_ONLY = 4;",
    "  IMMUTABLE = 5;",
    "  UNORDERED_LIST = 6;",
    "  NON_EMPTY_DEFAULT = 7;",
    "  IDENTIFIER = 8;",
    "\x7d"]

/-- The bundled schemas by the parts of their names. -/
def bundledSchemas : List (List String × String) :=
  [(["google", "api", "annotations.proto"], annotationsSource),
   (["google", "api", "http.proto"], httpSource),
   (["google", "api", "field_behavior.proto"], fieldBehaviorSource)]

/-- Lays the bundled schemas out below a location. -/
def withBundled (tree : Tree) (location : List String) : Tree :=
  let base := (tree.makeDirectories (.absolute (location ++ ["google", "api"]))).1
  bundledSchemas.foldl (fun t (name, s) => t.put (location ++ name) (.file (Text.bytesOf s))) base

end TypedFetch.Proto
