import TypedFetch.Naming
import TypedFetch.Package.Manifest
import TypedFetch.TypeScript.Client

/-!
# The introduction to a generated package

A page that shows how the package is installed and used, with calls of the first methods.
-/

namespace TypedFetch.Package

open TypedFetch.Schema (Method)

/-- A call that the page shows. -/
structure Example where
  /-- The line above the call. -/
  comment : String
  /-- The method. -/
  name : String
  /-- The variable that takes the result. -/
  result : String
  /-- The argument list. -/
  argument : String
deriving Repr, BEq, DecidableEq

/-- No line of text is left to describe a method. -/
inductive ReadmeError where
  | noComment
deriving Repr, BEq, DecidableEq

/-- The number of calls that the page shows at most. -/
def exampleLimit : Nat := 3

/-- The call of the method at a position. -/
def exampleOf (index : Nat) (m : Method) : Except ReadmeError Example :=
  let comment := ((nonEmpty m.summary).or (nonEmpty m.description)).getD m.name
  match Text.linesOf comment with
  | [] => .error .noComment
  | line :: _ =>
    .ok {
      comment := line
      name := Naming.camelCase m.name
      result := if index == 0 then "result" else "result" ++ toString (index + 1)
      argument := if TypeScript.takesNoRequest m then "" else "request" }

/-- The calls of methods from a position on. -/
def examplesFrom (index : Nat) : List Method → Except ReadmeError (List Example)
  | [] => .ok []
  | m :: rest => do
    let first ← exampleOf index m
    let others ← examplesFrom (index + 1) rest
    return first :: others

/-- The text of a call. -/
def Example.text (e : Example) : String :=
  "// " ++ e.comment ++ "\nconst " ++ e.result ++ " = await client." ++ e.name ++
    "(" ++ e.argument ++ ");\n"

/-- A fenced block of source text. -/
def fenced (language body : String) : String :=
  "```" ++ language ++ "\n" ++ body ++ "```\n"

/-- The part of the page that is the same for every package. -/
def readmeTail : String :=
  "\n## Configuration Options\n\n" ++
  fenced "typescript"
    ("interface APIClientConfig \x7b\n" ++
      "  baseUrl: string;\n" ++
      "  timeout?: number;\n" ++
      "  auth?: AuthProvider;\n" ++
      "  headers?: Record<string, string>;\n" ++
      "  retry?: \x7b\n" ++
      "    limit: number;\n" ++
      "    methods?: string[];\n" ++
      "    statusCodes?: number[];\n" ++
      "  \x7d;\n" ++
      "\x7d\n") ++
  "\n## Error Handling\n\n" ++
  fenced "typescript"
    ("import \x7b APIError \x7d from 'proto2fetch/runtime';\n\n" ++
      "try \x7b\n" ++
      "  const result = await client.someMethod(request);\n" ++
      "\x7d catch (error) \x7b\n" ++
      "  if (error instanceof APIError) \x7b\n" ++
      "    console.error('API Error:', error.message);\n" ++
      "    console.error('Status:', error.status);\n" ++
      "    console.error('Code:', error.code);\n" ++
      "  \x7d\n" ++
      "\x7d\n") ++
  "\n---\n\n" ++
  "*This client was generated using [proto2fetch](https://github.com/szy0syz/proto2fetch).*\n"

/-- The page of a package. -/
def readme (schema : Schema) (packageName : Option String) (clientName : String)
    (baseUrl : Option String) : Except ReadmeError String := do
  let examples ← examplesFrom 0 (schema.methods.take exampleLimit)
  let package := (nonEmpty packageName).getD defaultPackageName
  let title := ((nonEmpty packageName).or (nonEmpty schema.title)).getD "Generated API Client"
  let description := (nonEmpty schema.description).getD
    "Auto-generated TypeScript API client from protobuf definitions."
  let base := TypeScript.stringLiteral ((nonEmpty baseUrl).getD "https://api.example.com")
  return "# " ++ title ++ "\n\n" ++ description ++ "\n\n## Installation\n\n" ++
    fenced "bash" ("npm install " ++ package ++ "\n") ++
    "\n## Usage\n\n" ++
    fenced "typescript"
      ("import \x7b " ++ clientName ++ " \x7d from '" ++ package ++ "';\n" ++
        "import \x7b SimpleAuth \x7d from 'proto2fetch/runtime';\n\n" ++
        "// Create client instance\n" ++
        "const client = new " ++ clientName ++ "(\x7b\n" ++
        "  baseUrl: " ++ base ++ ",\n" ++
        "  auth: new SimpleAuth('your-auth-token')\n" ++
        "\x7d);\n\n" ++
        "// Example API calls\n" ++
        "\n".intercalate (examples.map Example.text)) ++
    readmeTail

end TypedFetch.Package
