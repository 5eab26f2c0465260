import TypedFetch.Proto.OptionMapping
import TypedFetch.Proto.Rules

/-!
# Compilation

A file is compiled after the files that it imports.  The result is a descriptor, in which all types
have their full names, the options of methods are mappings, and every comment has the path of the
declaration that it belongs to.
-/

namespace TypedFetch.Proto

/-! ## Files in order -/

/-- The name of an import is a list of proper parts. -/
def isProperImport (name : String) : Bool :=
  (Text.cutAt '/' name.toList).all fun part =>
    part != [] && part != ['.'] && part != ['.', '.']

/-- The declarations of a file: a source that is given, or a well-known schema. -/
def declarations (sources : List (String × List Char)) (name : String) :
    Except CompileError FileDecl :=
  match sources.lookup name with
  | some text =>
    match parseFile name text with
    | .ok f => .ok f
    | .error e => .error (.grammar e)
  | none =>
    match WellKnown.files.find? (·.name == name) with
    | some f => .ok f
    | none => .error (.missingImport name)

/-- Adds a file to a pool after the files that it imports; `above` are the files that led here, the
one that was asked for last, and `depth` bounds how many they can become. -/
def addWithImports (sources : List (String × List Char)) :
    Nat → List String → String → Pool → Except CompileError Pool
  | 0, _, name, _ => .error (.importCycle name)
  | depth + 1, above, name, pool => do
    if above.contains name then throw (.importCycle name)
    if (pool.files.lookup name).isSome then return pool
    let f ← declarations sources name
    let targets := f.imports.map (·.1)
    unless areDistinct targets do throw (.repeatedImport name)
    let pool ← targets.foldlM
      (fun pool target =>
        if isProperImport target then addWithImports sources depth (name :: above) target pool
        else .error (.improperImport target))
      pool
    let pool ← pool.addFile f
    if (sources.lookup name).isSome then checkFile pool above.isEmpty f
    return pool

/-! ## Descriptors -/

/-- A resolved field as part of a descriptor. -/
def FieldInfo.descriptor (f : FieldInfo) : FieldDescriptor where
  name := f.name
  number := f.number
  kind := f.kind
  typeName := if f.typeName.isEmpty then "" else "." ++ f.typeName
  label := f.label
  inOneof := f.oneofIndex.isSome

/-- The descriptor of an enumeration. -/
def EnumDecl.descriptor (e : EnumDecl) : EnumDescriptor :=
  ⟨e.name, e.values.map (·.name)⟩

mutual

/-- The descriptor of a message. -/
def messageDescriptor (s : Scope) (scope : String) : MessageDecl → MessageDescriptor
  | .mk name _ nested enums _ _ _ _ _ _ _ mapEntry _ =>
    let fullName := qualify scope name
    .mk name ((s.fieldsOf fullName).map FieldInfo.descriptor)
      (messageDescriptors s fullName nested) (enums.map EnumDecl.descriptor) mapEntry

/-- The descriptors of messages. -/
def messageDescriptors (s : Scope) (scope : String) : List MessageDecl → List MessageDescriptor
  | [] => []
  | m :: rest => messageDescriptor s scope m :: messageDescriptors s scope rest

end

/-- The descriptor of a method. -/
def methodDescriptor (s : Scope) (service : String) (m : MethodDecl) : MethodDescriptor :=
  let fullName (name : String) : String :=
    match s.resolveMessage service name with
    | .ok full => "." ++ full
    | .error _ => name
  { name := m.name, input := fullName m.input, output := fullName m.output
    options := optionMapping s.pool (methodBytes s service m) }

/-- The descriptor of a service. -/
def serviceDescriptor (s : Scope) (package : String) (d : ServiceDecl) : ServiceDescriptor :=
  { name := d.name, methods := d.methods.map (methodDescriptor s (qualify package d.name)) }

/-! ## Comments -/

/-- Paths of the members of a list. -/
def indexed {α : Type} (path : List Int) (list : Int) (members : List α) : List (α × List Int) :=
  members.zipIdx.map fun (a, i) => (a, path ++ [list, (i : Int)])

/-- The locations of declarations without parts. -/
def docLocations {α : Type} (doc : α → Doc) (members : List (α × List Int)) : List Location :=
  members.map fun (a, path) => ⟨path, doc a⟩

mutual

/-- The locations of a message and of everything in it. -/
def messageLocations (path : List Int) : MessageDecl → List Location
  | .mk _ fields nested enums _ _ _ _ _ _ doc _ _ =>
    ⟨path, doc⟩ ::
      (docLocations FieldDecl.doc (indexed path 2 fields) ++
        nestedLocations (path ++ [3]) 0 nested ++
        docLocations EnumDecl.doc (indexed path 4 enums))

/-- The locations of the messages of a list. -/
def nestedLocations (path : List Int) (index : Nat) : List MessageDecl → List Location
  | [] => []
  | m :: rest =>
    messageLocations (path ++ [(index : Int)]) m ++ nestedLocations path (index + 1) rest

end

/-- The locations of a service and its methods. -/
def serviceLocations (s : ServiceDecl) (path : List Int) : List Location :=
  ⟨path, s.doc⟩ :: docLocations MethodDecl.doc (indexed path 2 s.methods)

/-- The locations of a file. -/
def FileDecl.locations (f : FileDecl) : List Location :=
  nestedLocations [4] 0 f.messages ++ docLocations EnumDecl.doc (indexed [] 5 f.enums) ++
    (indexed [] 6 f.services).flatMap fun (s, path) => serviceLocations s path

/-! ## The result -/

/-- A compiled file with what its options were resolved against. -/
structure Compiled where
  /-- The file. -/
  file : FileDecl
  /-- What the file can see. -/
  scope : Scope

/-- Compiles the source with the given name. -/
def compile (sources : List (String × List Char)) (name : String) :
    Except CompileError Compiled := do
  let depth := sources.length + WellKnown.sources.length + 1
  let pool ← addWithImports sources depth [] name {}
  match pool.files.lookup name with
  | some file => return ⟨file, pool.viewOf file⟩
  | none => throw (.missingImport name)

/-- The files of a compilation, each after those that it imports. -/
def Compiled.files (c : Compiled) : List FileDecl :=
  (c.scope.pool.files.map (·.2)).reverse

/-- The bytes of the options of all methods of a file. -/
def Compiled.allMethodBytes (c : Compiled) (f : FileDecl) : List (List UInt8) :=
  let s := c.scope.pool.viewOf f
  f.services.flatMap fun d => d.methods.map (methodBytes s (qualify f.package d.name))

mutual

/-- How many messages a message needs one inside the other when it is written: itself, its parts,
and theirs. -/
def MessageDecl.height : MessageDecl → Nat
  | .mk _ fields nested enums _ _ oneofs _ _ _ _ _ _ =>
    let enumHeight := if enums.isEmpty then 0 else 2
    let fieldHeight := if fields.isEmpty && oneofs.isEmpty then 0 else 1
    1 + max (max enumHeight fieldHeight) (heights nested)

/-- The greatest height of the messages of a list. -/
def heights : List MessageDecl → Nat
  | [] => 0
  | m :: rest => max m.height (heights rest)

end

/-- The descriptors of all files can be read back: they are not nested too deeply, in a set of
files, and the options of their methods can be read. -/
def Compiled.isReadable (c : Compiled) : Bool :=
  c.files.all fun f =>
    1 + heights f.messages ≤ Wire.depthLimit &&
      (c.allMethodBytes f).all fun bytes => (readBinding bytes).toOption.isSome

/-- The descriptor of a compiled file. -/
def Compiled.descriptor (c : Compiled) : FileDescriptor :=
  let f := c.file
  { package := f.package
    dialect := f.dialect.name
    messages := messageDescriptors c.scope f.package f.messages
    enums := f.enums.map EnumDecl.descriptor
    services := f.services.map (serviceDescriptor c.scope f.package)
    locations := f.locations }

end TypedFetch.Proto
