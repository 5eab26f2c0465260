import TypedFetch.Files.Path
import TypedFetch.Text.Lines
import TypedFetch.Value

/-!
# File trees

A tree gives every location that exists its directory or its content.  A path is followed part by
part from the working directory or from the root, and every part but the last has to be a directory.
-/

namespace TypedFetch.Files

/-- What is at a location. -/
inductive Entry where
  | directory
  | file (content : List UInt8)
deriving Repr, BEq, DecidableEq

/-- The entry is a file. -/
def Entry.isFile : Entry → Bool
  | directory => false
  | file _ => true

/-- The number of bytes that an entry holds. -/
def Entry.size : Entry → Nat
  | directory => 0
  | file content => content.length

/-- Why something cannot be done to a file. -/
inductive Fault where
  | missing
  | exists
  | notDirectory
  | isDirectory
  | nameTooLong
  /-- The path holds a character that no path can hold. -/
  | improperPath
deriving Repr, BEq, ReflBEq, LawfulBEq, DecidableEq

/-- The number of a fault; a path that is none has no fault of a system. -/
def Fault.number? : Fault → Option Nat
  | .missing => some 2
  | .exists => some 17
  | .notDirectory => some 20
  | .isDirectory => some 21
  | .nameTooLong => some 36
  | .improperPath => none

/-- A fault in words. -/
def Fault.reason : Fault → String
  | .missing => "No such file or directory"
  | .exists => "File exists"
  | .notDirectory => "Not a directory"
  | .isDirectory => "Is a directory"
  | .nameTooLong => "File name too long"
  | .improperPath => "embedded null byte"

/-- A fault and the path where it arose. -/
structure FileError where
  /-- The fault. -/
  fault : Fault
  /-- The path. -/
  path : Path
deriving Repr, BEq, DecidableEq

/-- The message of a fault. -/
def FileError.message (e : FileError) : String :=
  match e.fault.number? with
  | some n => s!"[Errno {n}] " ++ e.fault.reason ++ ": " ++ Value.quotedText e.path.text
  | none => e.fault.reason

/-- The system refused something; a path that is none is not even given to it. -/
def FileError.isOfSystem (e : FileError) : Bool :=
  e.fault.number?.isSome

/-- Files and directories by location, and the working directory. -/
structure Tree where
  /-- What exists, by the names from the root to it. -/
  entries : List (List String × Entry) := []
  /-- The location of the working directory. -/
  home : List String := []
deriving Repr, BEq, DecidableEq

/-- The greatest number of bytes of a name. -/
def nameLimit : Nat := 255

/-- The number of bytes from which on a path is too long. -/
def pathLimit : Nat := 4096

/-- What keeps a path from being followed at all. -/
def Path.fault? (p : Path) : Option Fault :=
  if p.parts.any (·.toList.contains '\x00') then some .improperPath
  else if pathLimit ≤ p.text.utf8ByteSize then some .nameTooLong
  else none

namespace Tree

/-- What is at a location; the root is a directory. -/
def at? (t : Tree) (location : List String) : Option Entry :=
  if location.isEmpty then some .directory else t.entries.lookup location

/-- Follows parts from a location. -/
def walk (t : Tree) (location : List String) :
    List String → Except Fault (List String × Entry)
  | [] =>
    match t.at? location with
    | some e => .ok (location, e)
    | none => .error .missing
  | part :: rest =>
    match t.at? location with
    | some .directory =>
      if nameLimit < part.utf8ByteSize then .error .nameTooLong
      else t.walk (if part == Path.up then location.dropLast else location ++ [part]) rest
    | some (.file _) => .error .notDirectory
    | none => .error .missing

/-- Where the parts of a path start. -/
def start (t : Tree) (p : Path) : List String :=
  if p.isAbsolute then [] else t.home

/-- The location that a path leads to, and what is there. -/
def find (t : Tree) (p : Path) : Except Fault (List String × Entry) :=
  match p.fault? with
  | some fault => .error fault
  | none => t.walk (t.start p) p.parts

/-- Asks what a path leads to.  A name that is too long is no question; that something else is amiss
means that nothing is there. -/
def ask (t : Tree) (p : Path) : Except FileError (Option Entry) :=
  match t.find p with
  | .ok (_, e) => .ok (some e)
  | .error .nameTooLong => .error ⟨.nameTooLong, p⟩
  | .error _ => .ok none

/-- Asks whether a path leads to a file. -/
def asksFile (t : Tree) (p : Path) : Except FileError Bool :=
  (t.ask p).map fun found => (found.map Entry.isFile).getD false

/-- The first path of a list that leads to a file. -/
def firstFile (t : Tree) : List Path → Except FileError (Option Path)
  | [] => .ok none
  | p :: rest => do
    if ← t.asksFile p then return some p else t.firstFile rest

/-- Asks whether a path leads to a directory. -/
def asksDirectory (t : Tree) (p : Path) : Except FileError Bool :=
  (t.ask p).map fun found => found == some .directory

/-- The path leads to a directory. -/
def leadsToDirectory (t : Tree) (p : Path) : Bool :=
  match t.find p with
  | .ok (_, .directory) => true
  | _ => false

/-- The text ends like the path of a directory. -/
def endsAsDirectory (s : String) : Bool :=
  !Path.isProper (String.ofList ((Text.cutAt '/' s.toList).getLastD []))

/-- What a text leads to.  The empty text leads nowhere, and one that ends like the path of a
directory leads to no file. -/
def named? (t : Tree) (s : String) : Option Entry :=
  if s.isEmpty then none
  else
    match t.find (Path.ofText s) with
    | .ok (_, .directory) => some .directory
    | .ok (_, .file content) => if endsAsDirectory s then none else some (.file content)
    | .error _ => none

/-- The location of a path, where a part that leads up takes back the part before it, whatever
exists there. -/
def plainLocation (t : Tree) (p : Path) : List String :=
  let step (location : List String) (part : String) : List String :=
    if part == Path.up then location.dropLast else location ++ [part]
  p.parts.foldl step (t.start p)

/-- The content of a file. -/
def read (t : Tree) (p : Path) : Except FileError (List UInt8) :=
  match t.find p with
  | .ok (_, .file content) => .ok content
  | .ok (_, .directory) => .error ⟨.isDirectory, p⟩
  | .error fault => .error ⟨fault, p⟩

/-- Replaces what is at a location, or adds it. -/
def put (t : Tree) (location : List String) (e : Entry) : Tree :=
  if (t.entries.lookup location).isSome then
    { t with entries := t.entries.map fun (l, old) => if l == location then (l, e) else (l, old) }
  else { t with entries := t.entries ++ [(location, e)] }

/-- Removes what is at a location and below it. -/
def without (t : Tree) (location : List String) : Tree :=
  { t with entries := t.entries.filter fun e => !location.isPrefixOf e.1 }

/-- The location that a path would have in its directory, which must exist. -/
def place (t : Tree) (p : Path) : Except FileError (List String) :=
  match t.find p.parent with
  | .ok (location, .directory) =>
    match p.fault? with
    | some fault => .error ⟨fault, p⟩
    | none =>
      if nameLimit < p.name.utf8ByteSize then .error ⟨.nameTooLong, p⟩
      else if p.name == Path.up then .ok location.dropLast
      else .ok (location ++ p.parts.getLast?.toList)
  | .ok (_, .file _) => .error ⟨.notDirectory, p⟩
  | .error fault => .error ⟨(p.fault?).getD fault, p⟩

/-- Gives a file a content; the file is created if it does not exist. -/
def write (t : Tree) (p : Path) (content : List UInt8) : Except FileError Tree :=
  match t.place p with
  | .error e => .error e
  | .ok location =>
    match t.at? location with
    | some .directory => .error ⟨.isDirectory, p⟩
    | _ => .ok (t.put location (.file content))

/-- Creates a directory in one that exists. -/
def makeDirectory (t : Tree) (p : Path) : Except FileError Tree :=
  match t.place p with
  | .error e => .error e
  | .ok location =>
    match t.at? location with
    | some _ => .error ⟨.exists, p⟩
    | none => .ok (t.put location .directory)

/-- Creates the directories of a path that do not exist; the given parts are those behind which it
was not tried yet. -/
def makeDirectoriesFrom (t : Tree) (p : Path) : Nat → Tree × Except FileError Unit
  | 0 => (t, .ok ())
  | n + 1 =>
    let step := { p with parts := p.parts.take (n + 1) }
    let again (t : Tree) : Tree × Except FileError Unit :=
      match t.makeDirectory step with
      | .ok t => (t, .ok ())
      | .error e => if t.leadsToDirectory step then (t, .ok ()) else (t, .error e)
    match t.makeDirectory step with
    | .error ⟨.missing, _⟩ =>
      match t.makeDirectoriesFrom p n with
      | (t, .ok ()) => again t
      | (t, .error e) => (t, .error e)
    | _ => again t

/-- Creates a directory with those that hold it; one that exists stays. -/
def makeDirectories (t : Tree) (p : Path) : Tree × Except FileError Unit :=
  t.makeDirectoriesFrom p p.parts.length

/-- The files below a directory whose names pass a test, as paths seen from there and in the order
of their parts. -/
def filesBelow (t : Tree) (p : Path) (test : String → Bool) : List Path :=
  match t.find p with
  | .ok (location, .directory) =>
    let found := t.entries.filterMap fun
      | (l, .file _) =>
        if location.isPrefixOf l && test (l.getLastD "") then some (l.drop location.length)
        else none
      | _ => none
    (found.mergeSort Path.partsLE).map fun parts => { p with parts := p.parts ++ parts }
  | _ => []

/-- The files that differ from those of an earlier tree, below the working directory. -/
def changes (before after : Tree) : List (Path × List UInt8) :=
  after.entries.filterMap fun
    | (l, .file content) =>
      if !after.home.isPrefixOf l || before.entries.lookup l == some (.file content) then none
      else some ({ parts := l.drop after.home.length }, content)
    | _ => none

/-- A tree with nothing but an empty working directory. -/
def emptyAt (home : List String) : Tree where
  entries := (List.range home.length).map fun n => (home.take (n + 1), .directory)
  home := home

end Tree

/-- A file that is no text. -/
inductive ReadError where
  | file (e : FileError)
  | encoding (e : Text.Utf8Error)

/-- The message of a failed attempt to read a text. -/
def ReadError.message : ReadError → String
  | .file e => e.message
  | .encoding e => e.message

/-- The text of a file, with line feeds as ends of lines. -/
def Tree.readText (t : Tree) (p : Path) : Except ReadError (List Char) :=
  match t.read p with
  | .error e => .error (.file e)
  | .ok content =>
    match Text.decodeUtf8 content with
    | .error e => .error (.encoding e)
    | .ok cs => .ok (Text.unifyNewlines cs)

end TypedFetch.Files
