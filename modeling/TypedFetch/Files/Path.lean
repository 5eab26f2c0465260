import TypedFetch.Text.Search

/-!
# Paths

A path is a list of parts, absolute or relative.  Empty parts and parts of one point are dropped
when a text is read; parts of two points stay, because what they mean depends on the files.
-/

namespace TypedFetch.Files

/-- Where a path starts. -/
inductive Root where
  /-- At the working directory. -/
  | home
  /-- At the root. -/
  | top
  /-- At the root, written with two slashes, which are kept. -/
  | doubleTop
deriving Repr, BEq, ReflBEq, LawfulBEq, DecidableEq

/-- How the start of a path is written. -/
def Root.text : Root → String
  | home => ""
  | top => "/"
  | doubleTop => "//"

/-- How a text starts as a path: exactly two slashes are kept, and more count as one. -/
def Root.ofText (s : String) : Root :=
  match (s.toList.takeWhile (· == '/')).length with
  | 0 => home
  | 2 => doubleTop
  | _ => top

/-- A path to a file or directory. -/
structure Path where
  /-- Where it starts. -/
  root : Root := .home
  /-- The names from left to right. -/
  parts : List String := []
deriving Repr, BEq, ReflBEq, LawfulBEq, DecidableEq

namespace Path

/-- The path starts at the root. -/
def isAbsolute (p : Path) : Bool :=
  p.root != .home

/-- A path that starts at the root. -/
def absolute (parts : List String) : Path :=
  ⟨.top, parts⟩

/-- A part that says something about the place. -/
def isProper (part : String) : Bool :=
  part != "" && part != "."

/-- The part that leads back to the directory above. -/
def up : String := ".."

/-- Reads a path. -/
def ofText (s : String) : Path where
  root := .ofText s
  parts := ((Text.cutAt '/' s.toList).map String.ofList).filter isProper

/-- The text of a path; the empty one is written as a point. -/
def text (p : Path) : String :=
  let body := "/".intercalate p.parts
  if p == {} then "." else p.root.text ++ body

/-- A path seen from another one: an absolute path stands alone. -/
def join (p q : Path) : Path :=
  if q.isAbsolute then q else { p with parts := p.parts ++ q.parts }

/-- The path that a text names, seen from another path. -/
def child (p : Path) (s : String) : Path :=
  p.join (ofText s)

/-- The path of what holds a path. -/
def parent (p : Path) : Path :=
  { p with parts := p.parts.dropLast }

/-- The last part, empty if there is none. -/
def name (p : Path) : String :=
  p.parts.getLastD ""

/-- The end of the name from its last point on, unless the point is the first or last character. -/
def suffix (p : Path) : String :=
  let cs := p.name.toList
  let tail := Text.afterLast '.' cs
  if tail.isEmpty || cs.length ≤ tail.length + 1 then "" else "." ++ String.ofList tail

/-- The order of paths by their parts. -/
def partsLE : List String → List String → Bool
  | [], _ => true
  | _ :: _, [] => false
  | a :: as, b :: bs => if a == b then partsLE as bs else Text.textLE a b

end Path

end TypedFetch.Files
