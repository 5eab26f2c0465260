import TypedFetch.Text.Blank

/-!
# Lines

A line ends at any of the ten line boundaries; a carriage return followed by a line feed is one
boundary.  A boundary at the end of the text opens no further line.
-/

namespace TypedFetch.Text

/-- A character that ends a line. -/
def isLineBoundary (c : Char) : Bool :=
  let n := c.toNat
  (10 ≤ n && n ≤ 13) || (28 ≤ n && n ≤ 30) || n == 133 || n == 8232 || n == 8233

/-- Splits a text into lines; `current` holds the open line backwards. -/
def linesFrom (current : List Char) : List Char → List (List Char)
  | [] => if current.isEmpty then [] else [current.reverse]
  | '\r' :: '\n' :: rest => current.reverse :: linesFrom [] rest
  | c :: rest =>
    if isLineBoundary c then current.reverse :: linesFrom [] rest
    else linesFrom (c :: current) rest

/-- The lines of a text, without their boundaries. -/
def lines (cs : List Char) : List (List Char) :=
  linesFrom [] cs

/-- The lines of a string. -/
def linesOf (s : String) : List String :=
  (lines s.toList).map String.ofList

/-- The lines of a comment without blanks at their ends and without blank lines; none if nothing
is left. -/
def cleanComment (s : String) : Option String :=
  let kept := ((lines (trim s.toList)).map trim).filter (!·.isEmpty)
  if kept.isEmpty then none else some (String.ofList (List.intercalate ['\n'] kept))

/-- Carriage returns, alone or before a line feed, become line feeds. -/
def unifyNewlines : List Char → List Char
  | [] => []
  | '\r' :: '\n' :: rest => '\n' :: unifyNewlines rest
  | '\r' :: rest => '\n' :: unifyNewlines rest
  | c :: rest => c :: unifyNewlines rest

end TypedFetch.Text
