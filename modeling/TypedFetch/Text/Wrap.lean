import TypedFetch.Text.Blank
import TypedFetch.Text.CellWidth
import TypedFetch.Text.Search

/-!
# Wrapping

A text that is too wide for its lines is broken in front of a word.  The blanks behind a word stay
on its line, as far as there is room.  A word that is too wide for any line is cut into pieces, or
its end gives way to an ellipsis.
-/

namespace TypedFetch.Text

/-- What happens to a word that is too wide for a line. -/
inductive Overflow where
  /-- It goes on on the next line. -/
  | fold
  /-- An ellipsis stands for its end. -/
  | ellipsis
deriving Repr, BEq, DecidableEq

/-- Where a line stands in its width. -/
inductive Justification where
  /-- On the left, without blanks behind it. -/
  | ragged
  /-- On the left. -/
  | left
  /-- On the right. -/
  | right
deriving Repr, BEq, DecidableEq

/-- The words of a text with the blanks behind them, where `word` holds the open word backwards and
`ended` says that a blank came after it.  The blanks in front of the first word belong to it. -/
def wordsFrom (word : List Char) (ended : Bool) : List Char → List (List Char)
  | [] => if word.isEmpty then [] else [word.reverse]
  | c :: rest =>
    if isBlank c then wordsFrom (c :: word) (!isBlankText word) rest
    else if ended then word.reverse :: wordsFrom [c] false rest
    else wordsFrom (c :: word) false rest

/-- Lays words out on lines of a given width; `line` is the open line, and fills `used` cells. -/
def layOut (width : Nat) (o : Overflow) (line : List Char) (used : Nat) :
    List (List Char) → List (List Char)
  | [] => [line]
  | word :: rest =>
    let needed := cellLength (dropEndWhile isBlank word)
    let before := if line.isEmpty then [] else [line]
    if used + needed ≤ width then layOut width o (line ++ word) (used + cellLength word) rest
    else if needed ≤ width then line :: layOut width o word (cellLength word) rest
    else
      match o with
      | .ellipsis => before ++ layOut width o word (cellLength word) rest
      | .fold =>
        let parts := chop width word
        let parts := if line.isEmpty then parts.dropWhile List.isEmpty else parts
        let last := parts.getLastD []
        before ++ parts.dropLast ++ layOut width o last (cellLength last) rest

/-- The number of cells from one tab stop to the next. -/
def tabSize : Nat := 8

/-- Fills up to the tab stops; a tab is one blank at least. -/
def expandTabs (cs : List Char) : List Char :=
  let parts := cutAt '\t' cs
  let stretched (part : List Char) : List Char :=
    let filled := part ++ [' ']
    filled ++ List.replicate ((tabSize - cellLength filled % tabSize) % tabSize) ' '
  parts.dropLast.flatMap stretched ++ parts.getLastD []

/-- Drops blanks at the end, as far as the text has more characters than there are cells. -/
def dropExcess (width : Nat) (cs : List Char) : List Char :=
  let blanks := cs.length - (dropEndWhile isBlank cs).length
  cs.take (cs.length - min blanks (cs.length - width))

/-- A text that fills no more than a given width. -/
def fit (width : Nat) (o : Overflow) (cs : List Char) : List Char :=
  if cellLength cs ≤ width then cs
  else
    match o with
    | .fold => takeCells width cs
    | .ellipsis => takeCells (width - 1) cs ++ ['…']

/-- A line in its width. -/
def align (width : Nat) (o : Overflow) (a : Justification) (line : List Char) : List Char :=
  match a with
  | .ragged => fit width o line
  | .left => padRight width (fit width o line)
  | .right => padLeft width (fit width o (dropEndWhile isBlank line))

/-- The lines that a text without line feeds takes on a page of a given width. -/
def wrapLine (width : Nat) (o : Overflow) (a : Justification) (cs : List Char) : List (List Char) :=
  let cs := if cs.contains '\t' then expandTabs cs else cs
  let lines := if isBlankText cs then [cs] else layOut width o [] 0 (wordsFrom [] false cs)
  lines.map fun line => align width o a (dropExcess width line)

/-- The lines that a text takes on a page of a given width. -/
def wrap (width : Nat) (o : Overflow) (a : Justification) (cs : List Char) : List (List Char) :=
  (cutAt '\n' cs).flatMap (wrapLine width o a)

end TypedFetch.Text
