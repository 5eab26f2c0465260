import TypedFetch.Text.Lines
import TypedFetch.Text.Wrap

/-!
# Tables

A table of two columns without visible borders: labels on the left, values on the right.  Its
columns are as wide as what they hold; in a narrow console the wider column gives way first.
-/

namespace TypedFetch.Console

open TypedFetch.Text

/-- A quotient that is rounded to the nearest integer, a half to the even one. -/
def roundedQuotient (n d : Nat) : Nat :=
  let q := n / d
  let r := 2 * (n % d)
  if r < d || (r == d && q % 2 == 0) then q else q + 1

/-- A column that may give way: whether it takes part, by how much at most, and its width. -/
structure Slack where
  /-- The column takes part. -/
  takesPart : Bool
  /-- By how much it may give way. -/
  most : Nat
  /-- The width of the column. -/
  width : Nat

/-- Takes cells from columns, from each one its share of what is left. -/
def shareOut (excess parts : Nat) : List Slack → List Nat
  | [] => []
  | c :: rest =>
    if c.takesPart then
      let cut := min c.most (roundedQuotient excess parts)
      (c.width - cut) :: shareOut (excess - cut) (parts - 1) rest
    else c.width :: shareOut excess parts rest

/-- Takes cells from the columns that may give way. -/
def reduce (excess : Nat) (columns : List Slack) : List Nat :=
  let columns := columns.map fun c => { c with takesPart := c.takesPart && c.most != 0 }
  shareOut excess (columns.countP (·.takesPart)) columns

/-- The total of some widths. -/
def total (widths : List Nat) : Nat :=
  widths.foldl (· + ·) 0

/-- Lets the widest columns give way down to the next ones until all fit. -/
def collapse (room : Nat) : Nat → List Nat → List Nat
  | 0, widths => widths
  | fuel + 1, widths =>
    let excess := total widths - room
    let widest := widths.foldl max 0
    let next := (widths.filter (· != widest)).foldl max 0
    if excess == 0 || widest == next then widths
    else
      let most := min excess (widest - next)
      collapse room fuel (reduce excess (widths.map fun w => ⟨w == widest, most, w⟩))

/-- The blanks at the sides of a cell. -/
def cellPadding : Nat := 2

/-- The cells that the edges of a table and the gap between its columns fill. -/
def edgeWidth : Nat := 3

/-- The width of a column that holds some texts, where some cells are left for it. -/
def columnWidth (room : Nat) (texts : List (List Char)) : Nat :=
  if room == 0 then 0
  else
    let widthOf (cs : List Char) : Nat :=
      ((lines cs).map cellLength).foldl max 0 + cellPadding
    if texts.isEmpty then room
    else if room ≤ cellPadding then room
    else min room ((texts.map widthOf).foldl max 0)

/-- The widths of columns on a console of a given width. -/
def columnWidths (width : Nat) (columns : List (List (List Char))) : List Nat :=
  let room := width - edgeWidth
  let widths := columns.map fun texts => max 1 (columnWidth room texts)
  if total widths ≤ room then widths
  else
    let widths := collapse room (total widths) widths
    let widths :=
      if total widths ≤ room then widths
      else reduce (total widths - room) (widths.map fun w => ⟨true, w, w⟩)
    (widths.zip columns).map fun (w, texts) => columnWidth w texts

/-- The lines of a cell of a given width. -/
def cellLines (width : Nat) (a : Justification) (cs : List Char) : List (List Char) :=
  let room := width - cellPadding
  if room == 0 then []
  else (wrap room .ellipsis a cs).map fun line => ' ' :: padRight room line ++ [' ']

/-- The lines of a row, in which all cells have the same height. -/
def rowLines (labelWidth valueWidth : Nat) (label value : List Char) : List (List Char) :=
  let left := cellLines labelWidth .left label
  let right := cellLines valueWidth .right value
  (List.range (max 1 (max left.length right.length))).map fun i =>
    ' ' :: padRight labelWidth (left[i]?.getD []) ++ ' ' ::
      padRight valueWidth (right[i]?.getD []) ++ [' ']

/-- A table with a title on a console of a given width: the title, then the rows between blank
lines. -/
def tableLines (width : Nat) (title : Option (List Char)) (rows : List (List Char × List Char)) :
    List (List Char) :=
  match columnWidths width [rows.map (·.1), rows.map (·.2)] with
  | [labelWidth, valueWidth] =>
    let full := labelWidth + valueWidth + edgeWidth
    let heading := (title.map (wrap full .fold .left)).getD []
    let blank := List.replicate full ' '
    let body := rows.flatMap fun (label, value) => rowLines labelWidth valueWidth label value
    (heading ++ blank :: body ++ [blank]).map (fit width .fold)
  | _ => []

end TypedFetch.Console
