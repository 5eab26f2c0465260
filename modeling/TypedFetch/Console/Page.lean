import TypedFetch.Console.Markup
import TypedFetch.Console.Table
import TypedFetch.Report

/-!
# What the console shows

The lines that events print on a console of a given width.  Their texts are marked up, and an event
whose markup is at fault prints nothing.
-/

namespace TypedFetch.Console

open TypedFetch.Text

/-- A title that leaves room for two blanks and a stroke on each side. -/
def fittedTitle (width : Nat) (title : List Char) : List Char :=
  let plain := title.map fun c => if c == '\n' then ' ' else c
  fit (width - 4) .ellipsis (if plain.contains '\t' then expandTabs plain else plain)

/-- A line of strokes with a title in its middle, if there is room for one. -/
def ruledLine (width : Nat) (title : List Char) : List Char :=
  if width ≤ 4 then List.replicate width '─'
  else
    let shown := fittedTitle width title
    let room := width - cellLength shown - 2
    let left := room / 2
    List.replicate left '─' ++ ' ' :: shown ++ ' ' :: List.replicate (room - left) '─'

/-- Rows of which every label has one: a label keeps its place, and its last value counts. -/
def distinctRows (rows : List (String × String)) : List (String × String) :=
  rows.foldl (fun done row =>
    if done.any (·.1 == row.1) then done.map fun r => if r.1 == row.1 then row else r
    else done ++ [row]) []

/-- The lines that an event prints on a console of a given width. -/
def eventLines (width : Nat) : Event → Except MarkupError (List (List Char))
  | .log _ _ => .ok []
  | .success message =>
    (plainText ("[green]✓[/green] " ++ message)).map (wrap width .fold .ragged)
  | .hint message => (plainText message).map (wrap width .fold .ragged)
  | .rule title => (plainText ("[bold blue]" ++ title)).map fun shown => [ruledLine width shown]
  | .summary title rows => do
    let cells ← (distinctRows rows).mapM fun (label, value) =>
      return (← plainText label, ← plainText value)
    let shown ← plainText title
    return tableLines width (if title.isEmpty then none else some shown) cells

/-- What is wrong with the markup of an event. -/
def eventFault? (e : Event) : Option MarkupError :=
  match eventLines 0 e with
  | .ok _ => none
  | .error fault => some fault

/-- What events print on a console of a given width. -/
def pageText (width : Nat) (events : List Event) : Except MarkupError String := do
  let lines ← events.mapM (eventLines width)
  return String.join (lines.flatten.map fun line => String.ofList line ++ "\n")

end TypedFetch.Console
