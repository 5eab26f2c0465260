/-!
# Comments between tokens

Which declaration a comment belongs to depends on what lies between two tokens.  A comment on the
line of the token before belongs to that token's declaration.  So does a block of comments after it
that ends at a blank line or at the end of a scope, unless a blank line comes before it.  A comment
directly above a token belongs to the token's declaration.  All other comments belong to none.
-/

namespace TypedFetch.Proto

/-- Something between two tokens. -/
inductive GapItem where
  /-- The end of a line. -/
  | newline
  /-- A comment up to the end of its line, which it includes if there is one. -/
  | line (text : String) (ended : Bool)
  /-- A comment that may go over several lines. -/
  | block (text : String) (breaks : Nat)
deriving Repr, BEq, DecidableEq

/-- The comments around a gap. -/
structure GapComments where
  /-- The comment that belongs to what comes before. -/
  trailing : String := ""
  /-- The comment that belongs to what comes after. -/
  leading : String := ""
deriving Repr, BEq, DecidableEq

/-- Comments of a gap that is read from left to right. -/
structure Collector where
  /-- The comment whose place is not known yet, and whether it is made of line comments. -/
  pending : Option (Bool × String) := none
  /-- The comment that belongs to what comes before. -/
  trailing : Option String := none
  /-- The next finished comment may belong to what comes before. -/
  attachable : Bool := true
  /-- The number of finished comments. -/
  finished : Nat := 0
deriving Repr, BEq, DecidableEq

namespace Collector

/-- The pending comment does not belong to what comes after. -/
def flush (c : Collector) : Collector :=
  match c.pending with
  | none => c
  | some (_, text) =>
    { pending := none
      trailing := if c.attachable then some text else c.trailing
      attachable := false
      finished := c.finished + 1 }

/-- No further comment belongs to what comes before. -/
def detach (c : Collector) : Collector :=
  { c with attachable := false }

/-- Adds a line comment; adjacent ones are one comment. -/
def addLine (c : Collector) (text : String) : Collector :=
  match c.pending with
  | some (true, old) => { c with pending := some (true, old ++ text) }
  | _ => { c.flush with pending := some (true, text) }

/-- Adds a block comment, which always stands alone. -/
def addBlock (c : Collector) (text : String) : Collector :=
  { c.flush with pending := some (false, text) }

/-- A single comment between two tokens of one line belongs to neither. -/
def release (c : Collector) : Collector :=
  if c.finished + (if c.pending.isSome then 1 else 0) == 1 then
    { c with pending := none, trailing := none }
  else c

/-- Reads the items after the line of the token before; gives the number of lines passed too. -/
def read (c : Collector) (lines : Nat) : List GapItem → Collector × Nat
  | [] => (c, lines)
  | .newline :: rest => read c.flush.detach (lines + 1) rest
  | .line text ended :: rest =>
    read (c.addLine text) (if ended then lines + 1 else lines) rest
  | .block text breaks :: .newline :: rest => read (c.addBlock text) (lines + breaks + 1) rest
  | .block text breaks :: rest => read (c.addBlock text) (lines + breaks) rest

/-- The comments that were collected. -/
def comments (c : Collector) : GapComments where
  trailing := c.trailing.getD ""
  leading := (c.pending.map (·.2)).getD ""

end Collector

/-- Ends the reading of a gap.  Before the end of a scope no comment belongs to what comes after;
tokens on one line release a comment between them. -/
def finishGap (c : Collector) (sameLine closes : Bool) : GapComments :=
  (if closes then c.flush else if sameLine then c.release else c).comments

/-- The comments of the gap before the first token. -/
def openingComments (items : List GapItem) (closes : Bool) : GapComments :=
  let (c, _) := Collector.read { attachable := false } 0 items
  finishGap c false closes

/-- The comments of the gap between two tokens; `closes` says that the second one ends a scope. -/
def gapComments (items : List GapItem) (closes : Bool) : GapComments :=
  match items with
  | [] => {}
  | .newline :: rest =>
    let (c, _) := Collector.read {} 1 rest
    finishGap c false closes
  | .line text ended :: rest =>
    let start := (Collector.addLine {} text).flush
    let (c, lines) := start.read (if ended then 1 else 0) rest
    finishGap c (lines == 0) closes
  | .block text breaks :: rest =>
    let start := (Collector.addBlock {} text).flush
    let (c, lines) := start.read breaks rest
    finishGap c (lines == breaks) closes

end TypedFetch.Proto
