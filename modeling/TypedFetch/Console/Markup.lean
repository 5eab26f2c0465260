import TypedFetch.Console.Pictograph
import TypedFetch.Console.Style
import TypedFetch.Text.Search

/-!
# Markup

A text for the console may hold tags in square brackets, which open and close styles and are not
shown.  A backslash takes its meaning from a tag.  A tag that closes must have something to close.
-/

namespace TypedFetch.Console

/-- Something is wrong with the tags of a text. -/
inductive MarkupError where
  /-- A tag closes a style that is not open. -/
  | notOpen (style : String)
  /-- A tag closes the last style, and none is open. -/
  | nothingOpen
deriving Repr, BEq, DecidableEq

/-- A markup error in words. -/
def MarkupError.message : MarkupError → String
  | notOpen style => "closing tag '[/" ++ style ++ "]' doesn't match any open tag"
  | nothingOpen => "closing tag '[/]' has nothing to close"

/-- A part of a marked up text. -/
inductive Piece where
  /-- Characters. -/
  | text (cs : List Char)
  /-- What a tag holds between its brackets. -/
  | tag (cs : List Char)
deriving Repr, BEq, DecidableEq

/-- A character with which a tag begins. -/
def startsTag (c : Char) : Bool :=
  ('a' ≤ c && c ≤ 'z') || c == '#' || c == '/' || c == '@'

/-- What a tag holds, behind its opening bracket, and what follows it. -/
def cutTag? : List Char → Option (List Char × List Char)
  | [] => none
  | c :: rest =>
    let more := rest.takeWhile fun d => d != '[' && d != ']'
    match rest.drop more.length with
    | ']' :: after => if startsTag c then some (c :: more, after) else none
    | _ => none

/-- A piece of text, if it is not empty; the characters come backwards. -/
def textPiece (cs : List Char) : List Piece :=
  if cs.isEmpty then [] else [.text cs.reverse]

/-- Cuts a text at its tags, where `plain` holds the characters since the last one backwards.  Of
the backslashes in front of a tag every two stand for one; a last one makes the tag a text. -/
def piecesFrom (plain : List Char) : Nat → List Char → List Piece
  | 0, _ => textPiece plain
  | n + 1, cs =>
    let slashes := cs.takeWhile (· == '\\')
    match cs.drop slashes.length with
    | [] => textPiece (slashes ++ plain)
    | c :: rest =>
      match (if c == '[' then cutTag? rest else none) with
      | none => piecesFrom (c :: slashes ++ plain) n rest
      | some (tag, after) =>
        let isText := slashes.length % 2 == 1
        textPiece plain ++ textPiece (slashes.take (slashes.length / 2)) ++
          (if isText then .text ('[' :: tag ++ [']']) else .tag tag) :: piecesFrom [] n after

/-- The pieces of a marked up text. -/
def pieces (cs : List Char) : List Piece :=
  piecesFrom [] (cs.length + 1) cs

/-- A character that moves the cursor or rings is not shown. -/
def isShown (c : Char) : Bool :=
  !([7, 8, 11, 12, 13].contains c.toNat)

/-- What a piece of text shows: a backslash in front of a bracket is dropped. -/
def shownText (cs : List Char) : List Char :=
  (drawPictographs (Text.replaceAll ['\\', '['] ['['] cs)).filter isShown

/-- The styles that are open after a tag, the last one first. -/
def applyTag (styles : List String) (tag : List Char) : Except MarkupError (List String) :=
  match (Text.cutFirst '=' tag).1 with
  | '/' :: name =>
    if (Text.trim name).isEmpty then
      if styles.isEmpty then .error .nothingOpen else .ok (styles.drop 1)
    else
      let style := normalStyle name
      if styles.contains style then .ok (styles.erase style) else .error (.notOpen style)
  | name => .ok (normalStyle name :: styles)

/-- What pieces show, where some styles are open. -/
def showPieces (styles : List String) : List Piece → Except MarkupError (List Char)
  | [] => .ok []
  | .text cs :: rest => (showPieces styles rest).map (shownText cs ++ ·)
  | .tag tag :: rest => do
    let styles ← applyTag styles tag
    showPieces styles rest

/-- What a marked up text shows. -/
def plainText (markup : String) : Except MarkupError (List Char) :=
  showPieces [] (pieces markup.toList)

end TypedFetch.Console
