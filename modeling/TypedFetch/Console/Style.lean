import TypedFetch.Json.Reader
import TypedFetch.Number.Double
import TypedFetch.Text.Blank
import TypedFetch.Text.LetterCase
import TypedFetch.Text.Search

/-!
# Names of styles

A style is named by words: attributes, which have short forms, a colour, a colour behind the text,
and an address.  Two names that differ in the order or the form of their words name one style, so
every name has a normal form.
-/

namespace TypedFetch.Console

/-- The attributes, in their order, with their short forms. -/
def attributes : List (String × List String) :=
  [("bold", ["b"]), ("dim", ["d"]), ("italic", ["i"]), ("underline", ["u"]), ("blink", []),
   ("blink2", []), ("reverse", ["r"]), ("conceal", ["c"]), ("strike", ["s"]),
   ("underline2", ["uu"]), ("frame", []), ("encircle", []), ("overline", ["o"])]

/-- The attribute that a word names. -/
def attribute? (word : String) : Option String :=
  (attributes.find? fun a => a.1 == word || a.2.contains word).map (·.1)

/-- The names of the eight basic colours. -/
def basicColors : List String :=
  ["black", "red", "green", "yellow", "blue", "magenta", "cyan", "white"]

/-- The names of the other colours that have no numbers. -/
def plainColors : List String :=
  ["navy_blue", "dark_blue", "dark_green", "dark_cyan", "light_sea_green", "dark_turquoise",
   "medium_spring_green", "dark_red", "blue_violet", "steel_blue", "cornflower_blue", "cadet_blue",
   "medium_turquoise", "dark_magenta", "dark_violet", "purple", "light_slate_grey",
   "light_slate_gray", "medium_purple", "light_slate_blue", "dark_sea_green", "light_green",
   "medium_violet_red", "indian_red", "medium_orchid", "dark_goldenrod", "rosy_brown", "dark_khaki",
   "light_steel_blue", "green_yellow", "orchid", "violet", "tan", "hot_pink", "dark_orange",
   "light_coral", "sandy_brown"]

/-- The names of colours that are followed by a number, with the numbers. -/
def numberedColors : List (String × List Nat) :=
  [("blue", [1, 3]), ("deep_sky_blue", [1, 2, 3, 4]), ("dodger_blue", [1, 2, 3]),
   ("green", [1, 3, 4]), ("spring_green", [1, 2, 3, 4]), ("turquoise", [2, 4]), ("cyan", [1, 2, 3]),
   ("deep_pink", [1, 2, 3, 4]), ("purple", [3, 4]), ("orange", [1, 3, 4]),
   ("medium_purple", [1, 2, 3, 4]), ("slate_blue", [1, 3]), ("royal_blue", [1]),
   ("chartreuse", [1, 2, 3, 4]), ("dark_sea_green", [1, 2, 3, 4]), ("pale_turquoise", [1, 4]),
   ("steel_blue", [1, 3]), ("sky_blue", [1, 2, 3]), ("pale_green", [1, 3]),
   ("sea_green", [1, 2, 3]), ("aquamarine", [1, 3]), ("dark_slate_gray", [1, 2, 3]),
   ("light_pink", [1, 3, 4]), ("plum", [1, 2, 3, 4]), ("yellow", [1, 2, 3, 4]), ("wheat", [1, 4]),
   ("dark_olive_green", [1, 2, 3]), ("light_sky_blue", [1, 3]), ("red", [1, 3]),
   ("magenta", [1, 2, 3]), ("dark_orange", [3]), ("hot_pink", [2, 3]), ("medium_orchid", [1, 3]),
   ("light_salmon", [1, 3]), ("gold", [1, 3]), ("navajo_white", [1, 3]),
   ("light_steel_blue", [1, 3]), ("light_cyan", [1, 3]), ("pink", [1, 3]),
   ("light_goldenrod", [1, 2, 3]), ("misty_rose", [1, 3]), ("thistle", [1, 3]), ("khaki", [1, 3]),
   ("light_yellow", [3]), ("honeydew", [2]), ("orange_red", [1]), ("indian_red", [1]),
   ("salmon", [1]), ("pale_violet_red", [1]), ("orchid", [1, 2]), ("cornsilk", [1])]

/-- The shades between black and white, in per cent. -/
def grayShades : List Nat :=
  [0, 3, 7, 11, 15, 19, 23, 27, 30, 35, 37, 39, 42, 46, 50, 53, 54, 58, 62, 63, 66, 69, 70, 74, 78,
   82, 84, 85, 89, 93, 100]

/-- The names of colours. -/
def colorNames : List String :=
  let numbered := numberedColors.flatMap fun c => c.2.map fun n => c.1 ++ toString n
  let grays := grayShades.flatMap fun n => ["gray" ++ toString n, "grey" ++ toString n]
  "default" :: basicColors ++ basicColors.map ("bright_" ++ ·) ++ plainColors ++ numbered ++ grays

/-- What stands between a beginning and a closing bracket. -/
def bracketed? (head : String) (cs : List Char) : Option (List Char) :=
  match Text.dropPrefix? head.toList cs with
  | some rest => if rest.getLast? == some ')' then some rest.dropLast else none
  | none => none

/-- A number below 256. -/
def isByteNumeral (cs : List Char) : Bool :=
  !cs.isEmpty && cs.all Char.isDigit && Number.digitsValue cs < 256

/-- The word is a colour: a name, or a number in one of three notations. -/
def isColor (word : String) : Bool :=
  let cs := word.toList
  colorNames.contains word ||
    (match cs with
     | '#' :: digits => digits.length == 6 && digits.all fun c => (Json.hexValue? c).isSome
     | _ => false) ||
    ((bracketed? "color(" cs).map fun n => n.length ≤ 3 && isByteNumeral n).getD false ||
    ((bracketed? "rgb(" cs).map fun parts =>
      (Text.cutAt ',' parts).length == 3 && (Text.cutAt ',' parts).all isByteNumeral).getD false

/-- A style. -/
structure Style where
  /-- The attributes that are set, with their values. -/
  attributes : List (String × Bool) := []
  /-- The colour of the text. -/
  color : Option String := none
  /-- The colour behind the text. -/
  background : Option String := none
  /-- The address that the text leads to. -/
  address : Option String := none

/-- A word in lower case. -/
def lowered (word : String) : String :=
  String.ofList (Text.lower word.toList)

/-- Sets an attribute. -/
def Style.set (s : Style) (name : String) (value : Bool) : Style :=
  { s with attributes := s.attributes.filter (·.1 != name) ++ [(name, value)] }

/-- Adds what one word means: an attribute or a colour. -/
def Style.add? (s : Style) (word : String) : Option Style :=
  match attribute? word with
  | some a => some (s.set a true)
  | none => if isColor word then some { s with color := some word } else none

/-- Reads the words of a style; none if one has no meaning. -/
def Style.read? (s : Style) : List String → Option Style
  | [] => some s
  | [word] => s.add? (lowered word)
  | word :: next :: rest =>
    match lowered word with
    | "on" =>
      if isColor (lowered next) then read? { s with background := some (lowered next) } rest
      else none
    | "not" => (attribute? next).bind fun a => read? (s.set a false) rest
    | "link" => read? { s with address := some next } rest
    | plain => (s.add? plain).bind fun s => read? s (next :: rest)

/-- The words of a style in their order. -/
def Style.words (s : Style) : List String :=
  Console.attributes.filterMap (fun a =>
      (s.attributes.lookup a.1).map fun set => if set then a.1 else "not " ++ a.1) ++
    s.color.toList ++ (s.background.map ("on " ++ ·)).toList ++
    (s.address.map ("link " ++ ·)).toList

/-- The words of a text between its blanks. -/
def blankWords (cs : List Char) : List String :=
  let (words, last) := cs.foldl (fun (words, word) c =>
    if Text.isBlank c then (if word.isEmpty then (words, []) else (word.reverse :: words, []))
    else (words, c :: word)) ([], [])
  ((if last.isEmpty then words else last.reverse :: words).reverse).map String.ofList

/-- The normal form of the name of a style; a name that means nothing is only put in lower case. -/
def normalStyle (name : List Char) : String :=
  let trimmed := Text.trim name
  if trimmed.isEmpty || trimmed == "none".toList then "none"
  else
    match ({} : Style).read? (blankWords trimmed) with
    | some s => if s.words.isEmpty then "none" else " ".intercalate s.words
    | none => String.ofList (Text.lower trimmed)

end TypedFetch.Console
