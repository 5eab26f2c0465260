/-!
# Searching and replacing

Occurrences are found from left to right and do not overlap.
-/

namespace TypedFetch.Text

/-- What follows `head` at the start of a text. -/
def dropPrefix? (head : List Char) (cs : List Char) : Option (List Char) :=
  if head.isPrefixOf cs then some (cs.drop head.length) else none

/-- Replaces occurrences of `old`, at most `limit` of them, after passing over `skip` characters. -/
def replaceFrom (old new : List Char) : Nat → Nat → List Char → List Char
  | _, _, [] => []
  | limit, skip + 1, _ :: rest => replaceFrom old new limit skip rest
  | 0, 0, c :: rest => c :: rest
  | limit + 1, 0, c :: rest =>
    if old.isPrefixOf (c :: rest) then new ++ replaceFrom old new limit (old.length - 1) rest
    else c :: replaceFrom old new (limit + 1) 0 rest

/-- Replaces every occurrence of `old`, which is not empty. -/
def replaceAll (old new : List Char) (cs : List Char) : List Char :=
  replaceFrom old new (cs.length + 1) 0 cs

/-- Replaces the first occurrence of `old`, which is not empty. -/
def replaceFirst (old new : List Char) (cs : List Char) : List Char :=
  replaceFrom old new 1 0 cs

/-- Replaces every occurrence of `old` in a string. -/
def replacing (old new s : String) : String :=
  String.ofList (replaceAll old.toList new.toList s.toList)

/-- Some part of the text equals `part`. -/
def occursIn (part : List Char) : List Char → Bool
  | [] => part.isEmpty
  | c :: rest => part.isPrefixOf (c :: rest) || occursIn part rest

/-- The text cut at every occurrence of a character. -/
def cutAt (sep : Char) : List Char → List (List Char)
  | [] => [[]]
  | c :: rest =>
    if c == sep then [] :: cutAt sep rest
    else match cutAt sep rest with
      | [] => [[c]]
      | first :: others => (c :: first) :: others

/-- The part before the first occurrence of a character, and the part after it. -/
def cutFirst (sep : Char) (cs : List Char) : List Char × Option (List Char) :=
  match cs.dropWhile (· != sep) with
  | [] => (cs, none)
  | _ :: rest => (cs.takeWhile (· != sep), some rest)

/-- The part after the last occurrence of a character, or all of the text. -/
def afterLast (sep : Char) (cs : List Char) : List Char :=
  (cs.reverse.takeWhile (· != sep)).reverse

/-- Order of texts by their characters, compared from the left. -/
def charsLE : List Char → List Char → Bool
  | [], _ => true
  | _ :: _, [] => false
  | a :: as, b :: bs => if a == b then charsLE as bs else a.toNat < b.toNat

/-- Order of strings by their characters, compared from the left. -/
def textLE (a b : String) : Bool :=
  charsLE a.toList b.toList

end TypedFetch.Text
