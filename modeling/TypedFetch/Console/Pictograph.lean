import TypedFetch.Console.PictographName
import TypedFetch.Text.Blank
import TypedFetch.Text.LetterCase

/-!
# Pictographs

A pictograph can be written by its name between colons.  After a dash the name may say which form
is wanted, and a selector asks for it.
-/

namespace TypedFetch.Console

/-- The forms that a name may ask for, and their selectors. -/
def pictographForms : List (String × Char) :=
  [("-emoji", '\ufe0f'), ("-text", '\ufe0e')]

/-- What a name between colons stands for. -/
def pictograph? (name : List Char) : Option (List Char) :=
  let form := pictographForms.find? fun f => f.1.toList.isSuffixOf name
  let plain := ((form.map fun f => name.take (name.length - f.1.length))).getD name
  (pictographs.lookup (String.ofList (Text.lower plain))).map fun drawn =>
    drawn.toList ++ (form.map (·.2)).toList

/-- Replaces the names of pictographs; what stands between colons and is no name stays. -/
def drawPictographsFrom : Nat → List Char → List Char
  | 0, cs => cs
  | _, [] => []
  | n + 1, c :: rest =>
    if c != ':' then c :: drawPictographsFrom n rest
    else
      let name := rest.takeWhile fun d => d != ':' && !Text.isBlank d
      match rest.drop name.length with
      | ':' :: more =>
        (pictograph? name).getD (':' :: name ++ [':']) ++ drawPictographsFrom n more
      | _ => ':' :: drawPictographsFrom n rest

/-- Replaces the names of pictographs in a text. -/
def drawPictographs (cs : List Char) : List Char :=
  drawPictographsFrom cs.length cs

end TypedFetch.Console
