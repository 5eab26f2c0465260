/-!
# Blank characters

The characters that count as white space: the ASCII blanks, the information separators and the
space characters of the other scripts.  Trimming removes them at the ends of a text.
-/

namespace TypedFetch.Text

/-- White space of any script. -/
def isBlank (c : Char) : Bool :=
  let n := c.toNat
  (9 ≤ n && n ≤ 13) || (28 ≤ n && n ≤ 32) || n == 133 || n == 160 || n == 5760 ||
    (8192 ≤ n && n ≤ 8202) || n == 8232 || n == 8233 || n == 8239 || n == 8287 || n == 12288

/-- White space that is no information separator. -/
def isSpace (c : Char) : Bool :=
  isBlank c && !(28 ≤ c.toNat && c.toNat ≤ 31)

/-- Drops the characters of a class at the end of a text. -/
def dropEndWhile (p : Char → Bool) (cs : List Char) : List Char :=
  (cs.reverse.dropWhile p).reverse

/-- Drops the characters of a class at both ends of a text. -/
def trimWhile (p : Char → Bool) (cs : List Char) : List Char :=
  dropEndWhile p (cs.dropWhile p)

/-- The text without blanks at its ends. -/
def trim (cs : List Char) : List Char :=
  trimWhile isBlank cs

/-- The string without blanks at its ends. -/
def trimmed (s : String) : String :=
  String.ofList (trim s.toList)

/-- The text holds nothing but blanks. -/
def isBlankText (cs : List Char) : Bool :=
  cs.all isBlank

end TypedFetch.Text
