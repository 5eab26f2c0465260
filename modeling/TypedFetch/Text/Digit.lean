/-!
# Decimal digits

The decimal digits of all scripts.  Every script has its ten digits in a row, so the digit zero of
each one is enough.
-/

namespace TypedFetch.Text

/-- The code points of the digits zero. -/
def zeroDigits : List Nat :=
  [48, 1632, 1776, 1984, 2406, 2534, 2662, 2790, 2918, 3046, 3174, 3302, 3430, 3558, 3664,
   3792, 3872, 4160, 4240, 6112, 6160, 6470, 6608, 6784, 6800, 6992, 7088, 7232, 7248, 42528,
   43216, 43264, 43472, 43504, 43600, 44016, 65296, 66720, 68912, 69734, 69872, 69942, 70096,
   70384, 70736, 70864, 71248, 71360, 71472, 71904, 72016, 72784, 73040, 73120, 92768, 92864,
   93008, 120782, 120792, 120802, 120812, 120822, 123200, 123632, 125264, 130032]

/-- The value of a decimal digit of any script. -/
def digitValue? (c : Char) : Option Nat :=
  let n := c.toNat
  if n < 128 then (if c.isDigit then some (n - 48) else none)
  else (zeroDigits.find? fun least => least ≤ n && n < least + 10).map (n - ·)

/-- Writes the digits of other scripts as those of ASCII. -/
def plainDigits (cs : List Char) : List Char :=
  cs.map fun c => ((digitValue? c).map fun d => Char.ofNat (48 + d)).getD c

/-- Removes single underscores between digits; none if one stands elsewhere.  `before` is the
character in front. -/
def joinDigitGroups : Option Char → List Char → Option (List Char)
  | _, [] => some []
  | before, '_' :: rest =>
    let between := (before.map Char.isDigit).getD false && (rest.head?.map Char.isDigit).getD false
    if between then joinDigitGroups (some '_') rest else none
  | _, c :: rest => (joinDigitGroups (some c) rest).map (c :: ·)

end TypedFetch.Text
