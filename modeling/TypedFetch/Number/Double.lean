/-!
# Double precision numbers

A finite double is `m · 2 ^ q` for a natural `m` below `2 ^ 53`.  Everything here works on that
exact form: the integer part, the reading of decimals, and the shortest decimal that reads back
as the same double.
-/

namespace TypedFetch.Number

/-- What a double is, exactly. -/
inductive Exact where
  /-- Not a number. -/
  | nan
  /-- An infinity; the flag says that it is negative. -/
  | infinite (negative : Bool)
  /-- The number `± mantissa · 2 ^ exponent`. -/
  | finite (negative : Bool) (mantissa : Nat) (exponent : Int)
deriving Repr, BEq

/-- The exact value of a double. -/
def exact (x : Float) : Exact :=
  let bits : Nat := x.toBits.toNat
  let negative : Bool := Nat.pow 2 63 ≤ bits
  let biased : Nat := bits / Nat.pow 2 52 % 2048
  let fraction : Nat := bits % Nat.pow 2 52
  if biased == 2047 then
    if fraction == 0 then .infinite negative else .nan
  else if biased == 0 then .finite negative fraction (-1074)
  else .finite negative (Nat.pow 2 52 + fraction) ((biased : Int) - 1075)

/-- The integer part of `m · 2 ^ q`. -/
def truncate (m : Nat) (q : Int) : Nat :=
  if 0 ≤ q then m * Nat.pow 2 q.toNat else m / Nat.pow 2 (-q).toNat

/-- The number `m · 2 ^ q` is an integer. -/
def isWhole (m : Nat) (q : Int) : Bool :=
  0 ≤ q || m % Nat.pow 2 (-q).toNat == 0

/-- An integer with a given sign. -/
def signed (negative : Bool) (n : Nat) : Int :=
  if negative then -(n : Int) else n

/-- Integers from this magnitude on round to an infinity. -/
def overflowLimit : Nat :=
  Nat.pow 2 1024 - Nat.pow 2 970

/-- The nearest double of an integer, if there is one. -/
def ofInt? (i : Int) : Option Float :=
  if overflowLimit ≤ i.natAbs then none else some (Float.ofInt i)

/-! ## Reading decimals -/

/-- The double nearest to `digits · 10 ^ exponent`, where `digits` are decimal digits. -/
def ofDecimal (negative : Bool) (digits : List Char) (exponent : Int) : Float :=
  let significant := digits.dropWhile (· == '0')
  let n := significant.foldl (fun acc c => acc * 10 + (c.toNat - 48)) 0
  let size := exponent + significant.length
  let magnitude : Float :=
    if n == 0 then 0.0
    else if 400 < size then 1.0 / 0.0
    else if size < -400 then 0.0
    else Float.ofScientific n (exponent < 0) exponent.natAbs
  if negative then -magnitude else magnitude

/-- Reads the decimal digits of a number with a fraction and an exponent, whose parts are given
as texts. -/
def ofParts (negative : Bool) (whole fraction : List Char) (exponent : Int) : Float :=
  ofDecimal negative (whole ++ fraction) (exponent - fraction.length)

/-- The value of a run of decimal digits. -/
def digitsValue (digits : List Char) : Nat :=
  digits.foldl (fun acc c => acc * 10 + (c.toNat - 48)) 0

/-- Reads an exponent part: a mark, an optional sign and at least one digit. -/
def readExponent (cs : List Char) : Option (Int × List Char) :=
  match cs with
  | mark :: rest =>
    if mark == 'e' || mark == 'E' then
      let (negative, rest) :=
        match rest with
        | '-' :: r => (true, r)
        | '+' :: r => (false, r)
        | r => (false, r)
      let digits := rest.takeWhile Char.isDigit
      if digits.isEmpty then none
      else some (signed negative (digitsValue digits), rest.dropWhile Char.isDigit)
    else none
  | [] => none

/-- Reads a decimal numeral that fills the text: a sign, digits with an optional point, an
optional exponent, or the names of an infinity or of no number. -/
def parse? (text : List Char) : Option Float :=
  let (negative, body) :=
    match text with
    | '-' :: r => (true, r)
    | '+' :: r => (false, r)
    | r => (false, r)
  let name := String.ofList (body.map Char.toLower)
  if name == "inf" || name == "infinity" then
    some (if negative then -1.0 / 0.0 else 1.0 / 0.0)
  else if name == "nan" then some (0.0 / 0.0)
  else
    let whole := body.takeWhile Char.isDigit
    let afterWhole := body.dropWhile Char.isDigit
    let (fraction, rest) :=
      match afterWhole with
      | '.' :: r => (r.takeWhile Char.isDigit, r.dropWhile Char.isDigit)
      | r => ([], r)
    if whole.isEmpty && fraction.isEmpty then none
    else match rest with
      | [] => some (ofParts negative whole fraction 0)
      | _ =>
        match readExponent rest with
        | some (e, []) => some (ofParts negative whole fraction e)
        | _ => none

/-! ## The shortest decimal -/

/-- A positive number as a quotient. -/
structure Quotient where
  /-- Numerator. -/
  num : Nat
  /-- Denominator. -/
  den : Nat

/-- The number `m · 2 ^ q` as a quotient. -/
def quotient (m : Nat) (q : Int) : Quotient :=
  if 0 ≤ q then ⟨m * Nat.pow 2 q.toNat, 1⟩ else ⟨m, Nat.pow 2 (-q).toNat⟩

/-- A quotient divided by a power of ten. -/
def Quotient.scale (x : Quotient) (k : Int) : Quotient :=
  if 0 ≤ k then ⟨x.num, x.den * Nat.pow 10 k.toNat⟩ else ⟨x.num * Nat.pow 10 (-k).toNat, x.den⟩

/-- The order of quotients. -/
def Quotient.le (x y : Quotient) : Bool :=
  x.num * y.den ≤ y.num * x.den

/-- The least number of places, counted from `k`, that lifts `x` to at least one. -/
def liftPlaces (x : Quotient) : Nat → Nat → Nat
  | 0, k => k
  | fuel + 1, k => if x.den ≤ x.num * Nat.pow 10 k then k else liftPlaces x fuel (k + 1)

/-- The exponent of the leading decimal digit of a positive quotient. -/
def leadingExponent (x : Quotient) : Int :=
  if x.den ≤ x.num then ((toString (x.num / x.den)).length : Int) - 1
  else -(liftPlaces x 400 1 : Int)

/-- The decimals that round to `m · 2 ^ q`: those from `low` to `high`, where the ends belong to
them when `m` is even. -/
def roundsTo (m : Nat) (q : Int) (d : Quotient) : Bool :=
  let low :=
    if m == Nat.pow 2 52 && -1074 < q then quotient (4 * m - 1) (q - 2)
    else quotient (2 * m - 1) (q - 1)
  let high := quotient (2 * m + 1) (q - 1)
  if m % 2 == 0 then low.le d && d.le high else !d.le low && !high.le d

/-- A decimal of `places` digits that rounds to the double, the nearer one if both neighbours do,
as its digits and the power of ten that they count. -/
def decimalWith (m : Nat) (q : Int) (places : Nat) : Option (Nat × Int) :=
  let x := quotient m q
  let k := leadingExponent x - places + 1
  let y := x.scale k
  let below := y.num / y.den
  let rest := y.num % y.den
  let value (n : Nat) : Quotient := (Quotient.mk n 1).scale (-k)
  let fits (n : Nat) : Bool := 0 < n && roundsTo m q (value n)
  let preferBelow := 2 * rest < y.den || (2 * rest == y.den && below % 2 == 0)
  if fits below && (preferBelow || !fits (below + 1)) then some (below, k)
  else if fits (below + 1) then some (below + 1, k)
  else none

/-- The shortest decimal among those with at least `places` digits. -/
def shortestFrom (m : Nat) (q : Int) : Nat → Nat → Nat × Int
  | 0, _ => (0, 0)
  | fuel + 1, places =>
    match decimalWith m q places with
    | some d => d
    | none => shortestFrom m q fuel (places + 1)

/-- The digits of the shortest decimal of a positive double, without trailing zeros, and the
exponent of the leading one. -/
def shortest (m : Nat) (q : Int) : List Char × Int :=
  let (n, k) := shortestFrom m q 20 1
  let digits := (toString n).toList
  (((digits.reverse.dropWhile (· == '0')).reverse), k + (digits.length : Int) - 1)

/-! ## Single precision -/

/-- The decimal of `places` digits that is nearest to `m · 2 ^ q`, the even one of two, as its
digits and the power of ten that they count. -/
def nearestDecimal (m : Nat) (q : Int) (places : Nat) : Nat × Int :=
  let x := quotient m q
  let k := leadingExponent x - places + 1
  let y := x.scale k
  let below := y.num / y.den
  let rest := y.num % y.den
  let up := y.den < 2 * rest || (2 * rest == y.den && below % 2 == 1)
  (if up then below + 1 else below, k)

/-- The double that is nearest to the decimal of the fewest digits, but at least `places`, which
reads back as the same number of single precision. -/
def shortestSingle (x : Float) : Nat → Nat → Float
  | 0, _ => x
  | fuel + 1, places =>
    match exact x with
    | .finite negative m q =>
      if m == 0 then x
      else
        let (n, k) := nearestDecimal m q places
        let y := ofDecimal negative (toString n).toList k
        if y.toFloat32.toFloat == x then y else shortestSingle x fuel (places + 1)
    | _ => x

/-- A number of single precision as the double that is written for it. -/
def single (x : Float) : Float :=
  shortestSingle x 12 6

/-! ## Writing -/

/-- Decisions of the decimal notation of doubles. -/
structure DecimalStyle where
  /-- Least exponent of the leading digit that is written positionally. -/
  least : Int
  /-- Exponents of the leading digit from here on are written with an exponent. -/
  limit : Int
  /-- Least number of digits of a written exponent. -/
  exponentWidth : Nat

/-- Positional from `1e-4` up to below `1e16`; an exponent has a sign and two digits. -/
def standard : DecimalStyle := ⟨-4, 16, 2⟩

/-- Zeros. -/
def zeros (n : Nat) : List Char :=
  List.replicate n '0'

/-- Writes digits whose leading one counts `10 ^ e`. -/
def DecimalStyle.write (f : DecimalStyle) (digits : List Char) (e : Int) : List Char :=
  if f.least ≤ e && e < f.limit then
    if e < 0 then '0' :: '.' :: zeros ((-e).toNat - 1) ++ digits
    else
      let whole := digits.take (e.toNat + 1)
      let fraction := digits.drop (e.toNat + 1)
      whole ++ zeros (e.toNat + 1 - whole.length) ++ '.' ::
        (if fraction.isEmpty then ['0'] else fraction)
  else
    let mantissa :=
      match digits with
      | [d] => [d]
      | d :: ds => d :: '.' :: ds
      | [] => []
    let power := (toString e.natAbs).toList
    mantissa ++ 'e' :: (if e < 0 then '-' else '+') ::
      zeros (f.exponentWidth - power.length) ++ power

/-- The text of a double: the shortest decimal that reads back as the same double. -/
def text (x : Float) : String :=
  match exact x with
  | .nan => "nan"
  | .infinite negative => if negative then "-inf" else "inf"
  | .finite negative m q =>
    let body :=
      if m == 0 then ['0', '.', '0']
      else
        let (digits, e) := shortest m q
        standard.write digits e
    String.ofList (if negative then '-' :: body else body)

end TypedFetch.Number
