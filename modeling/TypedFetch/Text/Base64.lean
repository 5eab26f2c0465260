/-!
# Base 64

The alphabet of 64 digits, reading and writing.  The reader passes over characters outside of the
alphabet and stops at complete padding.
-/

namespace TypedFetch.Text.Base64

/-- The value of a digit. -/
def digit? (c : Char) : Option Nat :=
  if 'A' ≤ c && c ≤ 'Z' then some (c.toNat - 65)
  else if 'a' ≤ c && c ≤ 'z' then some (c.toNat - 71)
  else if '0' ≤ c && c ≤ '9' then some (c.toNat + 4)
  else if c == '+' || c == '-' then some 62
  else if c == '/' || c == '_' then some 63
  else none

/-- What was read of a group of four digits. -/
inductive Group where
  /-- Nothing. -/
  | start
  /-- One digit: six bits. -/
  | one (high : Nat)
  /-- Two digits: the low four bits are left over. -/
  | two (left : Nat)
  /-- Three digits: the low two bits are left over. -/
  | three (left : Nat)
deriving Repr, BEq, DecidableEq

/-- The number of digits of a group. -/
def Group.size : Group → Nat
  | .start => 0
  | .one _ => 1
  | .two _ => 2
  | .three _ => 3

/-- Adds a digit to a group: the bytes that it completes, and the new group. -/
def Group.push (g : Group) (d : Nat) : List UInt8 × Group :=
  match g with
  | .start => ([], .one d)
  | .one high => ([UInt8.ofNat (high * 4 + d / 16)], .two (d % 16))
  | .two left => ([UInt8.ofNat (left * 16 + d / 4)], .three (d % 4))
  | .three left => ([UInt8.ofNat (left * 64 + d)], .start)

/-- Reads digits; `pads` counts the padding since the last digit.  An incomplete group at the end is
an error. -/
def decodeFrom (g : Group) (pads : Nat) : List Char → Option (List UInt8)
  | [] => if g.size == 0 then some [] else none
  | c :: rest =>
    if c == '=' then
      if 2 ≤ g.size && 4 ≤ g.size + pads + 1 then some []
      else decodeFrom g (pads + 1) rest
    else
      match digit? c with
      | none => decodeFrom g pads rest
      | some d =>
        let (bytes, g') := g.push d
        (decodeFrom g' 0 rest).map (bytes ++ ·)

/-- The bytes of a text in base 64; a character beyond ASCII is an error. -/
def decode (cs : List Char) : Option (List UInt8) :=
  if cs.all (fun c => c.toNat < 128) then decodeFrom .start 0 cs else none

/-- Fills a text up to a multiple of four characters. -/
def pad (cs : List Char) : List Char :=
  cs ++ List.replicate ((4 - cs.length % 4) % 4) '='

/-- The digit of a value, in the alphabet for addresses. -/
def urlDigit (n : Nat) : Char :=
  if n < 26 then Char.ofNat (n + 65)
  else if n < 52 then Char.ofNat (n + 71)
  else if n < 62 then Char.ofNat (n - 4)
  else if n == 62 then '-'
  else '_'

/-- Bytes in base 64 for addresses, without padding. -/
def encodeUrl : List UInt8 → List Char
  | [] => []
  | [a] => [urlDigit (a.toNat / 4), urlDigit (a.toNat % 4 * 16)]
  | [a, b] =>
    [urlDigit (a.toNat / 4), urlDigit (a.toNat % 4 * 16 + b.toNat / 16),
     urlDigit (b.toNat % 16 * 4)]
  | a :: b :: c :: rest =>
    urlDigit (a.toNat / 4) :: urlDigit (a.toNat % 4 * 16 + b.toNat / 16) ::
      urlDigit (b.toNat % 16 * 4 + c.toNat / 64) :: urlDigit (c.toNat % 64) :: encodeUrl rest

end TypedFetch.Text.Base64
