/-!
# Bytes as text

Decoding of UTF-8, with the place and the reason of the first fault, and of UTF-16 and UTF-32.
-/

namespace TypedFetch.Text

/-- Why a byte sequence is no text. -/
inductive Utf8Fault where
  | invalidStart
  | invalidContinuation
  | unexpectedEnd
deriving Repr, BEq, DecidableEq

/-- The reason in words. -/
def Utf8Fault.reason : Utf8Fault → String
  | .invalidStart => "invalid start byte"
  | .invalidContinuation => "invalid continuation byte"
  | .unexpectedEnd => "unexpected end of data"

/-- A fault in a byte sequence: the offending bytes begin at `start` and end before `stop`. -/
structure Utf8Error where
  /-- Offset of the first offending byte. -/
  start : Nat
  /-- Offset after the last offending byte. -/
  stop : Nat
  /-- The first offending byte. -/
  byte : UInt8
  /-- What is wrong with it. -/
  fault : Utf8Fault
deriving Repr, BEq

/-- Two lower case hexadecimal digits. -/
def hexByte (b : UInt8) : String :=
  String.ofList [Nat.digitChar (b.toNat / 16), Nat.digitChar (b.toNat % 16)]

/-- The message of a decoding error. -/
def Utf8Error.message (e : Utf8Error) : String :=
  let place :=
    if e.stop == e.start + 1 then "byte 0x" ++ hexByte e.byte ++ " in position " ++ toString e.start
    else "bytes in position " ++ toString e.start ++ "-" ++ toString (e.stop - 1)
  "'utf-8' codec can't decode " ++ place ++ ": " ++ e.fault.reason

/-- A continuation byte. -/
def isContinuation (b : UInt8) : Bool :=
  0x80 ≤ b && b < 0xC0

/-- What the bytes at the start of a sequence are: a character and its width, or a fault and the
number of offending bytes (none for "all that is left"). -/
def decodeOne (b : UInt8) (rest : List UInt8) : Except (Utf8Fault × Option Nat) (Char × Nat) :=
  let low (x : UInt8) : Nat := x.toNat % 64
  if b < 0x80 then .ok (Char.ofNat b.toNat, 1)
  else if b < 0xC2 then .error (.invalidStart, some 1)
  else if b < 0xE0 then
    match rest with
    | [] => .error (.unexpectedEnd, none)
    | c :: _ =>
      if isContinuation c then .ok (Char.ofNat ((b.toNat - 0xC0) * 64 + low c), 2)
      else .error (.invalidContinuation, some 1)
  else if b < 0xF0 then
    match rest with
    | [] => .error (.unexpectedEnd, none)
    | c :: rest' =>
      if !isContinuation c || (if c < 0xA0 then b == 0xE0 else b == 0xED) then
        .error (.invalidContinuation, some 1)
      else match rest' with
        | [] => .error (.unexpectedEnd, none)
        | d :: _ =>
          if isContinuation d then
            .ok (Char.ofNat ((b.toNat - 0xE0) * 4096 + low c * 64 + low d), 3)
          else .error (.invalidContinuation, some 2)
  else if b < 0xF5 then
    match rest with
    | [] => .error (.unexpectedEnd, none)
    | c :: rest' =>
      if !isContinuation c || (if c < 0x90 then b == 0xF0 else b == 0xF4) then
        .error (.invalidContinuation, some 1)
      else match rest' with
        | [] => .error (.unexpectedEnd, none)
        | d :: rest'' =>
          if !isContinuation d then .error (.invalidContinuation, some 2)
          else match rest'' with
            | [] => .error (.unexpectedEnd, none)
            | e :: _ =>
              if isContinuation e then
                .ok (Char.ofNat ((b.toNat - 0xF0) * 262144 + low c * 4096 + low d * 64 + low e), 4)
              else .error (.invalidContinuation, some 3)
  else .error (.invalidStart, some 1)

/-- Decodes from offset `position`, passing over the bytes of the character just read. -/
def decodeFrom (position : Nat) : Nat → List UInt8 → Except Utf8Error (List Char)
  | _, [] => .ok []
  | skip + 1, _ :: rest => decodeFrom (position + 1) skip rest
  | 0, b :: rest =>
    match decodeOne b rest with
    | .ok (c, width) => (decodeFrom (position + 1) (width - 1) rest).map (c :: ·)
    | .error (fault, width) =>
      .error ⟨position, position + width.getD (rest.length + 1), b, fault⟩

/-- The text that a UTF-8 byte sequence holds. -/
def decodeUtf8 (bytes : List UInt8) : Except Utf8Error (List Char) :=
  decodeFrom 0 0 bytes

/-- The code point is a surrogate, which is no character. -/
def isSurrogate (n : Nat) : Bool :=
  0xD800 ≤ n && n < 0xE000

/-- Reads 16-bit units; `big` says that the high byte comes first. -/
def units16 (big : Bool) : List UInt8 → Option (List Nat)
  | [] => some []
  | a :: b :: rest =>
    let unit := if big then a.toNat * 256 + b.toNat else b.toNat * 256 + a.toNat
    (units16 big rest).map (unit :: ·)
  | [_] => none

/-- Whether a surrogate without its partner may stand in a text; where it may, it is replaced. -/
inductive LoneSurrogates where
  | refused
  | replaced
deriving Repr, BEq, DecidableEq

/-- The character of a code unit; a lone surrogate is none, or it is replaced. -/
def LoneSurrogates.char? (lone : LoneSurrogates) (n : Nat) : Option Char :=
  if !isSurrogate n then some (Char.ofNat n)
  else if lone == .replaced then some '\uFFFD' else none

/-- Replaces the three bytes of every surrogate by those of the replacement character. -/
def replaceSurrogates : List UInt8 → List UInt8
  | 0xED :: b :: c :: rest =>
    if 0xA0 ≤ b && isContinuation b && isContinuation c then
      0xEF :: 0xBF :: 0xBD :: replaceSurrogates rest
    else 0xED :: replaceSurrogates (b :: c :: rest)
  | b :: rest => b :: replaceSurrogates rest
  | [] => []

/-- Pairs surrogates. -/
def joinUnits (lone : LoneSurrogates) : List Nat → Option (List Char)
  | [] => some []
  | u :: v :: rest =>
    if 0xD800 ≤ u && u < 0xDC00 && 0xDC00 ≤ v && v < 0xE000 then
      (joinUnits lone rest).map (Char.ofNat (0x10000 + (u - 0xD800) * 1024 + (v - 0xDC00)) :: ·)
    else (lone.char? u).bind fun c => (joinUnits lone (v :: rest)).map (c :: ·)
  | [u] => (lone.char? u).map ([·])

/-- The text of a UTF-16 byte sequence. -/
def decodeUtf16 (lone : LoneSurrogates) (big : Bool) (bytes : List UInt8) : Option (List Char) :=
  (units16 big bytes).bind (joinUnits lone)

/-- The text of a UTF-32 byte sequence. -/
def decodeUtf32 (lone : LoneSurrogates) (big : Bool) : List UInt8 → Option (List Char)
  | [] => some []
  | a :: b :: c :: d :: rest =>
    let n :=
      if big then ((a.toNat * 256 + b.toNat) * 256 + c.toNat) * 256 + d.toNat
      else ((d.toNat * 256 + c.toNat) * 256 + b.toNat) * 256 + a.toNat
    if 0x110000 ≤ n then none
    else (lone.char? n).bind fun ch => (decodeUtf32 lone big rest).map (ch :: ·)
  | _ => none

/-- The UTF-8 bytes of a string. -/
def bytesOf (s : String) : List UInt8 :=
  s.toUTF8.toList

end TypedFetch.Text
