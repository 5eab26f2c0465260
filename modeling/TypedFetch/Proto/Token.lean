import TypedFetch.Json.Reader
import TypedFetch.Proto.Comment
import TypedFetch.Text.Search

/-!
# Tokens

The tokens of a schema source: identifiers, integers, decimals, texts and symbols of one character.
Every token knows the comments in front of it.  A text that is cut into tokens has no control
characters and, outside of comments and quotes, only ASCII characters.
-/

namespace TypedFetch.Proto

/-- The kinds of token. -/
inductive TokenKind where
  | identifier
  | integer
  | decimal
  | text
  | symbol
  /-- The end of the source. -/
  | finish
deriving Repr, BEq, DecidableEq

/-- A token. -/
structure Token where
  /-- Its kind. -/
  kind : TokenKind
  /-- Its characters, quotes and escapes included. -/
  chars : List Char
  /-- The comments between the token before and this one. -/
  comments : GapComments := {}
deriving Repr, BEq, DecidableEq

/-- The text of a token. -/
def Token.text (t : Token) : String := String.ofList t.chars

/-- The source cannot be cut into tokens. -/
inductive LexError where
  | badCharacter
  | badNumber
  | badText
  | badComment
deriving Repr, BEq, DecidableEq

/-! ## Gaps -/

/-- White space within a line. -/
def isInlineSpace (c : Char) : Bool :=
  c == ' ' || c == '\t' || c == '\r' || c == '\x0b' || c == '\x0c'

/-- Reads a block comment after its start.  After the end of a line, white space and one asterisk
are left out; `fresh` says that such a place was reached.  Gives the text backwards, the number of
line ends and the rest. -/
def readBlock (fresh : Bool) (acc : List Char) (breaks : Nat) :
    List Char → Except LexError (List Char × Nat × List Char)
  | [] => .error .badComment
  | c :: rest =>
    if fresh && isInlineSpace c then readBlock true acc breaks rest
    else if c == '*' then
      match rest with
      | '/' :: after => .ok (acc, breaks, after)
      | _ => readBlock false (if fresh then acc else '*' :: acc) breaks rest
    else if c == '\n' then readBlock true ('\n' :: acc) (breaks + 1) rest
    else if c == '\x00' then .error .badComment
    else if c == '/' && rest.head? == some '*' then .error .badComment
    else readBlock false (c :: acc) breaks rest

/-- Reads what lies before the next token; `fuel` bounds the number of items. -/
def readGap : Nat → List Char → Except LexError (List GapItem × List Char)
  | 0, cs => .ok ([], cs)
  | fuel + 1, cs =>
    match cs with
    | '\n' :: rest => (readGap fuel rest).map fun (items, rest) => (.newline :: items, rest)
    | '/' :: '/' :: rest =>
      let body := rest.takeWhile (· != '\n')
      if body.contains '\x00' then .error .badComment
      else match rest.drop body.length with
      | _ :: after =>
        (readGap fuel after).map fun (items, rest) =>
          (.line (String.ofList (body ++ ['\n'])) true :: items, rest)
      | [] => .ok ([.line (String.ofList body) false], [])
    | '/' :: '*' :: rest =>
      match readBlock false [] 0 rest with
      | .error e => .error e
      | .ok (acc, breaks, after) =>
        (readGap fuel after).map fun (items, rest) =>
          (.block (String.ofList acc.reverse) breaks :: items, rest)
    | c :: rest => if isInlineSpace c then readGap fuel rest else .ok ([], cs)
    | [] => .ok ([], [])

/-! ## Numbers -/

/-- A letter of an identifier. -/
def isIdentifierStart (c : Char) : Bool :=
  c.isAlpha || c == '_'

/-- A letter or digit of an identifier. -/
def isIdentifierPart (c : Char) : Bool :=
  c.isAlphanum || c == '_'

/-- A hexadecimal digit. -/
def isHexDigit (c : Char) : Bool :=
  (Json.hexValue? c).isSome

/-- An octal digit. -/
def isOctalDigit (c : Char) : Bool :=
  '0' ≤ c && c ≤ '7'

/-- Cuts off an exponent; a mark without digits is an error. -/
def takeExponent (cs : List Char) : Except LexError (List Char × List Char) :=
  match cs with
  | mark :: rest =>
    if mark == 'e' || mark == 'E' then
      let (sign, rest) :=
        match rest with
        | '-' :: r => (['-'], r)
        | '+' :: r => (['+'], r)
        | r => ([], r)
      let digits := rest.takeWhile Char.isDigit
      if digits.isEmpty then .error .badNumber
      else .ok (mark :: sign ++ digits, rest.drop digits.length)
    else .ok ([], cs)
  | [] => .ok ([], [])

/-- Cuts off a decimal number: digits, a point with digits, an exponent. -/
def takeDecimal (cs : List Char) : Except LexError (TokenKind × List Char × List Char) := do
  let whole := cs.takeWhile Char.isDigit
  let rest := cs.drop whole.length
  let (point, rest) :=
    match rest with
    | '.' :: r =>
      let digits := r.takeWhile Char.isDigit
      ('.' :: digits, r.drop digits.length)
    | r => ([], r)
  let (exponent, rest) ← takeExponent rest
  let kind := if point.isEmpty && exponent.isEmpty then TokenKind.integer else .decimal
  return (kind, whole ++ point ++ exponent, rest)

/-- Cuts off a number: hexadecimal after `0x`, octal after a leading zero, or decimal. -/
def takeNumber (cs : List Char) : Except LexError (TokenKind × List Char × List Char) :=
  match cs with
  | '0' :: x :: rest =>
    if x == 'x' || x == 'X' then
      let digits := rest.takeWhile isHexDigit
      if digits.isEmpty then .error .badNumber
      else .ok (.integer, '0' :: x :: digits, rest.drop digits.length)
    else if x.isDigit then
      let digits := (x :: rest).takeWhile isOctalDigit
      match (x :: rest).drop digits.length with
      | c :: after =>
        if c.isDigit then .error .badNumber else .ok (.integer, '0' :: digits, c :: after)
      | [] => .ok (.integer, '0' :: digits, [])
    else takeDecimal cs
  | _ => takeDecimal cs

/-- A number ends where no letter and no point follows. -/
def checkNumberEnd (rest : List Char) : Except LexError Unit :=
  match rest with
  | c :: _ => if isIdentifierStart c || c == '.' then .error .badNumber else .ok ()
  | [] => .ok ()

/-- The value of an integer token. -/
def integerValue (cs : List Char) : Nat :=
  let value (radix : Nat) (digits : List Char) : Nat :=
    digits.foldl (fun acc c => acc * radix + (Json.hexValue? c).getD 0) 0
  match cs with
  | '0' :: x :: rest => if x == 'x' || x == 'X' then value 16 rest else value 8 (x :: rest)
  | _ => value 10 cs

/-- The value of a decimal token. -/
def decimalValue (cs : List Char) : Float :=
  (Number.parse? cs).getD 0.0

/-! ## Texts -/

/-- The escapes of one character. -/
def escapeByte? (c : Char) : Option UInt8 :=
  match c with
  | 'a' => some 7
  | 'b' => some 8
  | 'f' => some 12
  | 'n' => some 10
  | 'r' => some 13
  | 't' => some 9
  | 'v' => some 11
  | '\\' => some 92
  | '?' => some 63
  | '\'' => some 39
  | '"' => some 34
  | _ => none

/-- Cuts off a text after its opening quote.  Gives its characters with the closing quote, and the
rest. -/
def takeText (quote : Char) : Nat → List Char → Except LexError (List Char × List Char)
  | 0, _ => .error .badText
  | fuel + 1, cs =>
    match cs with
    | [] => .error .badText
    | '\n' :: _ => .error .badText
    | '\x00' :: _ => .error .badText
    | '\\' :: c :: rest =>
      let valid : Bool :=
        if (escapeByte? c).isSome || isOctalDigit c then true
        else if c == 'x' || c == 'X' then (rest.head?.map isHexDigit).getD false
        else if c == 'u' then (rest.take 4).length == 4 && (rest.take 4).all isHexDigit
        else if c == 'U' then
          (rest.take 8).length == 8 && (rest.take 8).all isHexDigit &&
            integerValue ('0' :: 'x' :: rest.take 8) < 0x200000
        else false
      if valid then (takeText quote fuel rest).map fun (s, r) => ('\\' :: c :: s, r)
      else .error .badText
    | c :: rest =>
      if c == quote then .ok ([c], rest)
      else (takeText quote fuel rest).map fun (s, r) => (c :: s, r)

/-- The escape of a number with eight hexadecimal digits. -/
def longEscape (n : Nat) : List Char :=
  let digits := Nat.toDigits 16 n
  '\\' :: 'U' :: List.replicate (8 - digits.length) '0' ++ digits

/-- The bytes of a code point; half of a surrogate pair has the bytes that its number would have,
and a number that is too great stands for its own escape. -/
def codePointBytes (n : Nat) : List UInt8 :=
  if n < 0x80 then [UInt8.ofNat n]
  else if n < 0x800 then [UInt8.ofNat (0xC0 + n / 64), UInt8.ofNat (0x80 + n % 64)]
  else if n < 0x10000 then
    [UInt8.ofNat (0xE0 + n / 4096), UInt8.ofNat (0x80 + n / 64 % 64), UInt8.ofNat (0x80 + n % 64)]
  else if 0x10FFFF < n then (longEscape n).map fun c => UInt8.ofNat c.toNat
  else
    [UInt8.ofNat (0xF0 + n / 262144), UInt8.ofNat (0x80 + n / 4096 % 64),
     UInt8.ofNat (0x80 + n / 64 % 64), UInt8.ofNat (0x80 + n % 64)]

/-- The bytes of the inside of a quoted text. -/
def textBytes : Nat → List Char → List UInt8
  | 0, _ => []
  | fuel + 1, cs =>
    match cs with
    | [] => []
    | '\\' :: c :: rest =>
      match escapeByte? c with
      | some b => b :: textBytes fuel rest
      | none =>
        if isOctalDigit c then
          let digits := c :: (rest.take 2).takeWhile isOctalDigit
          UInt8.ofNat (integerValue ('0' :: '0' :: digits)) ::
            textBytes fuel (rest.drop (digits.length - 1))
        else if c == 'x' || c == 'X' then
          let digits := (rest.take 2).takeWhile isHexDigit
          UInt8.ofNat (integerValue ('0' :: 'x' :: digits)) ::
            textBytes fuel (rest.drop digits.length)
        else
          let width := if c == 'u' then 4 else 8
          let n := integerValue ('0' :: 'x' :: rest.take width)
          let rest := rest.drop width
          let low := integerValue ('0' :: 'x' :: (rest.drop 2).take 4)
          if 0xD800 ≤ n && n < 0xDC00 && rest.take 2 == ['\\', 'u'] && 0xDC00 ≤ low &&
              low < 0xE000 then
            codePointBytes (0x10000 + (n - 0xD800) * 1024 + (low - 0xDC00)) ++
              textBytes fuel (rest.drop 6)
          else codePointBytes n ++ textBytes fuel rest
    | c :: rest => codePointBytes c.toNat ++ textBytes fuel rest

/-- The bytes that a text token stands for. -/
def Token.bytes (t : Token) : List UInt8 :=
  textBytes t.chars.length (t.chars.drop 1).dropLast

/-! ## The whole source -/

/-- Cuts off one token; `joined` says that it follows an identifier directly, and `fuel` bounds the
length of a text. -/
def takeToken (fuel : Nat) (joined : Bool) (c : Char) (rest : List Char) :
    Except LexError (TokenKind × List Char × List Char) := do
  if isIdentifierStart c then
    let more := rest.takeWhile isIdentifierPart
    return (.identifier, c :: more, rest.drop more.length)
  else if c.isDigit then
    let (kind, chars, rest) ← takeNumber (c :: rest)
    checkNumberEnd rest
    return (kind, chars, rest)
  else if c == '.' && (rest.head?.map Char.isDigit).getD false then
    if joined then throw .badNumber
    let (kind, chars, rest) ← takeDecimal (c :: rest)
    checkNumberEnd rest
    return (kind, chars, rest)
  else if c == '"' || c == '\'' then
    let (chars, rest) ← takeText c fuel rest
    return (.text, c :: chars, rest)
  else if c.toNat < 32 || 128 ≤ c.toNat then throw .badCharacter
  else return (.symbol, [c], rest)

/-- The token ends a scope. -/
def closesScope (kind : TokenKind) (chars : List Char) : Bool :=
  kind == .finish || (kind == .symbol && (chars == ['\x7d'] || chars == [']'] || chars == [')']))

/-- The tokens from here on; `before` is the kind of the token before.  The characters that are left
are fewer than `fuel`. -/
def tokensFrom : Nat → Option TokenKind → List Char → Except LexError (List Token)
  | 0, _, _ => .ok []
  | fuel + 1, before, cs => do
    let (items, rest) ← readGap (fuel + 1) cs
    let comments (closes : Bool) : GapComments :=
      match before with
      | none => openingComments items closes
      | some _ => gapComments items closes
    match rest with
    | [] => return [⟨.finish, [], comments true⟩]
    | c :: more =>
      let joined := before == some .identifier && items.isEmpty &&
        !(cs.head?.map isInlineSpace).getD false
      let (kind, chars, rest) ← takeToken (fuel + 1) joined c more
      let others ← tokensFrom fuel (some kind) rest
      return ⟨kind, chars, comments (closesScope kind chars)⟩ :: others

/-- The tokens of a source, of which the last one is its end.  A byte order mark in front is left
out. -/
def tokenize (source : List Char) : Except LexError (List Token) :=
  let body := if source.head? == some '\uFEFF' then source.drop 1 else source
  tokensFrom (body.length + 1) none body

end TypedFetch.Proto
