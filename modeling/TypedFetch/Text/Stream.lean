import TypedFetch.Text.Lines
import TypedFetch.Text.Utf8

/-!
# Texts that are read in blocks

The characters of a file may be asked for block by block, and its bytes are decoded no further than
that needs.  So what is wrong with a byte is not met before the block in which it stands is asked
for, and of two faults in different blocks the one in the earlier block counts.
-/

namespace TypedFetch.Text

/-! ## Blocks of characters -/

/-- The number of characters in a block. -/
def blockLength : Nat := 4096

/-- Where the characters begin that are asked for together with the one at a position.  The first
two blocks are asked for at once. -/
def blockStart (n : Nat) : Nat :=
  if n < 2 * blockLength then 0 else n / blockLength * blockLength

/-! ## Chunks of bytes -/

/-- Further bytes can make a character of the bytes from the fault on. -/
def Utf8Error.isOpen (e : Utf8Error) (bytes : List UInt8) : Bool :=
  e.fault == .unexpectedEnd ||
    match bytes.drop e.start with
    | [0xED, b] => 0xA0 ≤ b && isContinuation b
    | _ => false

/-- A carriage return at the end is held back, since a line feed may follow. -/
def dropLastReturn (cs : List Char) : List Char :=
  if cs.getLast? == some '\r' then cs.dropLast else cs

/-- The characters that the first bytes of a text hold; none if they are no text whatever comes
next. -/
def begunText? (bytes : List UInt8) : Option (List Char) :=
  let complete :=
    match decodeUtf8 bytes with
    | .ok cs => some cs
    | .error e => if e.isOpen bytes then (decodeUtf8 (bytes.take e.start)).toOption else none
  complete.map fun cs => unifyNewlines (dropLastReturn cs)

/-- The least number of bytes in a chunk. -/
def chunkLength : Nat := 8192

/-- The number of bytes in the next chunk, if the last one had `ratio` bytes to a character and all
chunks had so many characters: what the rest of a block will probably need. -/
def chunkSize (ratio : Float) (characters : Nat) : Nat :=
  let missing := blockLength - characters % blockLength
  max chunkLength (max ratio 1.0 * missing.toFloat).toUInt64.toNat

/-- Reads on in chunks, as long as they are a text; `read` bytes hold the characters so far. -/
def readableFrom (bytes : List UInt8) : Nat → Nat → List Char → Float → List Char
  | 0, _, found, _ => found
  | fuel + 1, read, found, ratio =>
    let next := bytes.take (read + chunkSize ratio found.length)
    if next.length ≤ read then found
    else
      match begunText? next with
      | none => found
      | some cs =>
        let gained := cs.length - found.length
        let ratio := if gained == 0 then 0 else (next.length - read).toFloat / gained.toFloat
        readableFrom bytes fuel next.length cs ratio

/-- The characters in front of the first chunk that is no text. -/
def readable (bytes : List UInt8) : List Char :=
  readableFrom bytes (bytes.length + 1) 0 [] 0

end TypedFetch.Text
