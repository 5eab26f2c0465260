import TypedFetch.Text.Stream

/-!
# Sources of YAML

The characters of a YAML text as they can be read.  A text is read in blocks, and a block that holds
a character that no YAML text may hold, or bytes that are no text, cannot be read: reading stops
there with the fault of the block.
-/

namespace TypedFetch.Yaml

/-- Why a text gives no value. -/
inductive Fault where
  /-- The text is not well formed. -/
  | malformed
  /-- A scalar has the form of a number, a date or a character, but stands for none. -/
  | notValue
  /-- A number, or that of a character, is out of every range. -/
  | numberTooLarge
  /-- A word for a truth value is wanted, and there is another one. -/
  | unknownWord
  /-- A number is wanted, and there is not a digit. -/
  | emptyNumber
  /-- A date is wanted, and the text has not the form of one. -/
  | noTimestamp
  /-- A date is wanted, and the node is a mapping. -/
  | mappingAsTimestamp
  /-- Collections are nested too deeply, or refer to each other too often. -/
  | tooDeep
deriving Repr, BEq, DecidableEq

/-- A fault in words. -/
def Fault.message : Fault → String
  | malformed => "the text is not well formed"
  | notValue => "a number or date is none"
  | numberTooLarge => "a number is too large"
  | unknownWord => "a truth value is neither true nor false"
  | emptyNumber => "a number has no digits"
  | noTimestamp => "a date has not the form of one"
  | mappingAsTimestamp => "a mapping stands for a date"
  | tooDeep => "collections are nested too deeply"

/-- Why the bytes of a file give no value. -/
inductive Stop where
  /-- The text has a fault. -/
  | fault (e : Fault)
  /-- Bytes that are asked for are no text. -/
  | noText (e : Text.Utf8Error)
deriving Repr, BEq

/-- A character that a text may hold. -/
def isAllowed (c : Char) : Bool :=
  let n := c.toNat
  n == 9 || n == 10 || n == 13 || (32 ≤ n && n ≤ 126) || n == 133 ||
    (160 ≤ n && n ≤ 65533) || 65536 ≤ n

/-- The characters that can be read, and what reading on meets. -/
structure Source where
  /-- The characters. -/
  text : List Char
  /-- Why no more characters can be read; none at the end of the text. -/
  stop : Option Stop := none
deriving Repr, BEq

/-- A text can be read up to the block that holds a position. -/
def Source.upTo (text : List Char) (position : Nat) (stop : Stop) : Source :=
  { text := text.take (Text.blockStart position), stop := some stop }

/-- Some characters as a source, perhaps with bytes behind them that are no text.  In one block such
bytes count before a character that is not allowed. -/
def Source.ofText (text : List Char) (behind : Option Text.Utf8Error := none) : Source :=
  match text.findIdx? (!isAllowed ·), behind with
  | none, none => { text }
  | none, some e => .upTo text text.length (.noText e)
  | some n, none => .upTo text n (.fault .malformed)
  | some n, some e =>
    if Text.blockStart n < Text.blockStart text.length then .upTo text n (.fault .malformed)
    else .upTo text text.length (.noText e)

/-- The bytes of a file as a source. -/
def Source.ofBytes (bytes : List UInt8) : Source :=
  match Text.decodeUtf8 bytes with
  | .ok cs => .ofText (Text.unifyNewlines cs)
  | .error e => .ofText (Text.readable bytes) (some e)

end TypedFetch.Yaml
