/-!
# Faults in options

Why the options of a method cannot be given as a mapping.
-/

namespace TypedFetch.Proto

/-- Why a value has no form. -/
inductive ValueFault where
  | spanSeconds (n : Int)
  | spanNanos (n : Int)
  | spanSigns
  | timeSeconds (n : Int)
  | timeNanos (n : Int)
  | capitalInPath (path : String)
  | noLetterAfterUnderscore (path : String)
  | underscoreAtEnd (path : String)
  | infinite
  | notANumber
deriving Repr, BEq, DecidableEq

/-- The message of a fault in a value. -/
def ValueFault.message : ValueFault → String
  | .spanSeconds n => "Duration is not valid: Seconds " ++ toString n ++
      " must be in range [-315576000000, 315576000000]."
  | .spanNanos n => "Duration is not valid: Nanos " ++ toString n ++
      " must be in range [-999999999, 999999999]."
  | .spanSigns => "Duration is not valid: Sign mismatch."
  | .timeSeconds n => "Timestamp is not valid: Seconds " ++ toString n ++
      " must be in range [-62135596800, 253402300799]."
  | .timeNanos n => "Timestamp is not valid: Nanos " ++ toString n ++
      " must be in a range [0, 999999]."
  | .capitalInPath p => "Fail to print FieldMask to Json string: Path name " ++ p ++
      " must not contain uppercase letters."
  | .noLetterAfterUnderscore p =>
    "Fail to print FieldMask to Json string: The character after a \"_\" must be a lowercase " ++
      "letter in path name " ++ p ++ "."
  | .underscoreAtEnd p =>
    "Fail to print FieldMask to Json string: Trailing \"_\" in path name " ++ p ++ "."
  | .infinite => "Fail to serialize Infinity for Value.number_value"
  | .notANumber => "Fail to serialize NaN for Value.number_value"

/-- The options of a method have no form. -/
inductive OptionFault where
  /-- The bytes of a message cannot be read. -/
  | malformed (message : String)
  /-- The type of a message of any type is not known. -/
  | unknownType (address : String)
  /-- A value has no form. -/
  | value (reason : ValueFault)
  /-- The value of a field has no form. -/
  | field (name : String) (reason : ValueFault)
deriving Repr, BEq, DecidableEq

/-- The message of a fault in options. -/
def OptionFault.message : OptionFault → String
  | .malformed message => "Error parsing message with type '" ++ message ++ "'"
  | .unknownType address => "Can not find message descriptor by type_url: " ++ address
  | .value reason => reason.message
  | .field name reason => "Failed to serialize " ++ name ++ " field: " ++ reason.message ++ "."

/-- A fault in a value is put down to the field that holds it. -/
def OptionFault.within (field : String) : OptionFault → OptionFault
  | .value reason => .field field reason
  | e => e

end TypedFetch.Proto
