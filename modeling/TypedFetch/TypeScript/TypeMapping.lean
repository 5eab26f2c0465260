import TypedFetch.Schema.Basic

/-!
# Types of fields

The TypeScript type of a field.  Scalars and the well-known messages have fixed types; dates and
64-bit integers follow a policy; every other name stands for itself.
-/

namespace TypedFetch.TypeScript

/-- How dates and 64-bit integers are represented. -/
structure TypePolicy where
  /-- Dates are strings. -/
  dateAsText : Bool := false
  /-- 64-bit integers are strings. -/
  bigintAsText : Bool := false
deriving Repr, BEq, DecidableEq

/-- The policy that two type names ask for: each is a string only if it is named so. -/
def TypePolicy.named (dateType bigintType : String) : TypePolicy where
  dateAsText := dateType == "string"
  bigintAsText := bigintType == "string"

/-- The type of a date. -/
def TypePolicy.dateType (policy : TypePolicy) : String :=
  if policy.dateAsText then "string" else "Date"

/-- The type of a 64-bit integer. -/
def TypePolicy.bigintType (policy : TypePolicy) : String :=
  if policy.bigintAsText then "string" else "bigint"

/-- The scalar types with a fixed counterpart. -/
def scalarTypes : List (String × String) :=
  [("string", "string"), ("bool", "boolean"), ("boolean", "boolean"), ("int32", "number"),
   ("uint32", "number"), ("float", "number"), ("double", "number"), ("bytes", "Uint8Array")]

/-- The 64-bit integer types. -/
def bigintTypes : List String := ["int64", "uint64"]

/-- The name of the point-in-time type. -/
def timestampType : String := "Timestamp"

/-- The well-known messages with a fixed shape. -/
def wellKnownTypes : List (String × String) :=
  [("google.protobuf.Duration", "string"), ("google.protobuf.FieldMask", "string"),
   ("google.protobuf.Struct", "Record<string, unknown>"),
   ("google.protobuf.Any", "Record<string, unknown>"),
   ("google.protobuf.Value", "unknown"), ("google.protobuf.ListValue", "unknown[]")]

/-- The TypeScript type of one value of a named type. -/
def TypePolicy.single (policy : TypePolicy) (name : String) : String :=
  match scalarTypes.lookup name with
  | some t => t
  | none =>
    if bigintTypes.contains name then policy.bigintType
    else if name == timestampType then policy.dateType
    else (wellKnownTypes.lookup name).getD name

/-- The TypeScript type of a named type, as an array if it is repeated. -/
def TypePolicy.typeOf (policy : TypePolicy) (name : String) (repeated : Bool) : String :=
  if repeated then policy.single name ++ "[]" else policy.single name

/-- The TypeScript type of a field; a map is a record. -/
def TypePolicy.fieldType (policy : TypePolicy) (field : Schema.Field) : String :=
  if field.isMap then "Record<string, " ++ policy.single field.typeName ++ ">"
  else policy.typeOf field.typeName field.repeated

end TypedFetch.TypeScript
