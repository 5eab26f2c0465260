import TypedFetch.Schema.Basic
import TypedFetch.Validation

/-!
# Schemas from values

Checks of dynamic values against the types of a schema.  Keys that a type does not have are ignored.
-/

namespace TypedFetch.Schema

open TypedFetch.Validation

/-- A description, a title or the like: a text or null. -/
def optionalText (key : String) (entries : Entries) : Check (Option String) :=
  optional key none (nullable text) entries

/-- A list under a key, by default empty. -/
def optionalList {α : Type} (key : String) (check : Value → Check α) (entries : Entries) :
    Check (List α) :=
  optional key [] (list check) entries

/-- A field. -/
def Field.ofValue : Value → Check Field :=
  object fun entries =>
    Field.mk <$> required "name" text entries
      <*> required "type_name" text entries
      <*> optional "repeated" false bool entries
      <*> optional "optional" false bool entries
      <*> required "field_number" positive entries
      <*> optionalText "description" entries
      <*> optionalText "map_key_type_name" entries

/-- A message. -/
def Message.ofValue : Value → Check Message :=
  object fun entries =>
    Message.mk <$> required "name" text entries
      <*> optionalList "fields" Field.ofValue entries
      <*> optionalText "description" entries

/-- An enumeration. -/
def EnumType.ofValue : Value → Check EnumType :=
  object fun entries =>
    EnumType.mk <$> required "name" text entries
      <*> optionalList "values" text entries
      <*> optionalText "description" entries

/-- A method. -/
def Method.ofValue : Value → Check Method :=
  object fun entries =>
    Method.mk <$> required "name" text entries
      <*> required "input_type_name" text entries
      <*> required "output_type_name" text entries
      <*> optional "http_verb" .post (among (Http.verbs.map fun v => (v.text, v))) entries
      <*> required "http_path" text entries
      <*> optionalText "description" entries
      <*> optionalText "summary" entries
      <*> optionalList "tags" text entries

/-- A service. -/
def Service.ofValue : Value → Check Service :=
  object fun entries =>
    Service.mk <$> required "name" text entries
      <*> optionalList "methods" Method.ofValue entries
      <*> optionalText "description" entries

/-- A file. -/
def File.ofValue : Value → Check File :=
  object fun entries =>
    File.mk <$> optional "package_name" "" text entries
      <*> optionalList "services" Service.ofValue entries
      <*> optionalList "messages" Message.ofValue entries
      <*> optionalList "enums" EnumType.ofValue entries
      <*> optionalList "imports" text entries

/-- A schema. -/
def ofValue : Value → Check Schema :=
  object fun entries =>
    Schema.mk <$> optionalList "files" File.ofValue entries
      <*> optionalText "title" entries
      <*> optionalText "version" entries
      <*> optionalText "description" entries

end TypedFetch.Schema
