import Mathlib.Data.List.Perm.Subperm
import TypedFetch.Proofs.Text.SnakeCase
import TypedFetch.Proofs.TypeScript.Setters

/-!
# The names that fields give

A field gives its name to a property and a setter in camel case, and to a method of a sort builder
in pascal case.  Fields whose names are in snake case are kept apart by these names.

The main statement is `snakeCase_keptApart`.
-/

namespace TypedFetch.TypeScript

open Naming (IsSnakeCase camelCase pascalCase)
open TypedFetch.Schema (Message Field)
open scoped List

/-! ## Names in camel case and pascal case -/

variable {n m : String}

lemma camelCase_camelCase (hn : IsSnakeCase n.toList) : camelCase (camelCase n) = camelCase n := by
  simp [camelCase, Naming.camelChars_camelChars hn]

lemma camelCase_injective (hn : IsSnakeCase n.toList) (hm : IsSnakeCase m.toList)
    (h : camelCase n = camelCase m) : n = m := by
  have hchars : Naming.camelChars n.toList = Naming.camelChars m.toList := String.ofList_inj.1 h
  rw [← String.toList_inj, ← Naming.snakeChars_camelChars hn, hchars,
    Naming.snakeChars_camelChars hm]

lemma pascalCase_injective (hn : IsSnakeCase n.toList) (hm : IsSnakeCase m.toList)
    (h : pascalCase n = pascalCase m) : n = m := by
  have hchars : Naming.pascalChars n.toList = Naming.pascalChars m.toList := String.ofList_inj.1 h
  have hsame : '_' :: n.toList = '_' :: m.toList := by
    rw [← Naming.snakeChars_pascalChars hn, hchars, Naming.snakeChars_pascalChars hm]
  exact String.toList_inj.1 (List.cons.inj hsame).2

/-- In camel case a name has no underscore and starts with a small letter. -/
lemma isPlainName_camelCase (hn : IsSnakeCase n.toList) :
    '_' ∉ (camelCase n).toList ∧
      ∃ c rest, (camelCase n).toList = c :: rest ∧ c.isLower = true := by
  have hplain := Naming.isPlainName_camelChars hn.isIdentifier
  have hchars : (camelCase n).toList = Naming.camelChars n.toList := String.toList_ofList
  rw [hchars]
  cases hname : Naming.camelChars n.toList with
  | nil => exact absurd hplain (by simp [hname, Naming.isPlainName])
  | cons c rest =>
    obtain ⟨hc, hrest⟩ : c.isLower = true ∧ ∀ d ∈ rest, d.isAlphanum = true := by
      simpa [hname, Naming.isPlainName] using hplain
    refine ⟨?_, c, rest, rfl, hc⟩
    intro hmem
    rcases List.mem_cons.1 hmem with rfl | hmem
    · exact absurd hc (by decide)
    · exact absurd (hrest _ hmem) (by decide)

/-! ## The members that fields give their names to -/

/-- Every field has a property, a setter and, if there are fields, a sort method of its own name. -/
structure FieldsKeptApart (policy : TypePolicy) (features : Features) (message : Message) :
    Prop where
  properties : ((interfaceOf policy features message).properties.map (·.name)).Nodup
  setters : (message.fields.map fun f => camelCase f.name) <+~
    (filterBuilderOf policy message).setters.map (·.name)
  sortMethods : message.fields ≠ [] → sortMethodsOf message =
    message.fields.map fun f => ⟨"by" ++ pascalCase f.name, f.name⟩

/-- Names that are kept apart are given to fields with different names. -/
lemma nodup_given (given : String → String) {fields : List Field}
    (hsnake : ∀ f ∈ fields, IsSnakeCase f.name.toList) (hnames : (fields.map (·.name)).Nodup)
    (hgiven : ∀ {n m : String}, IsSnakeCase n.toList → IsSnakeCase m.toList →
      given n = given m → n = m) : (fields.map fun f => given f.name).Nodup := by
  have hnames' : ∀ n ∈ fields.map (·.name), IsSnakeCase n.toList := List.forall_mem_map.2 hsnake
  have hmap := hnames.map_on fun n hn m hm => hgiven (hnames' n hn) (hnames' m hm)
  rwa [List.map_map] at hmap

lemma fieldsKeptApart (policy : TypePolicy) (features : Features) {message : Message}
    (hsnake : ∀ f ∈ message.fields, IsSnakeCase f.name.toList)
    (hnames : (message.fields.map (·.name)).Nodup) : FieldsKeptApart policy features message := by
  have hcamel : (message.fields.map fun f => camelCase f.name).Nodup :=
    nodup_given camelCase hsnake hnames camelCase_injective
  refine ⟨?_, ?_, fun hfields => ?_⟩
  · simpa [interfaceOf, TypeDeclaration.properties, Function.comp_def] using hcamel
  · refine List.subperm_of_subset hcamel fun n hn => ?_
    obtain ⟨f, hf, rfl⟩ := List.mem_map.1 hn
    obtain ⟨s, hs⟩ := exists_setter policy hf
    have hmem : s ∈ (filterBuilderOf policy message).setters.filter
        (·.name == camelCase f.name) := by simp [hs]
    obtain ⟨hsetter, hname⟩ := List.mem_filter.1 hmem
    exact List.mem_map.2 ⟨s, hsetter, by simpa using hname⟩
  · have hpascal : (message.fields.map fun f => "by" ++ pascalCase f.name).Nodup :=
      nodup_given (fun n => "by" ++ pascalCase n) hsnake hnames fun hn hm h =>
        pascalCase_injective hn hm ((String.append_right_inj "by").1 h)
    have hsome : message.fields.isEmpty = false := by simpa using hfields
    simp only [sortMethodsOf, hsome, Bool.false_eq_true, if_false, List.map_map, Function.comp_def]
    exact firstOfEachName_eq_self _ (by simpa [Function.comp_def] using hpascal)

/-- **Names in snake case are kept apart.**  In camel case they have no underscores and start with a
small letter, and camel case leaves them as they are then.  Different names differ in camel case and
in pascal case; so fields with different names have properties, setters and sort methods of
different names. -/
theorem snakeCase_keptApart :
    (∀ n : String, IsSnakeCase n.toList →
      camelCase (camelCase n) = camelCase n ∧ '_' ∉ (camelCase n).toList ∧
        ∃ c rest, (camelCase n).toList = c :: rest ∧ c.isLower = true) ∧
    (∀ n m : String, IsSnakeCase n.toList → IsSnakeCase m.toList → n ≠ m →
      camelCase n ≠ camelCase m ∧ pascalCase n ≠ pascalCase m) ∧
    ∀ (policy : TypePolicy) (features : Features) (message : Message),
      (∀ f ∈ message.fields, IsSnakeCase f.name.toList) → (message.fields.map (·.name)).Nodup →
        FieldsKeptApart policy features message := by
  refine ⟨fun n hn => ⟨camelCase_camelCase hn, isPlainName_camelCase hn⟩, ?_,
    fun policy features message => fieldsKeptApart policy features⟩
  intro n m hn hm hne
  exact ⟨fun h => hne (camelCase_injective hn hm h), fun h => hne (pascalCase_injective hn hm h)⟩

/-- A filter for records by when they were made and changed. -/
def auditFilter : Message :=
  { name := "AuditFilter"
    fields := [
      { name := "created_at", typeName := "google.protobuf.Timestamp", number := 1 },
      { name := "created_by", typeName := "string", number := 2 },
      { name := "updated_at", typeName := "google.protobuf.Timestamp", number := 3 }] }

/-- Names that begin or end alike are kept apart, and so are fields with such names. -/
theorem snakeCase_keptApart_auditFilter :
    camelCase "created_at" = "createdAt" ∧ camelCase "createdAt" = "createdAt" ∧
    camelCase "created_at" ≠ camelCase "created_by" ∧
    pascalCase "created_at" ≠ pascalCase "updated_at" ∧ FieldsKeptApart {} {} auditFilter := by
  obtain ⟨hform, hdiffer, hfields⟩ := snakeCase_keptApart
  have hcreated : camelCase "created_at" = "createdAt" := by decide
  have hagain := (hform "created_at" (by decide)).1
  rw [hcreated] at hagain
  have hcamel := (hdiffer "created_at" "created_by" (by decide) (by decide) (by decide)).1
  have hpascal := (hdiffer "created_at" "updated_at" (by decide) (by decide) (by decide)).2
  exact ⟨hcreated, hagain, hcamel, hpascal, hfields {} {} auditFilter (by decide) (by decide)⟩

/-- Words of one letter put capitals next to each other, of which only the first one stays. -/
example : camelCase "to_a_b" = "toAB" ∧ camelCase "toAB" = "toAb" := by decide

end TypedFetch.TypeScript
