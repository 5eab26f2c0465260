import TypedFetch.Proofs.TypeScript.FirstOfEachName

/-!
# The setters of filter builders

Every field of a filter asks for a setter of its own name, and fields of some types ask for further
ones, whose names are the name of the field with an ending.  Of all setters of one name the first
one stays, so a field may be left with the setter that an earlier field derives.

The main statement is `setter_of_field`: every field has exactly one setter of its name, and its
type is that of the field unless an earlier field derives the name.
-/

namespace TypedFetch.TypeScript

open TypedFetch.Schema (Message Field)

/-! ## The setters that a field asks for -/

/-- The names with endings for which a field asks. -/
def derivedNames (f : Field) : List String :=
  let name := Naming.camelCase f.name
  if conditionEndings.any (fun e => e.toList.isSuffixOf name.toList) || f.isMap then []
  else if f.typeName == "string" then [name ++ "Like"]
  else if f.typeName == timestampType then [name ++ "After", name ++ "Before"]
  else []

/-- The type of the values of a setter whose name is derived. -/
def derivedType (policy : TypePolicy) (name : String) : String :=
  if "Like".toList.isSuffixOf name.toList then "string" else policy.dateType

/-- The setter of the name of a field. -/
def ownSetter (policy : TypePolicy) (f : Field) : Setter :=
  ⟨Naming.camelCase f.name, policy.fieldType f⟩

/-- The setter of a derived name. -/
def derivedSetter (policy : TypePolicy) (name : String) : Setter := ⟨name, derivedType policy name⟩

/-- A derived name tells the type of its setter by its ending. -/
lemma derivedType_append (policy : TypePolicy) (name : String) {ending : String}
    (h : ending ∈ conditionEndings) :
    derivedType policy (name ++ ending) =
      if ending = "Like" then "string" else policy.dateType := by
  unfold derivedType
  congr 1
  rw [eq_iff_iff, List.isSuffixOf_iff_suffix]
  constructor
  · intro hlike
    have hends : ∀ e ∈ conditionEndings,
        "Like".toList <:+ e.toList ∨ e.toList <:+ "Like".toList → e = "Like" := by decide
    exact hends ending h (List.suffix_or_suffix_of_suffix hlike (by simp))
  · rintro rfl
    simp

/-- A derived name has an ending. -/
lemma suffix_of_mem_derivedNames {n : String} {f : Field} (h : n ∈ derivedNames f) :
    ∃ e ∈ conditionEndings, e.toList <:+ n.toList := by
  simp only [derivedNames] at h
  split at h
  · exact absurd h (by simp)
  · split at h
    · obtain rfl := List.mem_singleton.1 h
      exact ⟨"Like", by decide, by simp⟩
    · split at h
      · rcases List.mem_cons.1 h with rfl | h
        · exact ⟨"After", by decide, by simp⟩
        · obtain rfl := List.mem_singleton.1 h
          exact ⟨"Before", by decide, by simp⟩
      · exact absurd h (by simp)

lemma fieldSetters_eq (policy : TypePolicy) (f : Field) :
    fieldSetters policy f =
      ownSetter policy f :: (derivedNames f).map (derivedSetter policy) := by
  have hlike := derivedType_append policy (Naming.camelCase f.name)
    (by decide : "Like" ∈ conditionEndings)
  have hafter := derivedType_append policy (Naming.camelCase f.name)
    (by decide : "After" ∈ conditionEndings)
  have hbefore := derivedType_append policy (Naming.camelCase f.name)
    (by decide : "Before" ∈ conditionEndings)
  simp only [fieldSetters, derivedNames]
  split
  · rfl
  · split
    · simp [ownSetter, derivedSetter, hlike]
    · split
      · simp [ownSetter, derivedSetter, hafter, hbefore]
      · rfl

/-! ## The setter of a name -/

/-- Where no field has a name, the first setter of the name is a derived one. -/
lemma find?_fieldSetters {fields : List Field} {n : String} (policy : TypePolicy)
    (h : ∀ g ∈ fields, Naming.camelCase g.name ≠ n) :
    (fields.flatMap (fieldSetters policy)).find? (·.name == n) =
      if n ∈ fields.flatMap derivedNames then some (derivedSetter policy n) else none := by
  have hderived : ∀ names : List String, (names.map (derivedSetter policy)).find? (·.name == n) =
      if n ∈ names then some (derivedSetter policy n) else none := by
    intro names
    induction names with
    | nil => rfl
    | cons name names ih =>
      by_cases hname : name = n
      · simp [hname, derivedSetter]
      · have hne : ¬ n = name := fun h => hname h.symm
        simp [ih, derivedSetter, hname, hne]
  induction fields with
  | nil => rfl
  | cons f fields ih =>
    have hf : ((ownSetter policy f).name == n) = false := by
      simpa [ownSetter] using h f (by simp)
    rw [List.flatMap_cons, List.flatMap_cons, fieldSetters_eq, List.cons_append, List.find?_cons,
      hf, List.find?_append, hderived, ih fun g hg => h g (by simp [hg])]
    by_cases hn : n ∈ derivedNames f <;> simp [hn]

section Setters

variable (policy : TypePolicy) {m : Message} {before after : List Field} {f : Field}

lemma setters_named (m : Message) (n : String) :
    (filterBuilderOf policy m).setters.filter (·.name == n) =
      ((m.fields.flatMap (fieldSetters policy)).find? (·.name == n)).toList := by
  rw [filterBuilderOf, filter_eq_toList_find? Setter.name (nodup_map_name_firstOfEachName _ _),
    find?_firstOfEachName]

lemma exists_setter (hf : f ∈ m.fields) :
    ∃ s, (filterBuilderOf policy m).setters.filter (·.name == Naming.camelCase f.name) = [s] := by
  have hmem : ownSetter policy f ∈ m.fields.flatMap (fieldSetters policy) := by
    refine List.mem_flatMap.2 ⟨f, hf, ?_⟩
    rw [fieldSetters_eq]
    exact List.mem_cons_self
  have hsome : ((m.fields.flatMap (fieldSetters policy)).find?
      (·.name == Naming.camelCase f.name)).isSome := by
    rw [List.find?_isSome]
    exact ⟨_, hmem, by simp [ownSetter]⟩
  obtain ⟨s, hs⟩ := Option.isSome_iff_exists.1 hsome
  exact ⟨s, by rw [setters_named, hs]; rfl⟩

/-- The first field of a name has its own setter, unless an earlier field derives the name. -/
lemma find?_setter (hfields : m.fields = before ++ f :: after)
    (hfirst : ∀ g ∈ before, Naming.camelCase g.name ≠ Naming.camelCase f.name) :
    (m.fields.flatMap (fieldSetters policy)).find? (·.name == Naming.camelCase f.name) =
      if Naming.camelCase f.name ∈ before.flatMap derivedNames then
        some (derivedSetter policy (Naming.camelCase f.name))
      else some (ownSetter policy f) := by
  have hf : ((ownSetter policy f).name == Naming.camelCase f.name) = true := by simp [ownSetter]
  rw [hfields, List.flatMap_append, List.find?_append, find?_fieldSetters policy hfirst,
    List.flatMap_cons, fieldSetters_eq, List.cons_append, List.find?_cons, hf]
  split <;> rfl

end Setters

/-- The properties of an interface. -/
def TypeDeclaration.properties : TypeDeclaration → List Property
  | .interface _ _ properties _ => properties
  | .alias _ _ _ _ => []

/-- The property of a field in the interface of a message. -/
lemma property_of_field (policy : TypePolicy) (features : Features) {m : Message}
    {before after : List Field} {f : Field} (hfields : m.fields = before ++ f :: after)
    (honly : ∀ g ∈ before ++ after, Naming.camelCase g.name ≠ Naming.camelCase f.name) :
    ∃ p, (interfaceOf policy features m).properties.filter
        (·.name == Naming.camelCase f.name) = [p] ∧ p.type = policy.fieldType f := by
  have hothers : ∀ fields : List Field,
      (∀ g ∈ fields, Naming.camelCase g.name ≠ Naming.camelCase f.name) →
      fields.filter (fun g => Naming.camelCase g.name == Naming.camelCase f.name) = [] := by
    intro fields h
    rw [List.filter_eq_nil_iff]
    exact fun g hg => by simpa using h g hg
  have hfilter : m.fields.filter
      (fun g => Naming.camelCase g.name == Naming.camelCase f.name) = [f] := by
    rw [hfields, List.filter_append, hothers before fun g hg => honly g (by simp [hg])]
    simp [hothers after fun g hg => honly g (by simp [hg])]
  rw [interfaceOf, TypeDeclaration.properties, List.filter_map]
  simp only [Function.comp_def, hfilter]
  exact ⟨_, rfl, rfl⟩

/-- **Setters of fields.**  A filter builder has exactly one setter of the name of each field.  If
no other field has that name, the interface has one property of the name, of the type of the
field; and the setter takes a value of that type, unless an earlier field derives the name: then
it takes what the ending of the name asks for. -/
theorem setter_of_field (policy : TypePolicy) (features : Features) {m : Message}
    {before after : List Field} {f : Field} (hfields : m.fields = before ++ f :: after) :
    ∃ s, (filterBuilderOf policy m).setters.filter (·.name == Naming.camelCase f.name) = [s] ∧
      ((∀ g ∈ before ++ after, Naming.camelCase g.name ≠ Naming.camelCase f.name) →
        ∃ p, (interfaceOf policy features m).properties.filter
            (·.name == Naming.camelCase f.name) = [p] ∧
          p.type = policy.fieldType f ∧
          s.type = if Naming.camelCase f.name ∈ before.flatMap derivedNames then
            derivedType policy (Naming.camelCase f.name) else p.type) := by
  obtain ⟨s, hs⟩ := exists_setter policy (by simp [hfields] : f ∈ m.fields)
  refine ⟨s, hs, fun honly => ?_⟩
  obtain ⟨p, hp, htype⟩ := property_of_field policy features hfields honly
  refine ⟨p, hp, htype, ?_⟩
  rw [setters_named, find?_setter policy hfields fun g hg => honly g (by simp [hg])] at hs
  split at hs
  · next hderived =>
    obtain rfl : derivedSetter policy (Naming.camelCase f.name) = s := by simpa using hs
    rw [if_pos hderived, derivedSetter]
  · next hown =>
    obtain rfl : ownSetter policy f = s := by simpa using hs
    rw [if_neg hown, htype, ownSetter]

/-- A filter for users with given fields. -/
def userFilter (fields : List Field) : Message := { name := "UserFilter", fields }

/-- A text that is searched for. -/
def nameField : Field := { name := "name", typeName := "string", number := 1 }

/-- A number with the name of a derived setter. -/
def nameLikeField : Field := { name := "name_like", typeName := "int32", number := 2 }

/-- A number that is declared after the text whose setter takes its name can be set to texts only;
declared first, it can be set to numbers. -/
theorem setter_of_field_nameLike :
    (∃ s, (filterBuilderOf {} (userFilter [nameField, nameLikeField])).setters.filter
        (·.name == "nameLike") = [s] ∧ s.type = "string") ∧
    (∃ s, (filterBuilderOf {} (userFilter [nameLikeField, nameField])).setters.filter
        (·.name == "nameLike") = [s] ∧ s.type = "number") := by
  have hname : Naming.camelCase nameLikeField.name = "nameLike" := by decide
  constructor
  · have hfields : (userFilter [nameField, nameLikeField]).fields =
        [nameField] ++ nameLikeField :: [] := rfl
    obtain ⟨s, hs, htype⟩ := setter_of_field {} {} hfields
    obtain ⟨p, -, -, hsetter⟩ := htype (by decide)
    rw [if_pos (by decide)] at hsetter
    rw [hname] at hs hsetter
    exact ⟨s, hs, hsetter.trans (by decide)⟩
  · have hfields : (userFilter [nameLikeField, nameField]).fields =
        [] ++ nameLikeField :: [nameField] := rfl
    obtain ⟨s, hs, htype⟩ := setter_of_field {} {} hfields
    obtain ⟨p, -, hfield, hsetter⟩ := htype (by decide)
    rw [if_neg (by simp), hfield] at hsetter
    rw [hname] at hs
    exact ⟨s, hs, hsetter.trans (by decide)⟩

end TypedFetch.TypeScript
