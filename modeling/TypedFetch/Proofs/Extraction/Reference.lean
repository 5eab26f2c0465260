import TypedFetch.Proofs.Extraction.Listing

/-!
# References of descriptors

A field of a descriptor refers to a type by its full name.  A field whose type is a map entry of its
own message shows the type of the values of the map instead, and a field may hold one value, a list
or a map.  Extraction keeps the canonical name of the type that is shown and how many values there
are.
-/

namespace TypedFetch.Proto

/-- How many values a field holds. -/
inductive Multiplicity where
  | one
  | list
  | map
deriving Repr, DecidableEq

/-- How many values a field of a schema holds. -/
def multiplicityOf (f : Schema.Field) : Multiplicity :=
  if f.isMap then .map else if f.repeated then .list else .one

/-! ## Fields -/

/-- The full name of the type that a field refers to, unless the type is built in. -/
def FieldDescriptor.reference? (f : FieldDescriptor) : Option String :=
  match f.kind with
  | .scalar _ => none
  | _ => some (unrooted f.typeName)

/-- The canonical name of a type that is not built in. -/
def canonicalName (name : String) : String :=
  match wrapperTypes.lookup name with
  | some canonical => canonical
  | none => if qualifiedTypes.contains name then name else Naming.simpleName name

lemma canonicalType_of_reference? {f : FieldDescriptor} {name : String}
    (h : f.reference? = some name) : f.canonicalType.1 = canonicalName name := by
  unfold FieldDescriptor.reference? at h
  unfold FieldDescriptor.canonicalType canonicalName
  split at h
  · exact absurd h (by simp)
  · next hkind =>
    obtain rfl := Option.some.inj h
    cases hk : f.kind with
    | scalar s => exact absurd hk (hkind s)
    | message | enumeration | group =>
      dsimp only
      cases wrapperTypes.lookup (unrooted f.typeName) with
      | some canonical => rfl
      | none =>
        dsimp only
        split <;> rfl

/-- The map entry that a field of a listed message holds. -/
def Listed.entry? (l : Listed) (f : FieldDescriptor) : Option MessageDescriptor :=
  if f.kind == .message then l.entries.lookup f.typeName else none

/-- The field whose type is shown: of a map, that of the values. -/
def Listed.shown (l : Listed) (f : FieldDescriptor) : FieldDescriptor :=
  match l.entry? f with
  | some m => (m.fields.drop 1).headD f
  | none => f

/-- How many values a field of a listed message holds. -/
def Listed.multiplicity (l : Listed) (f : FieldDescriptor) : Multiplicity :=
  if (l.entry? f).isSome then .map else if f.label == .repeated then .list else .one

/-- Extraction keeps the name of a field, the canonical name of the type that it shows, and how many
values it holds. -/
lemma shown_of_extractField {dialect : String} {l : Listed} {description : Option String}
    {f : FieldDescriptor} {g : Schema.Field}
    (h : extractField dialect l.entries description f = .ok g) :
    g.name = f.name ∧ g.typeName = (l.shown f).canonicalType.1 ∧
      multiplicityOf g = l.multiplicity f := by
  unfold extractField at h
  unfold Listed.shown Listed.multiplicity
  simp only [← Listed.entry?.eq_def] at h ⊢
  cases hentry : l.entry? f with
  | some m =>
    rw [hentry] at h
    obtain ⟨key, value, rest, hfields⟩ : ∃ key value rest, m.fields = key :: value :: rest := by
      dsimp only at h
      split at h
      · next key value rest hfields => exact ⟨key, value, rest, hfields⟩
      · exact absurd h (by simp)
    simp only [hfields] at h
    obtain ⟨number, -, rfl⟩ := map_eq_ok h
    simp [hfields, multiplicityOf, Schema.Field.isMap]
  | none =>
    rw [hentry] at h
    obtain ⟨number, -, rfl⟩ := map_eq_ok h
    simp [multiplicityOf, Schema.Field.isMap]

/-! ## Methods -/

lemma takeWhile_concat {α : Type} {p : α → Bool} {x : α} (hx : p x = false) (xs : List α) :
    (xs ++ [x]).takeWhile p = xs.takeWhile p := by
  induction xs with
  | nil => simp [hx]
  | cons y ys ih => simp only [List.cons_append, List.takeWhile_cons, ih]

/-- The points in front of a name are not part of its last segment. -/
lemma simpleName_unrooted (name : String) :
    Naming.simpleName (unrooted name) = Naming.simpleName name := by
  unfold Naming.simpleName unrooted
  rw [String.toList_ofList]
  congr 1
  induction name.toList with
  | nil => rfl
  | cons c cs ih =>
    rw [List.dropWhile_cons]
    split
    · next hc =>
      obtain rfl : c = '.' := by simpa using hc
      rw [ih, Text.afterLast, Text.afterLast, List.reverse_cons, takeWhile_concat (by simp)]
    · rfl

/-- Extraction keeps the simple names of the types of a method. -/
lemma types_of_extractMethod {description : Option String} {d : MethodDescriptor}
    {m : Schema.Method} (h : extractMethod description d = .ok m) :
    m.inputType = Naming.simpleName d.input ∧ m.outputType = Naming.simpleName d.output := by
  obtain ⟨options, -, h⟩ := bind_eq_ok h
  obtain ⟨operation, -, h⟩ := bind_eq_ok h
  dsimp only at h
  split at h
  · next method hmethod =>
    obtain rfl := Except.ok.inj h
    generalize textOf "description" _ = described at hmethod
    generalize textOf "summary" _ = summarized at hmethod
    rcases described with es | d' <;> rcases summarized with es' | s' <;> cases hmethod
    exact ⟨rfl, rfl⟩
  · exact absurd h (by simp)

end TypedFetch.Proto
