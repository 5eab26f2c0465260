import Mathlib.Data.List.Nodup
import TypedFetch.Proofs.Extraction.Reference

/-!
# Extraction is complete

Extraction of a compiled file leaves out the messages for map entries and nothing else.
`FileDescriptor.declared` lists all messages of a file, each before those nested in it, without any
rule on what to skip.  In a descriptor as a compiler gives it (`FileDescriptor.WellFormed`) the
messages of the schema are those of this listing that hold no map entries, in their order; every
field is there once; and a field is a map exactly if its type is a map entry that is declared in its
own message, so that nothing in the schema refers to a message that was left out.  The main
statement is `extractFile_complete`.
-/

namespace TypedFetch.Proto

/-! ## Declared messages -/

mutual

/-- A message and all messages nested in it, with the places where they are declared. -/
def declaredIn (path : List Int) (scope : String) : MessageDescriptor → List Listed
  | .mk name fields nested enums isMapEntry =>
    ⟨path, scope ++ "." ++ name, .mk name fields nested enums isMapEntry⟩ ::
      declaredAmong (path ++ [pathNumbers.nestedMessages]) (scope ++ "." ++ name) 0 nested

/-- The messages of a list with all messages nested in them. -/
def declaredAmong (path : List Int) (scope : String) (index : Nat) :
    List MessageDescriptor → List Listed
  | [] => []
  | m :: rest =>
    declaredIn (path ++ [(index : Int)]) scope m ++ declaredAmong path scope (index + 1) rest

end

/-- All messages of a file, each before those nested in it. -/
def FileDescriptor.declared (f : FileDescriptor) : List Listed :=
  declaredAmong [pathNumbers.messages] (if f.package.isEmpty then "" else "." ++ f.package) 0
    f.messages

lemma mem_declaredIn_self (path : List Int) (scope : String) (m : MessageDescriptor) :
    ⟨path, scope ++ "." ++ m.name, m⟩ ∈ declaredIn path scope m := by
  cases m
  rw [declaredIn]
  exact List.mem_cons_self

lemma exists_mem_declaredAmong {scope : String} {m : MessageDescriptor}
    {ms : List MessageDescriptor} (h : m ∈ ms) : ∀ {path : List Int} {index : Nat},
      ∃ e ∈ declaredAmong path scope index ms, e.fullName = scope ++ "." ++ m.name ∧
        e.message = m := by
  induction ms with
  | nil => exact absurd h (by simp)
  | cons first rest ih =>
    intro path index
    rw [declaredAmong]
    rcases List.mem_cons.1 h with rfl | h
    · exact ⟨_, List.mem_append_left _ (mem_declaredIn_self _ _ m), rfl, rfl⟩
    · obtain ⟨e, he, hname⟩ := ih h
      exact ⟨e, List.mem_append_right _ he, hname⟩

mutual

/-- What is nested in a declared message is declared. -/
lemma exists_nested_declaredIn {l : Listed} {m' : MessageDescriptor} (hm' : m' ∈ l.message.nested) :
    ∀ {path : List Int} {scope : String} {m : MessageDescriptor}, l ∈ declaredIn path scope m →
      ∃ e ∈ declaredIn path scope m, e.fullName = l.fullName ++ "." ++ m'.name ∧ e.message = m'
  | path, scope, .mk name fields nested enums isMapEntry, h => by
    rw [declaredIn] at h ⊢
    rcases List.mem_cons.1 h with rfl | h
    · obtain ⟨e, he, hname⟩ := exists_mem_declaredAmong hm'
      exact ⟨e, List.mem_cons_of_mem _ he, hname⟩
    · obtain ⟨e, he, hname⟩ := exists_nested_declaredAmong hm' h
      exact ⟨e, List.mem_cons_of_mem _ he, hname⟩

lemma exists_nested_declaredAmong {l : Listed} {m' : MessageDescriptor}
    (hm' : m' ∈ l.message.nested) :
    ∀ {path : List Int} {scope : String} {index : Nat} {ms : List MessageDescriptor},
      l ∈ declaredAmong path scope index ms →
        ∃ e ∈ declaredAmong path scope index ms,
          e.fullName = l.fullName ++ "." ++ m'.name ∧ e.message = m'
  | _, _, _, [], h => absurd h (by simp [declaredAmong])
  | path, scope, index, m :: rest, h => by
    rw [declaredAmong] at h ⊢
    rcases List.mem_append.1 h with h | h
    · obtain ⟨e, he, hname⟩ := exists_nested_declaredIn hm' h
      exact ⟨e, List.mem_append_left _ he, hname⟩
    · obtain ⟨e, he, hname⟩ := exists_nested_declaredAmong hm' h
      exact ⟨e, List.mem_append_right _ he, hname⟩

end

/-! ## Descriptors as a compiler gives them -/

/-- The type of a field is the one with the given full name, and not a built-in one. -/
def FieldDescriptor.Refers (d : FieldDescriptor) (fullName : String) : Prop :=
  d.reference?.isSome = true ∧ d.typeName = fullName

instance (d : FieldDescriptor) (fullName : String) : Decidable (d.Refers fullName) :=
  inferInstanceAs (Decidable (_ ∧ _))

/-- A descriptor as a compiler gives it.  A message for map entries has a key and a value and
declares nothing; it is nested in the message whose fields refer to it, and no other fields do. -/
structure FileDescriptor.WellFormed (f : FileDescriptor) : Prop where
  siblings : ∀ l ∈ f.declared, (l.message.nested.map MessageDescriptor.name).Nodup
  numbers : ∀ l ∈ f.declared, ∀ d ∈ l.message.fields, 1 ≤ d.number
  topLevel : ∀ m ∈ f.messages, m.isMapEntry = false
  entryFields : ∀ l ∈ f.declared, l.message.isMapEntry = true → 2 ≤ l.message.fields.length
  entryNested : ∀ l ∈ f.declared, l.message.isMapEntry = true → l.message.nested = []
  references : ∀ l ∈ f.declared, ∀ d ∈ l.message.fields, ∀ e ∈ f.declared,
    e.message.isMapEntry = true → d.Refers e.fullName → d.kind = .message ∧
      ∃ m ∈ l.message.nested, m.isMapEntry = true ∧ e.fullName = l.fullName ++ "." ++ m.name

/-! ## The listing leaves out map entries only -/

/-- The message holds no map entries. -/
def Listed.isProper (l : Listed) : Bool := !l.message.isMapEntry

mutual

lemma listMessage_eq {path : List Int} {scope : String} :
    ∀ {m : MessageDescriptor},
      (∀ l ∈ declaredIn path scope m, l.message.isMapEntry = true → l.message.nested = []) →
      m.isMapEntry = false →
      listMessage path scope m = (declaredIn path scope m).filter Listed.isProper
  | .mk name fields nested enums isMapEntry, h, hproper => by
    rw [declaredIn] at h ⊢
    obtain rfl : isMapEntry = false := hproper
    rw [listMessage, List.filter_cons_of_pos (by rfl), listNested_eq fun l hl =>
      h l (List.mem_cons_of_mem _ hl)]

/-- What is nested is listed, unless it holds map entries; these have nothing nested in them. -/
lemma listNested_eq {path : List Int} {scope : String} {index : Nat} :
    ∀ {ms : List MessageDescriptor},
      (∀ l ∈ declaredAmong path scope index ms,
        l.message.isMapEntry = true → l.message.nested = []) →
      listNested path scope index ms = (declaredAmong path scope index ms).filter Listed.isProper
  | [], _ => by rw [listNested, declaredAmong, List.filter_nil]
  | m :: rest, h => by
    rw [declaredAmong] at h
    have hfirst : ∀ l ∈ declaredIn (path ++ [(index : Int)]) scope m,
        l.message.isMapEntry = true → l.message.nested = [] := fun l hl =>
      h l (List.mem_append_left _ hl)
    rw [listNested, declaredAmong, List.filter_append, listNested_eq fun l hl =>
      h l (List.mem_append_right _ hl)]
    congr 1
    cases hentry : m.isMapEntry with
    | false =>
      rw [if_neg (by simp)]
      exact listMessage_eq hfirst hentry
    | true =>
      have hnested := hfirst _ (mem_declaredIn_self _ _ m) hentry
      rw [if_pos rfl]
      obtain ⟨name, fields, nested, enums, isMapEntry⟩ := m
      obtain rfl : nested = [] := hnested
      obtain rfl : isMapEntry = true := hentry
      rw [declaredIn, declaredAmong]
      rfl

end

lemma listMessages_eq {scope : String} {ms : List MessageDescriptor}
    (h : ∀ m ∈ ms, m.isMapEntry = false) : ∀ index : Nat,
      listMessages scope index ms = listNested [pathNumbers.messages] scope index ms := by
  induction ms with
  | nil => intro index; rw [listMessages, listNested]
  | cons m rest ih =>
    intro index
    rw [listMessages, listNested, if_neg (by simp [h m (by simp)]),
      ih fun m' hm' => h m' (List.mem_cons_of_mem _ hm')]
    rfl

lemma listing_eq {f : FileDescriptor} (h : f.WellFormed) :
    f.listing = f.declared.filter Listed.isProper := by
  rw [FileDescriptor.listing, listMessages_eq h.topLevel, listNested_eq h.entryNested]
  rfl

/-! ## Fields -/

/-- The type of a field is a map entry that is declared in the message of the field. -/
structure Listed.HoldsMap (l : Listed) (d : FieldDescriptor) (m : MessageDescriptor) : Prop where
  nested : m ∈ l.message.nested
  isEntry : m.isMapEntry = true
  refers : d.Refers (l.fullName ++ "." ++ m.name)

/-- The type of a field is a map entry, wherever it is declared. -/
def FileDescriptor.RefersToEntry (f : FileDescriptor) (d : FieldDescriptor) : Prop :=
  ∃ e ∈ f.declared, e.message.isMapEntry = true ∧ d.Refers e.fullName

/-- A field of a schema follows a field of a message of a descriptor. -/
structure FieldFollows (f : FileDescriptor) (l : Listed) (d : FieldDescriptor)
    (g : Schema.Field) : Prop where
  name : g.name = d.name
  number : (g.number : Int) = d.number
  /-- It is a map exactly if the type is a map entry of the same message. -/
  isMap_iff : g.isMap = true ↔ ∃ m, l.HoldsMap d m
  /-- A map has the type of the values as its type and keeps the type of the keys. -/
  map : ∀ m, l.HoldsMap d m → ∃ key value rest, m.fields = key :: value :: rest ∧
    g.typeName = value.canonicalType.1 ∧ g.mapKeyType = some key.canonicalType.1 ∧
    g.repeated = false ∧ ¬ f.RefersToEntry value
  /-- Any other field has its own type. -/
  noMap : (¬ ∃ m, l.HoldsMap d m) → g.typeName = d.canonicalType.1 ∧
    g.repeated = (d.label == .repeated) ∧ ¬ f.RefersToEntry d

lemma lookup_mapEntries {fullName typeName : String} {nested : List MessageDescriptor}
    {m : MessageDescriptor} (hsiblings : (nested.map MessageDescriptor.name).Nodup) :
    (mapEntries fullName nested).lookup typeName = some m ↔
      m ∈ nested ∧ m.isMapEntry = true ∧ typeName = fullName ++ "." ++ m.name := by
  have hsound : ∀ {m}, (mapEntries fullName nested).lookup typeName = some m →
      m ∈ nested ∧ m.isMapEntry = true ∧ typeName = fullName ++ "." ++ m.name := by
    intro m h
    obtain ⟨before, after, hsplit, -⟩ := List.lookup_eq_some_iff.1 h
    have hmem : (typeName, m) ∈ mapEntries fullName nested := by simp [hsplit]
    rw [mapEntries, List.mem_reverse, List.mem_map] at hmem
    obtain ⟨m', hm', hpair⟩ := hmem
    obtain ⟨hname, rfl⟩ := Prod.mk.inj hpair
    obtain ⟨hnested, hentry⟩ := List.mem_filter.1 hm'
    exact ⟨hnested, hentry, hname.symm⟩
  refine ⟨hsound, ?_⟩
  rintro ⟨hnested, hentry, rfl⟩
  have hsome : ((mapEntries fullName nested).lookup (fullName ++ "." ++ m.name)).isSome := by
    rw [List.lookup_isSome_iff]
    refine ⟨(fullName ++ "." ++ m.name, m), ?_, by simp⟩
    rw [mapEntries, List.mem_reverse, List.mem_map]
    exact ⟨m, List.mem_filter.2 ⟨hnested, hentry⟩, rfl⟩
  obtain ⟨m', hm'⟩ := Option.isSome_iff_exists.1 hsome
  obtain ⟨hnested', -, hname⟩ := hsound hm'
  -- siblings with the same full name have the same name
  have hsame : m.name = m'.name := by simpa using hname
  rw [hm', List.inj_on_of_nodup_map hsiblings hnested hnested' hsame]

section Fields

variable {f : FileDescriptor} {l : Listed} {d : FieldDescriptor}

/-- A map entry that is nested in a declared message is declared. -/
lemma exists_declared_of_holdsMap (hl : l ∈ f.declared) {m : MessageDescriptor}
    (h : l.HoldsMap d m) :
    ∃ e ∈ f.declared, e.fullName = l.fullName ++ "." ++ m.name ∧ e.message = m :=
  exists_nested_declaredAmong h.nested hl

/-- The map entry that is looked up for a field is the one that its type is. -/
lemma entry?_eq_some_iff (hf : f.WellFormed) (hl : l ∈ f.declared) (hd : d ∈ l.message.fields)
    {m : MessageDescriptor} : l.entry? d = some m ↔ l.HoldsMap d m := by
  unfold Listed.entry?
  constructor
  · intro h
    split at h
    · next hkind =>
      obtain ⟨hnested, hentry, hname⟩ := (lookup_mapEntries (hf.siblings l hl)).1 h
      refine ⟨hnested, hentry, ?_, hname⟩
      cases hk : d.kind with
      | scalar s =>
        rw [hk] at hkind
        exact absurd hkind Bool.false_ne_true
      | message | enumeration | group => simp [FieldDescriptor.reference?, hk]
    · exact absurd h (by simp)
  · intro h
    obtain ⟨e, he, hname, rfl⟩ := exists_declared_of_holdsMap hl h
    have hkind := (hf.references l hl d hd e he h.isEntry (hname ▸ h.refers)).1
    rw [if_pos (by rw [hkind]; rfl)]
    exact (lookup_mapEntries (hf.siblings l hl)).2 ⟨h.nested, h.isEntry, h.refers.2⟩

/-- The fields of a map entry refer to no map entry, because nothing is declared in it. -/
lemma not_refersToEntry (hf : f.WellFormed) (hl : l ∈ f.declared)
    (hentry : l.message.isMapEntry = true) (hd : d ∈ l.message.fields) : ¬ f.RefersToEntry d := by
  rintro ⟨e, he, hisEntry, hrefers⟩
  obtain ⟨m, hm, -⟩ := (hf.references l hl d hd e he hisEntry hrefers).2
  rw [hf.entryNested l hl hentry] at hm
  exact absurd hm (by simp)

/-- A message for map entries has a key and a value. -/
lemma exists_key_value (hf : f.WellFormed) (hl : l ∈ f.declared)
    (hentry : l.message.isMapEntry = true) :
    ∃ key value rest, l.message.fields = key :: value :: rest := by
  have hlength := hf.entryFields l hl hentry
  match hfields : l.message.fields with
  | key :: value :: rest => exact ⟨key, value, rest, rfl⟩
  | [_] | [] => exact absurd hlength (by simp [hfields])

lemma fieldNumber_eq {i : Int} (h : 1 ≤ i) : fieldNumber i = .ok i.toNat := if_pos h

/-- Every field of a declared message can be extracted, and the result follows it. -/
lemma exists_extractField (hf : f.WellFormed) (hl : l ∈ f.declared) (hd : d ∈ l.message.fields)
    (description : Option String) :
    ∃ g, extractField f.dialect l.entries description d = .ok g ∧ FieldFollows f l d g := by
  have hnumber := hf.numbers l hl d hd
  unfold extractField
  simp only [← Listed.entry?.eq_def, fieldNumber_eq hnumber, Except.map]
  cases hfound : l.entry? d with
  | some m =>
    have hm := (entry?_eq_some_iff hf hl hd).1 hfound
    obtain ⟨e, he, -, rfl⟩ := exists_declared_of_holdsMap hl hm
    obtain ⟨key, value, rest, hfields⟩ := exists_key_value hf he hm.isEntry
    dsimp only
    rw [hfields]
    refine ⟨_, rfl, rfl, Int.toNat_of_nonneg (by omega), ?_, ?_, ?_⟩
    · exact ⟨fun _ => ⟨_, hm⟩, fun _ => rfl⟩
    · intro m' hm'
      -- no other entry is the type of the field
      have hfound' := (entry?_eq_some_iff hf hl hd).2 hm'
      obtain rfl : e.message = m' := Option.some.inj (hfound.symm.trans hfound')
      exact ⟨key, value, rest, hfields, rfl, rfl, rfl,
        not_refersToEntry hf he hm.isEntry (by simp [hfields])⟩
    · exact fun hnone => absurd ⟨_, hm⟩ hnone
  | none =>
    have hnone : ¬ ∃ m, l.HoldsMap d m := by
      rintro ⟨m, hm⟩
      have hsome := (entry?_eq_some_iff hf hl hd).2 hm
      exact absurd (hfound.symm.trans hsome) (by simp)
    refine ⟨_, rfl, rfl, Int.toNat_of_nonneg (by omega), ?_, ?_, ?_⟩
    · exact ⟨fun h => absurd h (by simp [Schema.Field.isMap]), fun h => absurd h hnone⟩
    · exact fun m hm => absurd ⟨m, hm⟩ hnone
    · refine fun _ => ⟨rfl, rfl, ?_⟩
      rintro ⟨e, he, hisEntry, hrefers⟩
      obtain ⟨m, hm, hentry, hname⟩ := (hf.references l hl d hd e he hisEntry hrefers).2
      exact hnone ⟨m, hm, hentry, hname ▸ hrefers⟩

end Fields

/-! ## Messages and enumerations -/

/-- A message of a schema follows a message of a descriptor: every field is there once, in order. -/
structure MessageFollows (f : FileDescriptor) (l : Listed) (m : Schema.Message) : Prop where
  name : m.name = l.message.name
  fields : List.Forall₂ (FieldFollows f l) l.message.fields m.fields
  description : m.description = describe f.locations l.path

/-- An enumeration of a schema follows one of a descriptor. -/
structure EnumFollows (e : EnumDescriptor) (g : Schema.EnumType) : Prop where
  name : g.name = e.name
  values : g.values = e.values

lemma exists_extractFields {f : FileDescriptor} (hf : f.WellFormed) {l : Listed}
    (hl : l ∈ f.declared) :
    ∃ fields,
      extractFields f.dialect f.locations l.path l.entries l.message.fields = .ok fields := by
  refine exists_mapM_eq_ok fun x hx => ?_
  obtain ⟨g, hg, -⟩ := exists_extractField hf hl (List.fst_mem_of_mem_zipIdx hx)
    (describe f.locations (l.path ++ [pathNumbers.fields, (x.2 : Int)]))
  exact ⟨g, hg⟩

/-- A message that is made from a declared one follows it. -/
lemma MadeFrom.follows {f : FileDescriptor} (hf : f.WellFormed) {l : Listed}
    (hl : l ∈ f.declared) {m : Schema.Message} (h : MadeFrom f.dialect f.locations l m) :
    MessageFollows f l m := by
  refine ⟨h.name, ?_, h.description⟩
  have hrun := (List.forall₂_and_left _ _).2 ⟨fun _ hd => hd, forall₂_of_mapM_zipIdx h.fields⟩
  refine hrun.imp ?_
  rintro d g ⟨hd, i, hg⟩
  obtain ⟨g', hg', hfollows⟩ := exists_extractField hf hl hd
    (describe f.locations (l.path ++ [pathNumbers.fields, (i : Int)]))
  rwa [Except.ok.inj (hg.symm.trans hg')]

section Runs

variable {dialect : String} {locations : List Location}

mutual

/-- A message can be extracted if the fields of all listed messages can. -/
lemma exists_extractMessage {path : List Int} {scope : String} :
    ∀ {m : MessageDescriptor},
      (∀ l ∈ listMessage path scope m, ∃ fields,
        extractFields dialect locations l.path l.entries l.message.fields = .ok fields) →
      ∃ found, extractMessage dialect locations path scope m = .ok found
  | .mk name fields nested enums isMapEntry, h => by
    rw [listMessage] at h
    have hown := h _ List.mem_cons_self
    have hbelow := exists_extractNested fun l hl => h l (List.mem_cons_of_mem _ hl)
    rw [extractMessage]
    exact exists_bind_eq_ok hown fun _ => exists_bind_eq_ok hbelow fun _ => ⟨_, rfl⟩

lemma exists_extractNested {path : List Int} {scope : String} {index : Nat} :
    ∀ {ms : List MessageDescriptor},
      (∀ l ∈ listNested path scope index ms, ∃ fields,
        extractFields dialect locations l.path l.entries l.message.fields = .ok fields) →
      ∃ found, extractNested dialect locations path scope index ms = .ok found
  | [], _ => ⟨_, by rw [extractNested]⟩
  | m :: rest, h => by
    rw [listNested] at h
    have hothers := exists_extractNested fun l hl => h l (List.mem_append_right _ hl)
    rw [extractNested]
    split
    · rw [pure_bind]
      exact exists_bind_eq_ok hothers fun _ => ⟨_, rfl⟩
    · next hentry =>
      have hfirst := exists_extractMessage fun l hl =>
        h l (List.mem_append_left _ (by rwa [if_neg hentry]))
      exact exists_bind_eq_ok hfirst fun _ => exists_bind_eq_ok hothers fun _ => ⟨_, rfl⟩

end

lemma exists_extractMessages {scope : String} {ms : List MessageDescriptor} :
    ∀ {index : Nat}, (∀ l ∈ listMessages scope index ms, ∃ fields,
        extractFields dialect locations l.path l.entries l.message.fields = .ok fields) →
      ∃ found, extractMessages dialect locations scope index ms = .ok found := by
  induction ms with
  | nil => exact fun _ => ⟨_, rfl⟩
  | cons m rest ih =>
    intro index h
    rw [listMessages] at h
    rw [extractMessages]
    refine exists_bind_eq_ok ?_ fun _ => exists_bind_eq_ok ?_ fun _ => ⟨_, rfl⟩
    · exact exists_extractMessage fun l hl => h l (List.mem_append_left _ hl)
    · exact ih fun l hl => h l (List.mem_append_right _ hl)

/-! ### Enumerations -/

lemma enumFollows_extractEnums (path : List Int) (list : Int) (index : Nat)
    (enums : List EnumDescriptor) :
    List.Forall₂ EnumFollows enums (extractEnums locations path list index enums) := by
  have hzip : List.Forall₂ (fun e g => EnumFollows e g) ((enums.zipIdx index).map Prod.fst)
      (extractEnums locations path list index enums) := by
    rw [extractEnums, List.forall₂_map_left_iff, List.forall₂_map_right_iff, List.forall₂_same]
    exact fun _ _ => ⟨rfl, rfl⟩
  rwa [List.zipIdx_map_fst] at hzip

/-- The enumerations that were found follow those of the listed messages, in some order. -/
def EnumsFollow (listed : List Listed) (enums : List Schema.EnumType) : Prop :=
  ∃ es, es.Perm (listed.flatMap (·.message.enums)) ∧ List.Forall₂ EnumFollows es enums

lemma EnumsFollow.append {listed listed' : List Listed} {enums enums' : List Schema.EnumType}
    (h : EnumsFollow listed enums) (h' : EnumsFollow listed' enums') :
    EnumsFollow (listed ++ listed') (enums ++ enums') := by
  obtain ⟨es, hperm, hall⟩ := h
  obtain ⟨es', hperm', hall'⟩ := h'
  exact ⟨es ++ es', List.flatMap_append ▸ hperm.append hperm', List.rel_append hall hall'⟩

mutual

/-- The enumerations of a message come after those of the messages nested in it. -/
lemma enumsFollow_extractMessage {path : List Int} {scope : String} :
    ∀ {m : MessageDescriptor} {found : Extracted},
      extractMessage dialect locations path scope m = .ok found →
        EnumsFollow (listMessage path scope m) found.enums
  | .mk name fields nested enums isMapEntry, found, h => by
    obtain ⟨own, below, -, hbelow, rfl⟩ := exists_of_extractMessage h
    obtain ⟨es, hperm, hall⟩ := enumsFollow_extractNested hbelow
    refine ⟨es ++ enums, ?_, List.rel_append hall (enumFollows_extractEnums _ _ _ _)⟩
    rw [listMessage, List.flatMap_cons]
    exact List.perm_append_comm.trans (hperm.append_left enums)

lemma enumsFollow_extractNested {path : List Int} {scope : String} {index : Nat} :
    ∀ {ms : List MessageDescriptor} {found : Extracted},
      extractNested dialect locations path scope index ms = .ok found →
        EnumsFollow (listNested path scope index ms) found.enums
  | [], found, h => by
    obtain rfl := Except.ok.inj h
    exact ⟨[], by rw [listNested]; rfl, .nil⟩
  | m :: rest, found, h => by
    obtain ⟨others, hothers, ⟨hentry, rfl⟩ | ⟨hentry, first, hfirst, rfl⟩⟩ :=
      exists_of_extractNested_cons h
    · rw [listNested, if_pos hentry]
      exact enumsFollow_extractNested hothers
    · rw [listNested, if_neg hentry]
      exact (enumsFollow_extractMessage hfirst).append (enumsFollow_extractNested hothers)

end

lemma enumsFollow_extractMessages {scope : String} {ms : List MessageDescriptor} :
    ∀ {index : Nat} {found : Extracted},
      extractMessages dialect locations scope index ms = .ok found →
        EnumsFollow (listMessages scope index ms) found.enums := by
  induction ms with
  | nil =>
    intro index found h
    obtain rfl := Except.ok.inj h
    exact ⟨[], .refl _, .nil⟩
  | cons m rest ih =>
    intro index found h
    obtain ⟨first, others, hfirst, hothers, rfl⟩ := exists_of_extractMessages_cons h
    exact (enumsFollow_extractMessage hfirst).append (ih hothers)

end Runs

/-! ## Files -/

/-- The services of the schema that a descriptor gives. -/
def FileDescriptor.schemaServices (f : FileDescriptor) :
    Except ExtractError (List Schema.Service) :=
  f.services.zipIdx.mapM fun (s, i) =>
    extractService f.locations [pathNumbers.services, (i : Int)] s

/-- Where the messages can be extracted, extraction of a file fails only at a service. -/
lemma extractFile_eq {f : FileDescriptor} (imports : List String) {found : Extracted}
    (h : extractMessages f.dialect f.locations
      (if f.package.isEmpty then "" else "." ++ f.package) 0 f.messages = .ok found) :
    extractFile f imports = f.schemaServices.map fun services =>
      { package := f.package, services, messages := found.messages
        enums := extractEnums f.locations [] pathNumbers.enums 0 f.enums ++ found.enums
        imports } := by
  simp only [extractFile, h]
  change f.schemaServices.bind _ = _
  cases f.schemaServices <;> rfl

/-- **Nothing is lost and nothing is there twice.**  From a descriptor as a compiler gives it a
schema is extracted, unless the options of a method are at fault.  Its messages follow the declared
messages that hold no map entries, one for one and in order, field by field.  Its enumerations are
those at the top of the file and then those of these messages, each of them once. -/
theorem extractFile_complete {f : FileDescriptor} (hf : f.WellFormed) (imports : List String) :
    ∃ messages enums nestedEnums,
      extractFile f imports = f.schemaServices.map (fun services =>
        { package := f.package, services, messages, enums, imports }) ∧
      List.Forall₂ (MessageFollows f) (f.declared.filter Listed.isProper) messages ∧
      List.Forall₂ EnumFollows (f.enums ++ nestedEnums) enums ∧
      nestedEnums.Perm ((f.declared.filter Listed.isProper).flatMap (·.message.enums)) := by
  have hlisted : ∀ l ∈ f.listing, l ∈ f.declared := by
    rw [listing_eq hf]
    exact fun l hl => (List.mem_filter.1 hl).1
  obtain ⟨found, hfound⟩ : ∃ found, extractMessages f.dialect f.locations
      (if f.package.isEmpty then "" else "." ++ f.package) 0 f.messages = .ok found :=
    exists_extractMessages fun l hl => exists_extractFields hf (hlisted l hl)
  obtain ⟨nestedEnums, hperm, hnested⟩ := enumsFollow_extractMessages hfound
  rw [← listing_eq hf]
  refine ⟨found.messages, _, nestedEnums, extractFile_eq imports hfound, ?_, ?_, hperm⟩
  · have hmade := (List.forall₂_and_left _ _).2 ⟨hlisted, madeFrom_extractMessages hfound⟩
    exact hmade.imp fun l m hm => MadeFrom.follows hf hm.1 hm.2
  · exact List.rel_append (enumFollows_extractEnums _ _ _ _) hnested

/-- The entries of a map from texts to values of a type. -/
def entryOf (name : String) (value : FieldDescriptor) : MessageDescriptor :=
  .mk name [{ name := "key", number := 1, kind := .scalar .string }, value] [] [] true

/-- An order with a map of items, which have a map of labels themselves. -/
def orderFile : FileDescriptor where
  package := "shop"
  dialect := "proto3"
  enums := [⟨"Currency", ["EUR"]⟩]
  messages := [
    .mk "Order"
      [{ name := "items", number := 1, kind := .message, typeName := ".shop.Order.ItemsEntry"
         label := .repeated },
       { name := "kind", number := 2, kind := .enumeration, typeName := ".shop.Order.Kind" }]
      [entryOf "ItemsEntry"
         { name := "value", number := 2, kind := .message, typeName := ".shop.Order.Item" },
       .mk "Item"
         [{ name := "labels", number := 1, kind := .message
            typeName := ".shop.Order.Item.LabelsEntry", label := .repeated }]
         [entryOf "LabelsEntry" { name := "value", number := 2, kind := .scalar .string }]
         [⟨"Unit", ["KG"]⟩] false]
      [⟨"Kind", ["GIFT"]⟩] false]

/-- The order is a descriptor as a compiler gives it, and what is extracted from it are the order
and the item, both with a map, and the three enumerations. -/
theorem extractFile_complete_orderFile :
    orderFile.WellFormed ∧
    ((extractFile orderFile []).map fun s =>
      (s.messages.map fun m => (m.name, m.fields.map fun g => (g.typeName, g.mapKeyType)),
        s.enums.map (·.name))) =
      .ok ([("Order", [("Item", some "string"), ("Kind", none)]),
        ("Item", [("string", some "string")])], ["Currency", "Unit", "Kind"]) ∧
    ∃ messages enums nestedEnums,
      extractFile orderFile [] = orderFile.schemaServices.map (fun services =>
        { package := "shop", services, messages, enums, imports := [] }) ∧
      List.Forall₂ (MessageFollows orderFile) (orderFile.declared.filter Listed.isProper)
        messages ∧
      List.Forall₂ EnumFollows (orderFile.enums ++ nestedEnums) enums ∧
      nestedEnums.Perm ((orderFile.declared.filter Listed.isProper).flatMap
        (·.message.enums)) := by
  have hf : orderFile.WellFormed := by
    constructor <;> decide +kernel
  exact ⟨hf, by decide +kernel, extractFile_complete hf []⟩

end TypedFetch.Proto
