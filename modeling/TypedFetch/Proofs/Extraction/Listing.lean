import TypedFetch.Proofs.Attempts
import TypedFetch.Proto.Extract

/-!
# What a descriptor lists

The messages of a descriptor in the order in which extraction meets them: each message before those
nested in it, without the messages that hold map entries.  Where extraction succeeds, the messages
of the schema stand to this listing one to one, and so do the methods to the declared methods.
-/

namespace TypedFetch.Proto

/-! ## Messages -/

/-- A message of a descriptor with the place where it is declared. -/
structure Listed where
  /-- The path of its comments. -/
  path : List Int
  /-- The full name with a point in front. -/
  fullName : String
  /-- The message. -/
  message : MessageDescriptor

/-- The messages for map entries that are declared in the message. -/
def Listed.entries (l : Listed) : List (String × MessageDescriptor) :=
  mapEntries l.fullName l.message.nested

mutual

/-- A message and those nested in it. -/
def listMessage (path : List Int) (scope : String) : MessageDescriptor → List Listed
  | .mk name fields nested enums isMapEntry =>
    ⟨path, scope ++ "." ++ name, .mk name fields nested enums isMapEntry⟩ ::
      listNested (path ++ [pathNumbers.nestedMessages]) (scope ++ "." ++ name) 0 nested

/-- The messages of a list that hold no map entries, with those nested in them. -/
def listNested (path : List Int) (scope : String) (index : Nat) :
    List MessageDescriptor → List Listed
  | [] => []
  | m :: rest =>
    (if m.isMapEntry then [] else listMessage (path ++ [(index : Int)]) scope m) ++
      listNested path scope (index + 1) rest

end

/-- The messages of a list at the top of a file. -/
def listMessages (scope : String) (index : Nat) : List MessageDescriptor → List Listed
  | [] => []
  | m :: rest =>
    listMessage [pathNumbers.messages, (index : Int)] scope m ++
      listMessages scope (index + 1) rest

/-- The messages of a file. -/
def FileDescriptor.listing (f : FileDescriptor) : List Listed :=
  listMessages (if f.package.isEmpty then "" else "." ++ f.package) 0 f.messages

/-- A message of a schema is made from a message of a descriptor. -/
structure MadeFrom (dialect : String) (locations : List Location) (l : Listed)
    (m : Schema.Message) : Prop where
  name : m.name = l.message.name
  fields : extractFields dialect locations l.path l.entries l.message.fields = .ok m.fields
  description : m.description = describe locations l.path

section Messages

variable {dialect : String} {locations : List Location}

lemma exists_of_extractMessage {path : List Int} {scope name : String}
    {fields : List FieldDescriptor} {nested : List MessageDescriptor} {enums : List EnumDescriptor}
    {isMapEntry : Bool} {found : Extracted}
    (h : extractMessage dialect locations path scope (.mk name fields nested enums isMapEntry) =
      .ok found) :
    ∃ own below,
      extractFields dialect locations path (mapEntries (scope ++ "." ++ name) nested) fields =
        .ok own ∧
      extractNested dialect locations (path ++ [pathNumbers.nestedMessages])
        (scope ++ "." ++ name) 0 nested = .ok below ∧
      found = {
        messages :=
          { name, fields := own, description := describe locations path } :: below.messages
        enums := below.enums ++ extractEnums locations path pathNumbers.nestedEnums 0 enums } := by
  rw [extractMessage] at h
  obtain ⟨own, hown, h⟩ := bind_eq_ok h
  obtain ⟨below, hbelow, h⟩ := bind_eq_ok h
  obtain rfl := Except.ok.inj h
  exact ⟨own, below, hown, hbelow, by simp [Extracted.append]⟩

/-- Of the nested messages those that hold map entries are left out. -/
lemma exists_of_extractNested_cons {path : List Int} {scope : String} {index : Nat}
    {m : MessageDescriptor} {rest : List MessageDescriptor} {found : Extracted}
    (h : extractNested dialect locations path scope index (m :: rest) = .ok found) :
    ∃ others, extractNested dialect locations path scope (index + 1) rest = .ok others ∧
      (m.isMapEntry = true ∧ found = others ∨
        m.isMapEntry ≠ true ∧ ∃ first,
          extractMessage dialect locations (path ++ [(index : Int)]) scope m = .ok first ∧
          found = first.append others) := by
  rw [extractNested] at h
  split at h
  · next hentry =>
    rw [pure_bind] at h
    obtain ⟨others, hothers, h⟩ := bind_eq_ok h
    obtain rfl := Except.ok.inj h
    exact ⟨others, hothers, .inl ⟨hentry, rfl⟩⟩
  · next hentry =>
    obtain ⟨first, hfirst, h⟩ := bind_eq_ok h
    obtain ⟨others, hothers, h⟩ := bind_eq_ok h
    exact ⟨others, hothers, .inr ⟨hentry, first, hfirst, (Except.ok.inj h).symm⟩⟩

lemma exists_of_extractMessages_cons {scope : String} {index : Nat} {m : MessageDescriptor}
    {rest : List MessageDescriptor} {found : Extracted}
    (h : extractMessages dialect locations scope index (m :: rest) = .ok found) :
    ∃ first others,
      extractMessage dialect locations [pathNumbers.messages, (index : Int)] scope m =
        .ok first ∧
      extractMessages dialect locations scope (index + 1) rest = .ok others ∧
      found = first.append others := by
  rw [extractMessages] at h
  obtain ⟨first, hfirst, h⟩ := bind_eq_ok h
  obtain ⟨others, hothers, h⟩ := bind_eq_ok h
  exact ⟨first, others, hfirst, hothers, (Except.ok.inj h).symm⟩

mutual

/-- Extraction of a message follows the listing: one case for the message itself, then those
nested in it. -/
lemma madeFrom_extractMessage {path : List Int} {scope : String} :
    ∀ {m : MessageDescriptor} {found : Extracted},
      extractMessage dialect locations path scope m = .ok found →
        List.Forall₂ (MadeFrom dialect locations) (listMessage path scope m) found.messages
  | .mk name fields nested enums isMapEntry, found, h => by
    obtain ⟨own, below, hown, hbelow, rfl⟩ := exists_of_extractMessage h
    rw [listMessage]
    exact .cons ⟨rfl, hown, rfl⟩ (madeFrom_extractNested hbelow)

lemma madeFrom_extractNested {path : List Int} {scope : String} {index : Nat} :
    ∀ {ms : List MessageDescriptor} {found : Extracted},
      extractNested dialect locations path scope index ms = .ok found →
        List.Forall₂ (MadeFrom dialect locations) (listNested path scope index ms) found.messages
  | [], found, h => by
    obtain rfl := Except.ok.inj h
    exact .nil
  | m :: rest, found, h => by
    obtain ⟨others, hothers, ⟨hentry, rfl⟩ | ⟨hentry, first, hfirst, rfl⟩⟩ :=
      exists_of_extractNested_cons h
    · rw [listNested, if_pos hentry]
      exact madeFrom_extractNested hothers
    · rw [listNested, if_neg hentry]
      exact List.rel_append (madeFrom_extractMessage hfirst) (madeFrom_extractNested hothers)

end

lemma madeFrom_extractMessages {scope : String} {index : Nat} {ms : List MessageDescriptor}
    {found : Extracted} (h : extractMessages dialect locations scope index ms = .ok found) :
    List.Forall₂ (MadeFrom dialect locations) (listMessages scope index ms) found.messages := by
  induction ms generalizing index found with
  | nil =>
    obtain rfl := Except.ok.inj h
    exact .nil
  | cons m rest ih =>
    obtain ⟨first, others, hfirst, hothers, rfl⟩ := exists_of_extractMessages_cons h
    exact List.rel_append (madeFrom_extractMessage hfirst) (ih hothers)

end Messages

/-! ## Methods -/

/-- The methods of all services of a file. -/
def FileDescriptor.methods (f : FileDescriptor) : List MethodDescriptor :=
  f.services.flatMap (·.methods)

lemma methods_of_extractService {locations : List Location} {path : List Int}
    {s : ServiceDescriptor} {service : Schema.Service}
    (h : extractService locations path s = .ok service) :
    List.Forall₂ (fun d m => ∃ description, extractMethod description d = .ok m) s.methods
      service.methods := by
  obtain ⟨methods, hmethods, h⟩ := bind_eq_ok h
  obtain rfl := Except.ok.inj h
  refine (forall₂_of_mapM_zipIdx hmethods).imp ?_
  rintro d m ⟨i, hm⟩
  exact ⟨_, hm⟩

/-! ## Files -/

/-- Extraction of a file follows its listing and its methods. -/
theorem listing_of_extractFile {f : FileDescriptor} {imports : List String} {file : Schema.File}
    (h : extractFile f imports = .ok file) :
    List.Forall₂ (MadeFrom f.dialect f.locations) f.listing file.messages ∧
      List.Forall₂ (fun d m => ∃ description, extractMethod description d = .ok m) f.methods
        (file.services.flatMap (·.methods)) := by
  obtain ⟨found, hfound, h⟩ := bind_eq_ok h
  obtain ⟨services, hservices, h⟩ := bind_eq_ok h
  obtain rfl := Except.ok.inj h
  refine ⟨madeFrom_extractMessages hfound, ?_⟩
  refine List.rel_flatMap (forall₂_of_mapM_zipIdx hservices) ?_
  rintro s service ⟨i, hservice⟩
  exact methods_of_extractService hservice

end TypedFetch.Proto
