import Mathlib.Control.Monad.Basic
import Mathlib.Data.List.Induction
import TypedFetch.Proofs.Extraction.Listing
import TypedFetch.Proofs.Extraction.Positions
import TypedFetch.Proofs.Text.Lines

/-!
# Descriptions come from the right comments

The comments of a compiled file are kept apart from its declarations, each with a path.  Whatever is
extracted from a declaration is described by the last comments that say anything and have exactly
the path of this declaration (`LastComment`).  The main statement is `extractFile_describes`: the
messages, enumerations and services of a schema are made from all declarations of the file that are
no part of a map, in the order of their paths, and so are the fields of every message and the
methods of every service; and each has the description of its own path.
-/

namespace TypedFetch.Proto

/-! ## Comments -/

/-- The comments say nothing: both are blank. -/
def Doc.IsSilent (d : Doc) : Prop :=
  Text.isBlankText d.leading.toList = true ∧ Text.isBlankText d.trailing.toList = true

/-- What comments say: the one above the declaration, cleaned, or if it is blank, the one after. -/
inductive Doc.Says (d : Doc) : String → Prop
  | leading {text : String} (h : Text.cleanComment d.leading = some text) : d.Says text
  | trailing {text : String} (hblank : Text.isBlankText d.leading.toList = true)
      (h : Text.cleanComment d.trailing = some text) : d.Says text

lemma Doc.description_eq_none_iff {d : Doc} : d.description = none ↔ d.IsSilent := by
  rw [description, Option.or_eq_none_iff, Text.cleanComment_eq_none_iff,
    Text.cleanComment_eq_none_iff, IsSilent]

lemma Doc.says_of_description {d : Doc} {text : String} (h : d.description = some text) :
    d.Says text := by
  rcases Option.or_eq_some_iff.1 h with hleading | ⟨hblank, htrailing⟩
  · exact .leading hleading
  · exact .trailing (Text.cleanComment_eq_none_iff.1 hblank) htrailing

/-- The description at a path: what the last comments say that have this path and are not silent, or
nothing if there are none. -/
inductive LastComment (path : List Int) : List Location → Option String → Prop
  | absent {locations : List Location} (h : ∀ l ∈ locations, l.path = path → l.doc.IsSilent) :
      LastComment path locations none
  | present {before after : List Location} {l : Location} {text : String} (hpath : l.path = path)
      (hspoken : l.doc.Says text) (hafter : ∀ l' ∈ after, l'.path = path → l'.doc.IsSilent) :
      LastComment path (before ++ l :: after) (some text)

variable {locations : List Location} {path : List Int} {dialect : String}

/-- One more location at the end changes nothing if it says nothing about the path. -/
lemma LastComment.concat {found : Option String} (h : LastComment path locations found)
    {l : Location} (hl : l.path = path → l.doc.IsSilent) :
    LastComment path (locations ++ [l]) found := by
  cases h with
  | absent hsilent =>
    refine .absent fun l' hl' => ?_
    rcases List.mem_append.1 hl' with hl' | hl'
    · exact hsilent l' hl'
    · rwa [List.mem_singleton.1 hl']
  | present hpath hspoken hafter =>
    rw [List.append_assoc, List.cons_append]
    refine .present hpath hspoken fun l' hl' => ?_
    rcases List.mem_append.1 hl' with hl' | hl'
    · exact hafter l' hl'
    · rwa [List.mem_singleton.1 hl']

lemma lastComment_describe (locations : List Location) (path : List Int) :
    LastComment path locations (describe locations path) := by
  induction locations using List.reverseRecOn with
  | nil => exact .absent (by simp)
  | append_singleton locations l ih =>
    rw [describe, List.foldl_concat, ← describe]
    split
    · next hpath =>
      have hpath : l.path = path := by simpa using hpath
      cases hl : l.doc.description with
      | none => exact ih.concat fun _ => Doc.description_eq_none_iff.1 hl
      | some text =>
        exact .present hpath (Doc.says_of_description hl) (by simp)
    · next hpath => exact ih.concat fun h => absurd (by simpa using h) hpath

/-! ## Fields, enumerations and methods -/

section Made

variable (locations path)

/-- A field of a schema is made from a field with a path. -/
structure FieldMade (d : FieldDescriptor) (g : Schema.Field) : Prop where
  name : g.name = d.name
  description : LastComment path locations g.description

/-- An enumeration of a schema is made from an enumeration with a path. -/
structure EnumMade (d : EnumDescriptor) (g : Schema.EnumType) : Prop where
  name : g.name = d.name
  values : g.values = d.values
  description : LastComment path locations g.description

/-- The description that the options of a method give for its operation. -/
def operationDescription? (options : Http.Fields) : Option Value :=
  (Http.findOption options Http.operationExtension).bind (Http.presentValue · "description")

/-- A method of a schema is made from a method with a path.  A description in its options counts
more than the comments. -/
structure MethodMade (d : MethodDescriptor) (g : Schema.Method) : Prop where
  name : g.name = d.name
  description : ∃ options, d.options = .ok options ∧
    (operationDescription? options = none → LastComment path locations g.description) ∧
    ∀ v, operationDescription? options = some v → ∃ text, v = .text text ∧ g.description = some text

/-- A message of a schema is made from a message with a path. -/
structure MessageMade (d : MessageDescriptor) (g : Schema.Message) : Prop where
  name : g.name = d.name
  description : LastComment path locations g.description
  fields : InOrder (fun p => (d.at? (2 :: p)).bind Declaration.field?)
    (fun p => FieldMade locations (path ++ 2 :: p)) g.fields

/-- A service of a schema is made from a service with a path. -/
structure ServiceMade (d : ServiceDescriptor) (g : Schema.Service) : Prop where
  name : g.name = d.name
  description : LastComment path locations g.description
  methods : InOrder (fun p => (d.at? (2 :: p)).bind Declaration.method?)
    (fun p => MethodMade locations (path ++ 2 :: p)) g.methods

end Made

lemma fieldMade_extractField {entries : List (String × MessageDescriptor)} {d : FieldDescriptor}
    {g : Schema.Field}
    (h : extractField dialect entries (describe locations path) d = .ok g) :
    FieldMade locations path d g := by
  have hdescription : g.name = d.name ∧ g.description = describe locations path := by
    unfold extractField at h
    dsimp only at h
    split at h
    · split at h
      · obtain ⟨number, -, rfl⟩ := map_eq_ok h
        exact ⟨rfl, rfl⟩
      · cases h
    · obtain ⟨number, -, rfl⟩ := map_eq_ok h
      exact ⟨rfl, rfl⟩
  exact ⟨hdescription.1, hdescription.2 ▸ lastComment_describe locations path⟩

lemma enumMade_extractEnum (d : EnumDescriptor) :
    EnumMade locations path d (extractEnum locations path d) :=
  ⟨rfl, rfl, lastComment_describe locations path⟩

lemma resolveOperation_description {options : Http.Fields} {operation : Http.Operation}
    (h : Http.resolveOperation options = .ok operation) :
    operation.description = operationDescription? options := by
  unfold Http.resolveOperation at h
  unfold operationDescription?
  split at h
  · next hnone =>
    obtain rfl := Except.ok.inj h
    rw [hnone]
    rfl
  · next found hfound =>
    obtain ⟨tags, -, rfl⟩ := map_eq_ok h
    rw [hfound]
    rfl

/-- Two checks together pass if both do. -/
lemma map_seq_eq_ok {α β γ : Type} {f : α → β → γ} {x : Check α} {y : Check β} {c : γ}
    (h : f <$> x <*> y = .ok c) : ∃ a b, x = .ok a ∧ y = .ok b ∧ f a b = c := by
  cases x with
  | error issues => cases y <;> cases h
  | ok a =>
    cases y with
    | error issues => cases h
    | ok b => exact ⟨a, b, rfl, rfl, Except.ok.inj h⟩

/-- A text that passed its check was given as a text. -/
lemma textOf_eq_ok {key : String} {v : Option Value} {found : Option String}
    (h : textOf key v = .ok found) :
    (v = none ∧ found = none) ∨ ∃ text, v = some (.text text) ∧ found = some text := by
  cases v with
  | none => exact .inl ⟨rfl, (Except.ok.inj h).symm⟩
  | some v =>
    cases v with
    | text s => exact .inr ⟨s, rfl, (Except.ok.inj h).symm⟩
    | _ => cases h

lemma methodMade_extractMethod {d : MethodDescriptor} {g : Schema.Method}
    (h : extractMethod (describe locations path) d = .ok g) : MethodMade locations path d g := by
  obtain ⟨options, hoptions, h⟩ := bind_eq_ok h
  obtain ⟨operation, hoperation, h⟩ := bind_eq_ok h
  have hoptions := mapError_eq_ok hoptions
  have hfrom := resolveOperation_description (mapError_eq_ok hoperation)
  obtain ⟨hname, hdescription⟩ : g.name = d.name ∧
      textOf "description" (operation.description.or ((describe locations path).map Value.text)) =
        .ok g.description := by
    dsimp only at h
    split at h
    · next method hmethod =>
      obtain rfl := Except.ok.inj h
      obtain ⟨description, summary, hdescription, -, rfl⟩ := map_seq_eq_ok hmethod
      exact ⟨rfl, hdescription⟩
    · cases h
  -- the description of the operation counts, and the comment only where there is none
  refine ⟨hname, options, hoptions, fun hnone => ?_, fun v hv => ?_⟩
  · rw [hfrom, hnone, Option.none_or] at hdescription
    have hdescribe := lastComment_describe locations path
    rcases textOf_eq_ok hdescription with ⟨habsent, hfound⟩ | ⟨text, htext, hfound⟩
    · rw [Option.map_eq_none_iff] at habsent
      rwa [hfound, ← habsent]
    · obtain ⟨text', htext', heq⟩ := Option.map_eq_some_iff.1 htext
      obtain rfl := Value.text.inj heq
      rwa [hfound, ← htext']
  · rw [hfrom, hv, Option.some_or] at hdescription
    rcases textOf_eq_ok hdescription with ⟨habsent, -⟩ | ⟨text, htext, hfound⟩
    · cases habsent
    · exact ⟨text, Option.some.inj htext, hfound⟩

/-! ## What a path shows of each kind -/

section Views

variable (m : MessageDescriptor) (p : List Int)

/-- What is at the positions of a list, as far as it is of a kind. -/
lemma among_leaf_bind {α δ : Type} (declaration : α → Declaration) (kind : Declaration → Option δ)
    (first : Int) (items : List α) :
    (among (leaf declaration) first items p).bind kind =
      (among (leaf id) first items p).bind (kind ∘ declaration) := by
  rw [among_bind, among_bind]
  congr 1
  funext item rest
  cases rest <;> rfl

lemma among_none {α δ : Type} (first : Int) (items : List α) :
    among (fun _ _ => (none : Option δ)) first items p = none := by
  cases p with
  | nil => rfl
  | cons i rest => exact Option.bind_fun_none _

/-- The fields of a message are in its list 2. -/
lemma field?_at? : (m.at? (2 :: p)).bind Declaration.field? = among (leaf id) 0 m.fields p := by
  rw [m.at?_cons, if_pos rfl, among_leaf_bind]
  exact Option.bind_fun_some _

/-- The messages at paths in a message are the message itself and those in its list 3. -/
lemma message?_at? : (m.at? p).bind Declaration.message? =
    (if p = [] then some m else none).or (InOrder.under 3
      (fun q => (among MessageDescriptor.nestedAt? 0 m.nested q).bind Declaration.message?) p) := by
  cases p with
  | nil => rfl
  | cons list q =>
    rw [m.at?_cons, InOrder.under]
    by_cases h2 : list = 2
    · rw [if_pos h2, among_leaf_bind, if_neg (by simp), if_neg (by omega)]
      exact Option.bind_fun_none _
    by_cases h3 : list = 3
    · rw [if_neg h2, if_pos h3, if_neg (by simp), if_pos h3, Option.none_or]
    by_cases h4 : list = 4
    · rw [if_neg h2, if_neg h3, if_pos h4, among_leaf_bind, if_neg (by simp), if_neg h3]
      exact Option.bind_fun_none _
    · simp [h2, h3, h4]

/-- The enumerations at paths in a message are those in its lists 3 and 4. -/
lemma enum?_at? : (m.at? p).bind Declaration.enum? =
    (InOrder.under 3
      (fun q => (among MessageDescriptor.nestedAt? 0 m.nested q).bind Declaration.enum?) p).or
    (InOrder.under 4 (among (leaf id) 0 m.enums) p) := by
  cases p with
  | nil => rfl
  | cons list q =>
    rw [m.at?_cons, InOrder.under, InOrder.under]
    by_cases h2 : list = 2
    · rw [if_pos h2, among_leaf_bind, if_neg (by omega), if_neg (by omega)]
      exact Option.bind_fun_none _
    by_cases h3 : list = 3
    · rw [if_neg h2, if_pos h3, if_pos h3, if_neg (by omega), Option.or_none]
    by_cases h4 : list = 4
    · rw [if_neg h2, if_neg h3, if_pos h4, among_leaf_bind, if_neg h3, if_pos h4, Option.none_or]
      exact Option.bind_fun_some _
    · simp [h2, h3, h4]

end Views

/-! ## Messages -/

lemma fieldsMade_extractFields {d : MessageDescriptor}
    {entries : List (String × MessageDescriptor)} {gs : List Schema.Field}
    (h : extractFields dialect locations path entries d.fields = .ok gs) :
    InOrder (fun p => (d.at? (2 :: p)).bind Declaration.field?)
      (fun p => FieldMade locations (path ++ 2 :: p)) gs := by
  have hmade := (forall₂_of_mapM h).imp fun _ _ hg => fieldMade_extractField hg
  have hleaves : InOrder (among (leaf id) 0 d.fields)
      (fun p => FieldMade locations (path ++ 2 :: p)) gs := InOrder.leaves hmade
  exact hleaves.congr (field?_at? d)

lemma enumsMade_extractEnums (list : Int) (enums : List EnumDescriptor) :
    InOrder (among (leaf id) 0 enums) (fun p => EnumMade locations (path ++ list :: p))
      (extractEnums locations path list 0 enums) := by
  have hmade : List.Forall₂
      (fun e g => EnumMade locations (path ++ list :: [(e.2 : Int)]) (id e.1) g) (enums.zipIdx 0)
      (extractEnums locations path list 0 enums) := by
    rw [extractEnums, List.forall₂_map_right_iff, List.forall₂_same]
    exact fun e _ => enumMade_extractEnum e.1
  exact InOrder.leaves hmade

mutual

/-- The messages and enumerations that are extracted from a message: first the message itself, then
what is nested in it, then its own enumerations. -/
lemma made_extractMessage {scope : String} :
    ∀ {path : List Int} {m : MessageDescriptor} {found : Extracted},
      extractMessage dialect locations path scope m = .ok found →
        InOrder (fun p => (m.at? p).bind Declaration.message?)
          (fun p => MessageMade locations (path ++ p)) found.messages ∧
        InOrder (fun p => (m.at? p).bind Declaration.enum?)
          (fun p => EnumMade locations (path ++ p)) found.enums
  | path, .mk name fields nested enums isMapEntry, found, h => by
    obtain ⟨own, below, hown, hbelow, rfl⟩ := exists_of_extractMessage h
    obtain ⟨hmessages, henums⟩ := made_extractNested hbelow
    have hself : InOrder
        (fun p => if p = [] then some (.mk name fields nested enums isMapEntry) else none)
        (fun p => MessageMade locations (path ++ p))
        [{ name, fields := own, description := describe locations path }] := by
      refine .single (fun _ => rfl) ?_
      rw [List.append_nil]
      exact ⟨rfl, lastComment_describe locations path, fieldsMade_extractFields hown⟩
    simp only [pathNumbers, List.append_assoc, List.cons_append,
      List.nil_append] at hmessages henums
    constructor
    · have hbelow : InOrder (InOrder.under 3 _) (fun p => MessageMade locations (path ++ p))
          below.messages := InOrder.under_of 3 hmessages
      refine .append (message?_at? _) (fun p q hp hq => ?_) hself hbelow
      obtain ⟨rest, rfl⟩ := InOrder.exists_of_isSome_under hq
      obtain rfl : p = [] := by
        by_contra hne
        simp [hne] at hp
      exact List.nil_lt_cons _ _
    · have hbelow : InOrder (InOrder.under 3 _) (fun p => EnumMade locations (path ++ p))
          below.enums := InOrder.under_of 3 henums
      have hown : InOrder (InOrder.under 4 _) (fun p => EnumMade locations (path ++ p))
          (extractEnums locations path 4 0 enums) :=
        InOrder.under_of 4 (enumsMade_extractEnums 4 enums)
      refine .append (enum?_at? _) (fun p q hp hq => ?_) hbelow hown
      obtain ⟨rest, rfl⟩ := InOrder.exists_of_isSome_under hp
      obtain ⟨rest', rfl⟩ := InOrder.exists_of_isSome_under hq
      exact List.cons_lt_cons_iff.2 (.inl (by decide))

lemma made_extractNested {scope : String} :
    ∀ {path : List Int} {index : Nat} {ms : List MessageDescriptor} {found : Extracted},
      extractNested dialect locations path scope index ms = .ok found →
        InOrder (fun p => (among MessageDescriptor.nestedAt? index ms p).bind Declaration.message?)
          (fun p => MessageMade locations (path ++ p)) found.messages ∧
        InOrder (fun p => (among MessageDescriptor.nestedAt? index ms p).bind Declaration.enum?)
          (fun p => EnumMade locations (path ++ p)) found.enums
  | path, index, [], found, h => by
    obtain rfl := Except.ok.inj h
    simp only [among_bind]
    exact ⟨.among_nil, .among_nil⟩
  | path, index, m :: rest, found, h => by
    simp only [among_bind]
    obtain ⟨others, hothers, ⟨hentry, rfl⟩ | ⟨hentry, first, hfirst, rfl⟩⟩ :=
      exists_of_extractNested_cons h
    · obtain ⟨hmessages, henums⟩ := made_extractNested hothers
      simp only [among_bind] at hmessages henums
      have hnone : ∀ p, m.nestedAt? p = none := fun p => if_pos hentry
      exact ⟨.cons (.empty fun p => by rw [hnone]; rfl) hmessages,
        .cons (.empty fun p => by rw [hnone]; rfl) henums⟩
    · obtain ⟨hmessages, henums⟩ := made_extractNested hothers
      obtain ⟨hmessages', henums'⟩ := made_extractMessage hfirst
      simp only [among_bind, List.append_assoc, List.cons_append, List.nil_append]
        at hmessages henums hmessages' henums'
      have hat : ∀ p, m.nestedAt? p = m.at? p := fun p => if_neg hentry
      exact ⟨.cons (hmessages'.congr fun p => by rw [hat]) hmessages,
        .cons (henums'.congr fun p => by rw [hat]) henums⟩

end

lemma made_extractMessages {scope : String} {ms : List MessageDescriptor} :
    ∀ {index : Nat} {found : Extracted},
      extractMessages dialect locations scope index ms = .ok found →
        InOrder (fun p => (among MessageDescriptor.at? index ms p).bind Declaration.message?)
          (fun p => MessageMade locations (4 :: p)) found.messages ∧
        InOrder (fun p => (among MessageDescriptor.at? index ms p).bind Declaration.enum?)
          (fun p => EnumMade locations (4 :: p)) found.enums := by
  induction ms with
  | nil =>
    intro index found h
    obtain rfl := Except.ok.inj h
    simp only [among_bind]
    exact ⟨.among_nil, .among_nil⟩
  | cons m rest ih =>
    intro index found h
    obtain ⟨first, others, hfirst, hothers, rfl⟩ := exists_of_extractMessages_cons h
    obtain ⟨hmessages, henums⟩ := made_extractMessage hfirst
    obtain ⟨hmessages', henums'⟩ := ih hothers
    simp only [among_bind] at hmessages' henums' ⊢
    exact ⟨.cons hmessages hmessages', .cons henums henums'⟩

/-! ## Services and files -/

lemma serviceMade_extractService {d : ServiceDescriptor} {g : Schema.Service}
    (h : extractService locations path d = .ok g) : ServiceMade locations path d g := by
  obtain ⟨methods, hmethods, h⟩ := bind_eq_ok h
  obtain rfl := Except.ok.inj h
  have hmade := (forall₂_of_mapM hmethods).imp fun _ _ hg => methodMade_extractMethod hg
  have hleaves : InOrder (among (leaf id) 0 d.methods)
      (fun p => MethodMade locations (path ++ 2 :: p)) methods := InOrder.leaves hmade
  refine ⟨rfl, lastComment_describe locations path, hleaves.congr fun p => ?_⟩
  rw [ServiceDescriptor.at?, if_pos rfl, among_leaf_bind]
  exact Option.bind_fun_some _

section Views

variable (f : FileDescriptor) (p : List Int)

/-- No service is declared in a message. -/
lemma MessageDescriptor.service?_at? (m : MessageDescriptor) :
    (m.at? p).bind Declaration.service? = none := by
  fun_induction MessageDescriptor.at? m p with
  | case1 | case2 | case6 => rfl
  | case3 m i rest | case5 m i rest =>
    rw [among_leaf_bind]
    exact Option.bind_fun_none _
  | case4 m i rest _ ih =>
    rw [Option.bind_assoc, Option.bind_eq_none_iff]
    intro n _
    split
    · rfl
    · exact ih n

/-- No message is declared in a service. -/
lemma ServiceDescriptor.message?_at? (s : ServiceDescriptor) :
    (s.at? p).bind Declaration.message? = none := by
  cases p with
  | nil => rfl
  | cons list q =>
    rw [at?]
    split
    · rw [among_leaf_bind]
      exact Option.bind_fun_none _
    · rfl

/-- The only service in a service is itself. -/
lemma ServiceDescriptor.service?_at? (s : ServiceDescriptor) :
    (s.at? p).bind Declaration.service? = leaf id s p := by
  cases p with
  | nil => rfl
  | cons list q =>
    rw [at?]
    split
    · rw [among_leaf_bind]
      exact Option.bind_fun_none _
    · rfl

/-- All messages of a file are in its list 4. -/
lemma FileDescriptor.message?_at? : (f.at? p).bind Declaration.message? =
    InOrder.under 4
      (fun q => (among MessageDescriptor.at? 0 f.messages q).bind Declaration.message?) p := by
  cases p with
  | nil => rfl
  | cons list q =>
    rw [at?, InOrder.under]
    split
    · rfl
    split
    · rw [among_leaf_bind]
      exact Option.bind_fun_none _
    split
    · rw [among_bind]
      simp only [ServiceDescriptor.message?_at?, among_none]
    · rfl

/-- All services of a file are in its list 6, with nothing but methods in them. -/
lemma FileDescriptor.service?_at? : (f.at? p).bind Declaration.service? =
    InOrder.under 6 (among (leaf id) 0 f.services) p := by
  cases p with
  | nil => rfl
  | cons list q =>
    rw [at?, InOrder.under]
    split
    · next h4 =>
      rw [if_neg (by omega), among_bind]
      simp only [MessageDescriptor.service?_at?, among_none]
    split
    · next h5 =>
      rw [if_neg (by omega), among_leaf_bind]
      exact Option.bind_fun_none _
    split
    · rw [among_bind]
      simp only [ServiceDescriptor.service?_at?]
    · rfl

end Views

/-- **Descriptions.**  The messages, enumerations and services of a schema are made from all that a
file declares, in the order of the paths, and each is described by the last comments that are not
silent and have its path.  The enumerations of the file stand before those that are declared in
messages. -/
theorem extractFile_describes {f : FileDescriptor} {imports : List String} {file : Schema.File}
    (h : extractFile f imports = .ok file) :
    InOrder (fun p => (f.at? p).bind Declaration.message?) (MessageMade f.locations)
      file.messages ∧
    (∃ own nested, file.enums = own ++ nested ∧
      InOrder (fun p => (f.at? (5 :: p)).bind Declaration.enum?)
        (fun p => EnumMade f.locations (5 :: p)) own ∧
      InOrder (fun p => (f.at? (4 :: p)).bind Declaration.enum?)
        (fun p => EnumMade f.locations (4 :: p)) nested) ∧
    InOrder (fun p => (f.at? p).bind Declaration.service?) (ServiceMade f.locations)
      file.services := by
  obtain ⟨found, hfound, h⟩ := bind_eq_ok h
  obtain ⟨services, hservices, h⟩ := bind_eq_ok h
  obtain rfl := Except.ok.inj h
  obtain ⟨hmessages, henums⟩ := made_extractMessages hfound
  refine ⟨?_, ⟨_, found.enums, rfl, ?_, henums⟩, ?_⟩
  · exact (InOrder.under_of 4 hmessages).congr f.message?_at?
  · have hown : InOrder (among (leaf id) 0 f.enums) (fun p => EnumMade f.locations ([] ++ 5 :: p))
        (extractEnums f.locations [] 5 0 f.enums) := enumsMade_extractEnums 5 f.enums
    refine hown.congr fun p => ?_
    rw [FileDescriptor.at?, if_neg (by decide), if_pos rfl, among_leaf_bind]
    exact Option.bind_fun_some _
  · have hmade := (forall₂_of_mapM hservices).imp fun _ _ hg => serviceMade_extractService hg
    have hleaves : InOrder (among (leaf id) 0 f.services)
        (fun p => ServiceMade f.locations (6 :: p)) services := InOrder.leaves hmade
    exact (InOrder.under_of 6 hleaves).congr f.service?_at?

/-- A parcel with a map of labels, whose entries are the message at position 0 in the parcel, and an
address behind it.  The comments of the labels and of the address are given twice, and the parcel
has only a blank comment above it. -/
def parcelFile : FileDescriptor where
  package := "post"
  dialect := "proto3"
  messages := [
    .mk "Parcel"
      [{ name := "labels", number := 1, kind := .message, label := .repeated
         typeName := ".post.Parcel.LabelsEntry" }]
      [.mk "LabelsEntry"
        [{ name := "key", number := 1, kind := .scalar .string },
         { name := "value", number := 2, kind := .scalar .string }] [] [] true,
       .mk "Address" [{ name := "town", number := 1, kind := .scalar .string }] []
         [⟨"Kind", ["HOME"]⟩] false] [] false]
  enums := [⟨"Speed", ["FAST"]⟩]
  services := [{
    name := "Post"
    methods := [
      { name := "Send", input := ".post.Parcel", output := ".post.Parcel" },
      { name := "Find", input := ".post.Parcel", output := ".post.Parcel"
        options := .ok [("[" ++ Http.operationExtension ++ "]",
          .map [(.text "description", .text "Finds a parcel")])] }] }]
  locations := [
    ⟨[4, 0], { leading := " \n", trailing := " What is sent.\n" }⟩,
    ⟨[4, 0, 3, 0], { leading := "The entries" }⟩,
    ⟨[4, 0, 3, 1], { leading := "An old comment" }⟩,
    ⟨[4, 0, 3, 1], { leading := " Where it goes,\n\n  house and town. \n" }⟩,
    ⟨[4, 0, 2, 0], { leading := "Stickers" }⟩,
    ⟨[4, 0, 2, 0], { leading := "" }⟩,
    ⟨[4, 0, 3, 1, 4, 0], { leading := "Whose it is" }⟩,
    ⟨[6, 0, 2, 0], { leading := "Sends a parcel" }⟩,
    ⟨[6, 0, 2, 1], { leading := "Looks around" }⟩]

/-- The descriptions in a file: of each message and its fields, of the enumerations, and of each
service and its methods. -/
def descriptions (file : Schema.File) : List (Option String) :=
  file.messages.flatMap (fun m => m.description :: m.fields.map (·.description)) ++
    file.enums.map (·.description) ++
    file.services.flatMap (fun s => s.description :: s.methods.map (·.description))

/-- The address has its own comments, and not those of the entries in front of it. -/
theorem extractFile_describes_parcelFile :
    ∃ file, extractFile parcelFile [] = .ok file ∧
      descriptions file = [some "What is sent.", some "Stickers",
        some "Where it goes,\nhouse and town.", none, none, some "Whose it is", none,
        some "Sends a parcel", some "Finds a parcel"] ∧
      InOrder (fun p => (parcelFile.at? p).bind Declaration.message?)
        (MessageMade parcelFile.locations) file.messages ∧
      (∃ own nested, file.enums = own ++ nested ∧
        InOrder (fun p => (parcelFile.at? (5 :: p)).bind Declaration.enum?)
          (fun p => EnumMade parcelFile.locations (5 :: p)) own ∧
        InOrder (fun p => (parcelFile.at? (4 :: p)).bind Declaration.enum?)
          (fun p => EnumMade parcelFile.locations (4 :: p)) nested) ∧
      InOrder (fun p => (parcelFile.at? p).bind Declaration.service?)
        (ServiceMade parcelFile.locations) file.services := by
  have hrun : (extractFile parcelFile []).map descriptions = .ok [some "What is sent.",
      some "Stickers", some "Where it goes,\nhouse and town.", none, none, some "Whose it is",
      none, some "Sends a parcel", some "Finds a parcel"] := by
    decide +kernel
  obtain ⟨file, hfile, hdescriptions⟩ := map_eq_ok hrun
  exact ⟨file, hfile, hdescriptions, extractFile_describes hfile⟩

end TypedFetch.Proto
