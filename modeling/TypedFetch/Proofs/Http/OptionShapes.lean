import Mathlib.Data.List.Basic
import Mathlib.Data.List.Infix
import TypedFetch.Http.Binding

/-!
# The shapes of an extension

An extension is present in the options of a method as one entry that holds its rule, under one of
three names, or spread over one entry for each entry of the rule.  The three names are tried one
after the other and the spread shape last, so an empty rule under one of the names lets the search
go on.  It finds nothing further: no name of an extension starts like the key of a spread entry, and
no key of a spread entry is one of the names.  So every shape gives the rule, or nothing if the rule
is empty, whatever unrelated options stand around it.

The main statement is `shapes_agree`.
-/

namespace TypedFetch.Http

/-! ## Shapes -/

/-- How an extension is present in the options of a method. -/
inductive Shape where
  /-- One entry under the name in square brackets. -/
  | bracketed
  /-- One entry under the name in parentheses. -/
  | parenthesized
  /-- One entry under the name alone. -/
  | bare
  /-- One entry for every entry of the rule. -/
  | spread
deriving DecidableEq

/-- The names under which an extension is one entry. -/
def spellings (extension : String) : List String :=
  ["[" ++ extension ++ "]", "(" ++ extension ++ ")", extension]

/-- How the keys of a spread extension start. -/
def spreadHead (extension : String) : String := "(" ++ extension ++ ")."

/-- The value is a mapping with the entries of a rule. -/
def Holds (value : Value) (rule : Fields) : Prop :=
  value.entries? = some (rule.map fun e => (.text e.1, e.2))

/-- The entries of an extension in a shape. -/
def Shape.entries (extension : String) (value : Value) (rule : Fields) : Shape → Fields
  | bracketed => [("[" ++ extension ++ "]", value)]
  | parenthesized => [("(" ++ extension ++ ")", value)]
  | bare => [(extension, value)]
  | spread => rule.map fun e => (spreadHead extension ++ e.1, e.2)

/-- A key that has nothing to do with an extension. -/
structure Unrelated (extension key : String) : Prop where
  named : key ∉ spellings extension
  headed : ¬ (spreadHead extension).toList <+: key.toList

/-! ## Unrelated options -/

section Unrelated

variable {extension : String} {before middle after : Fields}

lemma lookup_eq_none_of_unrelated (h : ∀ e ∈ middle, Unrelated extension e.1) {key : String}
    (hkey : key ∈ spellings extension) : middle.lookup key = none := by
  rw [List.lookup_eq_none_iff]
  intro e he
  have hne : key ≠ e.1 := by
    rintro rfl
    exact (h e he).named hkey
  simpa using hne

lemma nestedUnder_drop (h : ∀ e ∈ middle, Unrelated extension e.1) {key : String}
    (hkey : key ∈ spellings extension) :
    nestedUnder (before ++ middle ++ after) key = nestedUnder (before ++ after) key := by
  simp only [nestedUnder, List.lookup_append, lookup_eq_none_of_unrelated h hkey, Option.or_none]

lemma nestedOption_eq (options : Fields) (extension : String) :
    nestedOption options extension = (spellings extension).findSome? (nestedUnder options) := rfl

/-- Only what is under the names of an extension matters to its one-entry shapes. -/
lemma nestedOption_congr {options options' : Fields}
    (h : ∀ key ∈ spellings extension, nestedUnder options key = nestedUnder options' key) :
    nestedOption options extension = nestedOption options' extension := by
  simp only [spellings, List.forall_mem_cons] at h
  obtain ⟨hbracketed, hparenthesized, hbare, -⟩ := h
  simp only [nestedOption, List.findSome?_cons, List.findSome?_nil, hbracketed, hparenthesized,
    hbare]

/-- What an entry gives to the spread shape. -/
def spreadField? (extension : String) (e : String × Value) : Option (String × Value) :=
  (Text.dropPrefix? (spreadHead extension).toList e.1.toList).map fun rest =>
    (String.ofList rest, e.2)

lemma flattenedOption_eq (options : Fields) (extension : String) :
    flattenedOption options extension =
      let found := options.filterMap (spreadField? extension)
      if found.isEmpty then none else some found := rfl

lemma spreadField?_of_not_headed {e : String × Value}
    (h : ¬ (spreadHead extension).toList <+: e.1.toList) : spreadField? extension e = none := by
  simp [spreadField?, Text.dropPrefix?, h]

lemma spreadField?_spreadHead (extension key : String) (v : Value) :
    spreadField? extension (spreadHead extension ++ key, v) = some (key, v) := by
  simp [spreadField?, Text.dropPrefix?]

lemma filterMap_spreadField?_of_unrelated (h : ∀ e ∈ middle, Unrelated extension e.1) :
    middle.filterMap (spreadField? extension) = [] := by
  rw [List.filterMap_eq_nil_iff]
  exact fun e he => spreadField?_of_not_headed (h e he).headed

/-- Unrelated options do not matter, wherever they stand. -/
lemma findOption_drop (before after : Fields) (h : ∀ e ∈ middle, Unrelated extension e.1) :
    findOption (before ++ middle ++ after) extension = findOption (before ++ after) extension := by
  have hnested : nestedOption (before ++ middle ++ after) extension =
      nestedOption (before ++ after) extension :=
    nestedOption_congr fun key hkey => nestedUnder_drop h hkey
  have hspread : (before ++ middle ++ after).filterMap (spreadField? extension) =
      (before ++ after).filterMap (spreadField? extension) := by
    simp only [List.filterMap_append, filterMap_spreadField?_of_unrelated h, List.append_nil]
  rw [findOption, findOption, hnested, flattenedOption_eq, flattenedOption_eq, hspread]

/-- Of options around which all are unrelated, only those in between matter. -/
lemma findOption_between {options : Fields} (h : ∀ e ∈ before ++ after, Unrelated extension e.1) :
    findOption (before ++ options ++ after) extension = findOption options extension := by
  have hbefore := findOption_drop [] (options ++ after) fun e he =>
    h e (List.mem_append_left _ he)
  have hafter := findOption_drop options [] fun e he =>
    h e (List.mem_append_right before he)
  simp only [List.nil_append, List.append_nil, ← List.append_assoc] at hbefore hafter
  exact hbefore.trans hafter

end Unrelated

/-! ## One shape alone -/

section Shapes

variable {extension : String} {value : Value} {rule : Fields}

lemma fieldsOf_text (rule : Fields) : fieldsOf (rule.map fun e => (.text e.1, e.2)) = rule := by
  simp [fieldsOf, List.filterMap_map]

/-- The entries of a rule, if it has any. -/
def present? (rule : Fields) : Option Fields := if rule.isEmpty then none else some rule

/-- One entry that holds a rule gives the rule under its own key and nothing under another one. -/
lemma nestedUnder_single (hvalue : Holds value rule) (name key : String) :
    nestedUnder [(name, value)] key = if key = name then present? rule else none := by
  by_cases hkey : key = name
  · subst hkey
    have hlookup : ([(key, value)] : Fields).lookup key = some value := by simp
    rw [nestedUnder, hlookup, Option.bind_some, hvalue, if_pos rfl]
    cases rule with
    | nil => rfl
    | cons e rest => simpa [present?] using fieldsOf_text (e :: rest)
  · have hlookup : ([(name, value)] : Fields).lookup key = none := by
      rw [List.lookup_cons, beq_false_of_ne hkey]
      rfl
    rw [nestedUnder, hlookup, if_neg hkey]
    rfl

/-- A search that can find the same thing only, and only at one place, finds it if that place is
among those searched. -/
lemma findSome?_ite {α β : Type} [DecidableEq α] {xs : List α} {x : α} (hx : x ∈ xs)
    (found : Option β) : xs.findSome? (fun y => if y = x then found else none) = found := by
  induction xs with
  | nil => exact absurd hx (by simp)
  | cons y ys ih =>
    rw [List.findSome?_cons]
    by_cases hy : y = x
    · rw [if_pos hy]
      cases found with
      | some b => rfl
      | none => simp
    · rw [if_neg hy]
      exact ih ((List.mem_cons.1 hx).resolve_left (Ne.symm hy))

/-- The key of a spread entry is longer than every name of the extension. -/
lemma length_spelling_lt {name : String} (h : name ∈ spellings extension) :
    name.toList.length < (spreadHead extension).toList.length := by
  simp only [spellings, List.mem_cons, List.not_mem_nil, or_false] at h
  have hhead : (spreadHead extension).toList.length = extension.toList.length + 3 := by
    simp [spreadHead]
  rcases h with rfl | rfl | rfl
  · simp [hhead]
  · simp [hhead]
  · omega

/-- A name of the extension does not start like the key of a spread entry. -/
lemma not_headed_spelling {name : String} (h : name ∈ spellings extension) :
    ¬ (spreadHead extension).toList <+: name.toList :=
  fun hprefix => absurd hprefix.length_le (Nat.not_le.2 (length_spelling_lt h))

/-- The key of a spread entry is no name of the extension. -/
lemma spread_not_mem_spellings (extension key : String) :
    spreadHead extension ++ key ∉ spellings extension := by
  intro h
  have hlength := length_spelling_lt h
  rw [String.toList_append, List.length_append] at hlength
  omega

lemma findOption_single (hvalue : Holds value rule) {name : String}
    (hname : name ∈ spellings extension) :
    findOption [(name, value)] extension = present? rule := by
  have hnested : nestedOption [(name, value)] extension = present? rule := by
    rw [nestedOption_eq, funext (nestedUnder_single hvalue name)]
    exact findSome?_ite hname _
  have hspread : flattenedOption [(name, value)] extension = none := by
    have hnone : spreadField? extension (name, value) = none :=
      spreadField?_of_not_headed (not_headed_spelling hname)
    rw [flattenedOption_eq, List.filterMap_cons_none hnone]
    rfl
  rw [findOption, hnested, hspread, Option.or_none]

lemma findOption_spread (extension : String) (value : Value) (rule : Fields) :
    findOption (Shape.spread.entries extension value rule) extension = present? rule := by
  have hnested : nestedOption (Shape.spread.entries extension value rule) extension = none := by
    rw [nestedOption_eq, List.findSome?_eq_none_iff]
    intro key hkey
    have hlookup : (Shape.spread.entries extension value rule).lookup key = none := by
      rw [List.lookup_eq_none_iff]
      intro e he
      obtain ⟨entry, -, rfl⟩ := List.mem_map.1 he
      have hne : key ≠ spreadHead extension ++ entry.1 := by
        rintro rfl
        exact spread_not_mem_spellings extension entry.1 hkey
      simpa using hne
    rw [nestedUnder, hlookup]
    rfl
  have hfound : (Shape.spread.entries extension value rule).filterMap (spreadField? extension) =
      rule := by
    rw [Shape.entries, List.filterMap_map]
    simp only [Function.comp_def, spreadField?_spreadHead]
    exact List.filterMap_some
  rw [findOption, hnested, flattenedOption_eq, hfound, Option.none_or]
  rfl

/-- Every shape of an extension gives its rule. -/
lemma findOption_entries (hvalue : Holds value rule) (shape : Shape) :
    findOption (shape.entries extension value rule) extension = present? rule := by
  cases shape with
  | bracketed => exact findOption_single hvalue (by simp [spellings])
  | parenthesized => exact findOption_single hvalue (by simp [spellings])
  | bare => exact findOption_single hvalue (by simp [spellings])
  | spread => exact findOption_spread extension value rule

end Shapes

/-! ## Two extensions -/

/-- Neither of two extensions is mistaken for the other. -/
structure Separate (extension other : String) : Prop where
  names : ∀ name ∈ spellings extension, Unrelated other name
  starts : ∀ name ∈ spellings other, ¬ (spreadHead extension).toList <+: name.toList
  heads : ¬ (spreadHead extension).toList <+: (spreadHead other).toList ∧
    ¬ (spreadHead other).toList <+: (spreadHead extension).toList

/-- The entries of an extension have nothing to do with another one. -/
lemma Separate.unrelated {extension other : String} (h : Separate extension other) (value : Value)
    (rule : Fields) (shape : Shape) :
    ∀ e ∈ shape.entries extension value rule, Unrelated other e.1 := by
  intro e he
  cases shape with
  | bracketed =>
    obtain rfl := List.mem_singleton.1 he
    exact h.names _ (by simp [spellings])
  | parenthesized =>
    obtain rfl := List.mem_singleton.1 he
    exact h.names _ (by simp [spellings])
  | bare =>
    obtain rfl := List.mem_singleton.1 he
    exact h.names _ (by simp [spellings])
  | spread =>
    obtain ⟨entry, -, rfl⟩ := List.mem_map.1 he
    have hhead : (spreadHead extension).toList <+: (spreadHead extension ++ entry.1).toList := by
      rw [String.toList_append]
      exact List.prefix_append _ _
    refine ⟨fun hname => h.starts _ hname hhead, fun hother => ?_⟩
    rcases List.prefix_or_prefix_of_prefix hhead hother with hle | hle
    · exact h.heads.1 hle
    · exact h.heads.2 hle

/-- The two extensions that are looked for. -/
def knownExtensions : List String := [httpExtension, operationExtension]

instance (extension key : String) : Decidable (Unrelated extension key) :=
  decidable_of_iff (key ∉ spellings extension ∧ ¬ (spreadHead extension).toList <+: key.toList)
    ⟨fun h => ⟨h.1, h.2⟩, fun h => ⟨h.1, h.2⟩⟩

lemma separate_of_known {extension other : String} (h : extension ∈ knownExtensions)
    (hother : other ∈ knownExtensions) (hne : extension ≠ other) : Separate extension other := by
  simp only [knownExtensions, List.mem_cons, List.not_mem_nil, or_false] at h hother
  obtain ⟨rfl | rfl, rfl | rfl⟩ := And.intro h hother
  · exact absurd rfl hne
  · exact ⟨by decide, by decide, by decide⟩
  · exact ⟨by decide, by decide, by decide⟩
  · exact absurd rfl hne

/-! ## The binding of a rule -/

/-- A rule has a path for a verb: a text under the verb in small letters that is not empty. -/
def HasPath (rule : Fields) (verb : Verb) (path : String) : Prop :=
  rule.lookup verb.text.toLower = some (.text path) ∧ path ≠ ""

/-- The binding that a rule describes for a method: that of the first verb for which it has a path,
and a post to the name of the method if there is none. -/
inductive Describes (rule : Fields) (method : String) : Binding → Prop
  | verb {before after : List Verb} {verb : Verb} {path : String}
      (order : [.get, .post, .put, .delete, .patch] = before ++ verb :: after)
      (hasPath : HasPath rule verb path) (first : ∀ v ∈ before, ∀ p, ¬ HasPath rule v p) :
      Describes rule method ⟨verb, path⟩
  | default (nowhere : ∀ v p, ¬ HasPath rule v p) : Describes rule method ⟨.post, "/" ++ method⟩

lemma toLower_text (verb : Verb) : verb.text.toLower = verb.key := by
  have hlower : verb.text.toLower.toList = verb.text.toList.map Char.toLower :=
    String.toList_map
  rw [← String.toList_inj, hlower]
  cases verb <;> decide

lemma rulePath_eq_some {rule : Fields} {verb : Verb} {b : Binding} :
    rulePath rule verb = some b ↔ HasPath rule verb b.path ∧ b.verb = verb := by
  unfold rulePath HasPath
  rw [toLower_text]
  constructor
  · intro h
    split at h
    · next path hlookup =>
      split at h
      · exact absurd h (by simp)
      · next hpath =>
        obtain rfl : (⟨verb, path⟩ : Binding) = b := Option.some.inj h
        exact ⟨⟨hlookup, by simpa using hpath⟩, rfl⟩
    · exact absurd h (by simp)
  · rintro ⟨⟨hlookup, hpath⟩, rfl⟩
    rw [hlookup]
    simp [hpath]

lemma rulePath_eq_none {rule : Fields} {verb : Verb} :
    rulePath rule verb = none ↔ ∀ path, ¬ HasPath rule verb path := by
  rw [Option.eq_none_iff_forall_ne_some]
  constructor
  · intro h path hpath
    exact h ⟨verb, path⟩ (rulePath_eq_some.2 ⟨hpath, rfl⟩)
  · intro h b hb
    exact h b.path (rulePath_eq_some.1 hb).1

/-- Searching the verbs in their order gives the binding that a rule describes. -/
lemma describes_findSome? (rule : Fields) (method : String) :
    Describes rule method ((verbs.findSome? (rulePath rule)).getD (defaultBinding method)) := by
  rcases hfound : verbs.findSome? (rulePath rule) with _ | b
  · refine .default fun v p => ?_
    have hnone := List.findSome?_eq_none_iff.1 hfound v (by cases v <;> decide)
    exact rulePath_eq_none.1 hnone p
  · obtain ⟨before, verb, after, horder, hb, hfirst⟩ := List.findSome?_eq_some_iff.1 hfound
    obtain ⟨hpath, rfl⟩ := rulePath_eq_some.1 hb
    exact .verb horder hpath fun v hv => rulePath_eq_none.1 (hfirst v hv)

/-- A method is bound as its rule describes; no rule is as good as an empty one. -/
lemma describes_resolveBinding {options rule : Fields} (method : String)
    (h : findOption options httpExtension = present? rule) :
    Describes rule method (resolveBinding method options) := by
  unfold resolveBinding
  rw [h]
  cases rule with
  | nil => exact .default fun v p hpath => absurd hpath.1 (by simp)
  | cons e rest =>
    have hsearch := describes_findSome? (e :: rest) method
    simp only [present?, List.isEmpty_cons, Bool.false_eq_true, if_false, Option.bind_some]
    split
    · next b hb => rwa [hb] at hsearch
    · next hb => rwa [hb] at hsearch

/-! ## Agreement -/

/-- Options that hold an extension in a shape between others. -/
def placed (extension : String) (value : Value) (rule before after : Fields) (shape : Shape) :
    Fields :=
  before ++ shape.entries extension value rule ++ after

section Agreement

variable {extension : String} {value : Value} {rule before after : Fields}

lemma findOption_placed (hvalue : Holds value rule)
    (h : ∀ e ∈ before ++ after, Unrelated extension e.1) (shape : Shape) :
    findOption (placed extension value rule before after shape) extension = present? rule :=
  (findOption_between h).trans (findOption_entries hvalue shape)

/-- Whatever the shape of one of the known extensions is, both of them are found alike. -/
lemma findOption_placed_known (hextension : extension ∈ knownExtensions)
    (hvalue : Holds value rule) (h : ∀ e ∈ before ++ after, Unrelated extension e.1)
    {other : String} (hother : other ∈ knownExtensions) (shape shape' : Shape) :
    findOption (placed extension value rule before after shape) other =
      findOption (placed extension value rule before after shape') other := by
  by_cases hne : extension = other
  · subst hne
    rw [findOption_placed hvalue h, findOption_placed hvalue h]
  · have hunrelated := (separate_of_known hextension hother hne).unrelated value rule
    rw [placed, placed, findOption_drop before after (hunrelated shape),
      findOption_drop before after (hunrelated shape')]

end Agreement

/-- **Agreement of the shapes.**  Let a rule, with any entries, be present as an extension between
options that have nothing to do with it.  Whatever its shape is, looking for the extension gives the
entries of the rule, or nothing if there are none.  If it is one of the extensions that methods are
resolved by, then the binding of a method and the documentation of its operation, or the fault in
it, are the same for all shapes; and if it is the one that carries the binding, then the binding is
the one that the rule describes. -/
theorem shapes_agree (extension method : String) {value : Value} {rule before after : Fields}
    (hvalue : Holds value rule) (h : ∀ e ∈ before ++ after, Unrelated extension e.1) :
    (∀ shape, findOption (placed extension value rule before after shape) extension =
      if rule.isEmpty then none else some rule) ∧
    (extension ∈ [httpExtension, operationExtension] → ∀ shape shape',
      resolveBinding method (placed extension value rule before after shape) =
        resolveBinding method (placed extension value rule before after shape') ∧
      resolveOperation (placed extension value rule before after shape) =
        resolveOperation (placed extension value rule before after shape')) ∧
    (extension = httpExtension → ∀ shape,
      Describes rule method
        (resolveBinding method (placed extension value rule before after shape))) := by
  refine ⟨findOption_placed hvalue h, fun hknown shape shape' => ?_, ?_⟩
  · have hhttp := findOption_placed_known hknown hvalue h
      (show httpExtension ∈ knownExtensions by decide) shape shape'
    have hoperation := findOption_placed_known hknown hvalue h
      (show operationExtension ∈ knownExtensions by decide) shape shape'
    constructor
    · rw [resolveBinding, resolveBinding, hhttp]
    · rw [resolveOperation, resolveOperation, hoperation]
  · rintro rfl shape
    exact describes_resolveBinding method (findOption_placed hvalue h shape)

/-- A rule with several verbs, of which the first has no text and the second an empty one. -/
def severalVerbs : Fields :=
  [("get", .int 7), ("put", .text ""), ("patch", .text "/v1/books"), ("", .null),
   ("delete", .text "/v1/books/old")]

/-- Spread among other options, that rule binds a method to the first verb in the order of verbs
that has a path, and so it does as one entry. -/
theorem shapes_agree_severalVerbs :
    let before : Fields := [("deprecated", .bool true), ("[other.http]", .text "/v1/books")]
    let after : Fields := [("(google.api.https).get", .text "/v1/other")]
    let value : Value := .map (severalVerbs.map fun e => (.text e.1, e.2))
    Holds value severalVerbs ∧ (∀ e ∈ before ++ after, Unrelated httpExtension e.1) ∧
    resolveBinding "DropBooks" (placed httpExtension value severalVerbs before after .spread) =
      ⟨.delete, "/v1/books/old"⟩ ∧
    resolveBinding "DropBooks" (placed httpExtension value severalVerbs before after .bare) =
      ⟨.delete, "/v1/books/old"⟩ := by
  intro before after value
  have hvalue : Holds value severalVerbs := rfl
  have h : ∀ e ∈ before ++ after, Unrelated httpExtension e.1 := by decide
  have hagree := (shapes_agree httpExtension "DropBooks" hvalue h).2.1 (by decide) .spread .bare
  have hspread : resolveBinding "DropBooks"
      (placed httpExtension value severalVerbs before after .spread) =
      ⟨.delete, "/v1/books/old"⟩ := by decide
  exact ⟨hvalue, h, hspread, hagree.1.symm.trans hspread⟩

end TypedFetch.Http
