import Mathlib.Data.List.Induction
import Mathlib.Data.List.Perm.Basic
import TypedFetch.Project.Config

/-!
# Options depend on the last value of each field

A field of the options goes by several names, and a configuration and its overrides may use any of
them, also several at once.  What counts is the view of all entries in a row: the last value that is
given for each field, whatever name it is given under, and for each other key.  The main statement
is `configuredOptions_of_sameView`: two configurations with the same view are both refused, or give
the same options.

Merged entries hold one entry at most for each field (`Merged.pairwise`), the last one that is given
(`Merged.entryFor`), and a stray key exactly if one is given (`Merged.hasStray`).
The checks look at nothing else, apart from the names that they report faults under.
-/

namespace TypedFetch.Project

open TypedFetch.Validation

/-! ## The view of entries -/

/-- The name that stands for a field in the view. -/
def OptionField.viewName (f : OptionField) : String :=
  f.names.headD ""

/-- The key under which the view holds what is given under a key: the name of its field, or the key
itself. -/
def foldedKey (k : Value) : Value :=
  match fieldOf? k with
  | some f => .text f.viewName
  | none => k

/-- Two folded keys are the same key of the view. -/
def SameViewKey (a b : Value) : Prop :=
  a = b ∨ Value.sameKey a b

open Classical in
/-- The last value that entries give under a key of the view. -/
noncomputable def view (entries : Entries) (key : Value) : Option Value :=
  (entries.reverse.find? fun e => SameViewKey (foldedKey e.1) key).map (·.2)

/-- Entries with the same view give the same last values, under whatever names. -/
def SameView (entries entries' : Entries) : Prop :=
  ∀ key, view entries key = view entries' key

/-! ## Keys and fields -/

lemma viewName_injective : Function.Injective OptionField.viewName := by
  intro f g h
  cases f <;> cases g <;> first | rfl | exact absurd h (by decide)

lemma ofName?_of_mem_names {f : OptionField} : ∀ n ∈ f.names, OptionField.ofName? n = some f := by
  cases f <;> decide

lemma viewName_mem_names (f : OptionField) : f.viewName ∈ f.names := by
  cases f <;> decide

lemma mem_names_of_ofName? {n : String} {f : OptionField} (h : OptionField.ofName? n = some f) :
    n ∈ f.names := by
  simpa using List.find?_some h

lemma fieldOf?_text (n : String) : fieldOf? (.text n) = OptionField.ofName? n := rfl

lemma exists_text_of_fieldOf? {k : Value} {f : OptionField} (h : fieldOf? k = some f) :
    ∃ n ∈ f.names, k = .text n := by
  obtain ⟨n, hn, hf⟩ := Option.bind_eq_some_iff.1 h
  cases k <;> simp only [Value.asText?, Option.some.injEq, reduceCtorEq] at hn
  exact ⟨n, mem_names_of_ofName? hf, by rw [hn]⟩

lemma sameKey_text {n : String} {k : Value} :
    Value.sameKey k (.text n) = true ↔ k = .text n := by
  cases k <;> simp [Value.sameKey, Value.asInt?]

lemma text_sameKey {n : String} {k : Value} :
    Value.sameKey (.text n) k = true ↔ .text n = k := by
  cases k <;> simp [Value.sameKey, Value.asInt?]

/-- The view holds the values of a field under its name, and no others. -/
lemma sameViewKey_viewName {k : Value} {f : OptionField} :
    SameViewKey (foldedKey k) (.text f.viewName) ↔ fieldOf? k = some f := by
  have hname : fieldOf? (.text f.viewName) = some f :=
    ofName?_of_mem_names _ (viewName_mem_names f)
  rw [SameViewKey, sameKey_text, or_self, foldedKey]
  cases hk : fieldOf? k with
  | some g =>
    rw [Value.text.injEq, Option.some.injEq, viewName_injective.eq_iff]
  | none =>
    simp only [reduceCtorEq, iff_false]
    rintro rfl
    rw [hname] at hk
    exact absurd hk (by simp)

/-- Under a key that stands for no field, the view holds what is given under such keys. -/
lemma fieldOf?_eq_none_of_sameViewKey {k key : Value} (h : SameViewKey (foldedKey k) key)
    (hkey : fieldOf? key = none) : fieldOf? k = none := by
  cases hk : fieldOf? k with
  | none => rfl
  | some f =>
    rw [foldedKey, hk] at h
    have htext : key = .text f.viewName := (h.elim id text_sameKey.1).symm
    rw [htext, fieldOf?_text, ofName?_of_mem_names _ (viewName_mem_names f)] at hkey
    exact absurd hkey (by simp)

lemma sameField_of_fieldOf? {a b : Value} {f : OptionField} (ha : fieldOf? a = some f) :
    sameField a b = true ↔ fieldOf? b = some f := by
  rw [sameField, ha]
  cases fieldOf? b with
  | none => simp
  | some g => simpa using eq_comm

lemma fieldOf?_eq_none_of_sameField {a b : Value} (ha : fieldOf? a = none)
    (h : sameField a b = true) : fieldOf? b = none := by
  cases hb : fieldOf? b with
  | none => rfl
  | some f => simp [sameField, ha, hb] at h

/-! ## Merged entries -/

/-- Entries that are merged one after the other. -/
inductive Merged : Entries → Entries → Prop
  | nil : Merged [] []
  | replace {entries merged : Entries} (e : Value × Value) (h : Merged entries merged) :
      Merged (entries ++ [e]) (replaceEntry merged e)

lemma merged_mergeEntries (config overrides : Entries) :
    Merged (config ++ overrides) (mergeEntries config overrides) := by
  rw [mergeEntries]
  induction config ++ overrides using List.reverseRecOn with
  | nil => exact .nil
  | append_singleton entries e ih =>
    rw [List.foldl_append, List.foldl_cons, List.foldl_nil]
    exact .replace e ih

/-- What is looked for is found among the entries that stay, if all such entries stay. -/
lemma find?_filter_of_imp {α : Type} {p q : α → Bool} {l : List α} (h : ∀ x, q x → p x) :
    (l.filter p).find? q = l.find? q := by
  rw [List.find?_filter]
  refine congrArg (l.find? ·) (funext fun x => ?_)
  cases hq : q x with
  | false => simp
  | true => simp [h x hq]

/-- Replacing puts the entry in the place of those for the same field, and leaves other fields. -/
lemma entryFor_replaceEntry (f : OptionField) (entries : Entries) (e : Value × Value) :
    entryFor f (replaceEntry entries e) =
      if fieldOf? e.1 = some f then some e else entryFor f entries := by
  rw [entryFor, replaceEntry, List.find?_append]
  split
  · next he =>
    have hnone : (entries.filter fun x => !sameField x.1 e.1).find?
        (fun x => fieldOf? x.1 == some f) = none := by
      rw [List.find?_eq_none]
      intro x hx hfield
      have hsame := (sameField_of_fieldOf? (eq_of_beq hfield)).2 he
      simpa [hsame] using (List.mem_filter.1 hx).2
    rw [hnone]
    simp [he]
  · next he =>
    rw [find?_filter_of_imp, entryFor]
    · simp [he]
    · intro x hfield
      simpa using fun h => he ((sameField_of_fieldOf? (eq_of_beq hfield)).1 h)

/-- The last entry for a field is the one that is left of them. -/
lemma Merged.entryFor {entries merged : Entries} (h : Merged entries merged) (f : OptionField) :
    entryFor f merged = entries.reverse.find? (fun e => fieldOf? e.1 == some f) := by
  induction h with
  | nil => rfl
  | replace e _ ih =>
    rw [entryFor_replaceEntry, ih, List.reverse_append, List.reverse_singleton,
      List.singleton_append, List.find?_cons]
    split
    · next he => simp [he]
    · next he => simp [beq_eq_false_iff_ne.2 he]

/-- Some key stands for no field. -/
def HasStray (entries : Entries) : Prop :=
  ∃ e ∈ entries, fieldOf? e.1 = none

lemma hasStray_replaceEntry (entries : Entries) (e : Value × Value) :
    HasStray (replaceEntry entries e) ↔ HasStray (entries ++ [e]) := by
  constructor
  · rintro ⟨x, hx, hnone⟩
    rcases List.mem_append.1 hx with hx | hx
    · exact ⟨x, List.mem_append_left _ (List.mem_of_mem_filter hx), hnone⟩
    · exact ⟨x, List.mem_append_right _ hx, hnone⟩
  · rintro ⟨x, hx, hnone⟩
    by_cases hsame : sameField x.1 e.1 = true
    · -- the stray key is replaced by one that is stray itself
      exact ⟨e, List.mem_append_right _ (by simp), fieldOf?_eq_none_of_sameField hnone hsame⟩
    · rcases List.mem_append.1 hx with hx | hx
      · exact ⟨x, List.mem_append_left _ (List.mem_filter.2 ⟨hx, by simp [hsame]⟩), hnone⟩
      · exact ⟨x, List.mem_append_right _ hx, hnone⟩

/-- Merging keeps a stray key if one is given. -/
lemma Merged.hasStray {entries merged : Entries} (h : Merged entries merged) :
    HasStray merged ↔ HasStray entries := by
  induction h with
  | nil => rfl
  | replace e _ ih =>
    rw [hasStray_replaceEntry]
    simp only [HasStray, List.mem_append, or_and_right, exists_or] at ih ⊢
    rw [ih]

/-- No two merged entries are for the same field. -/
lemma Merged.pairwise {entries merged : Entries} (h : Merged entries merged) :
    merged.Pairwise fun a b => sameField a.1 b.1 = false := by
  induction h with
  | nil => exact List.Pairwise.nil
  | replace e _ ih =>
    rw [replaceEntry, List.pairwise_append]
    refine ⟨ih.sublist List.filter_sublist, List.pairwise_singleton _ _, ?_⟩
    intro a ha b hb
    obtain rfl := List.mem_singleton.1 hb
    simpa using (List.mem_filter.1 ha).2

/-- Where no two entries are for the same field, an entry for a field is the entry for it. -/
lemma entryFor_of_mem {entries : Entries} {f : OptionField} {e : Value × Value}
    (hpairwise : entries.Pairwise fun a b => sameField a.1 b.1 = false) (he : e ∈ entries)
    (hf : fieldOf? e.1 = some f) : entryFor f entries = some e := by
  induction entries with
  | nil => exact absurd he List.not_mem_nil
  | cons x entries ih =>
    obtain ⟨hx, hrest⟩ := List.pairwise_cons.1 hpairwise
    rcases List.mem_cons.1 he with rfl | he
    · simp [entryFor, hf]
    · have hother : fieldOf? x.1 ≠ some f := by
        intro hxf
        have hsame := (sameField_of_fieldOf? hxf).2 hf
        rw [hx e he] at hsame
        exact absurd hsame (by simp)
      rw [entryFor, List.find?_cons_of_neg (by simpa using hother)]
      exact ih hrest he

/-- Looking for the names of a field one by one, in any order, finds its entry. -/
lemma findSome?_mergeEntries (config overrides : Entries) {f : OptionField} {names : List String}
    (hnames : names.Perm f.names) :
    names.findSome? (fun n => (mergeEntries config overrides).find?
      fun e => Value.sameKey e.1 (.text n)) = entryFor f (mergeEntries config overrides) := by
  have hfound : ∀ n ∈ names, ∀ e, (mergeEntries config overrides).find?
      (fun e => Value.sameKey e.1 (.text n)) = some e →
      entryFor f (mergeEntries config overrides) = some e := by
    intro n hn e he
    have hkey : e.1 = .text n := sameKey_text.1 (by simpa using List.find?_some he)
    refine entryFor_of_mem (merged_mergeEntries _ _).pairwise (List.mem_of_find?_eq_some he) ?_
    rw [hkey, fieldOf?_text]
    exact ofName?_of_mem_names n (hnames.mem_iff.1 hn)
  cases hsome : names.findSome? (fun n => (mergeEntries config overrides).find?
      fun e => Value.sameKey e.1 (.text n)) with
  | some e =>
    obtain ⟨n, hn, he⟩ := List.exists_of_findSome?_eq_some hsome
    exact (hfound n hn e he).symm
  | none =>
    rw [eq_comm, entryFor, List.find?_eq_none]
    intro e he hfield
    obtain ⟨n, hn, hkey⟩ := exists_text_of_fieldOf? (eq_of_beq hfield)
    have hmiss := List.findSome?_eq_none_iff.1 hsome n (hnames.mem_iff.2 hn)
    exact List.find?_eq_none.1 hmiss e he (sameKey_text.2 hkey)

/-! ## Checks that look at values only -/

/-- Two checks pass with the same value, or both fail. -/
def Agree {α : Type} (x y : Check α) : Prop :=
  ∀ a, x = .ok a ↔ y = .ok a

lemma Agree.refl {α : Type} (x : Check α) : Agree x x := fun _ => Iff.rfl

lemma Agree.below {α : Type} (x : Check α) (s s' : Step) : Agree (x.below s) (x.below s') := by
  intro a
  cases x <;> simp [Check.below]

lemma apply_eq_ok {α β : Type} {g : Check (α → β)} {x : Check α} {b : β} :
    (g <*> x) = .ok b ↔ ∃ f a, g = .ok f ∧ x = .ok a ∧ f a = b := by
  change Check.apply g x = .ok b ↔ _
  constructor
  · intro h
    cases g with
    | error es => cases x <;> exact absurd h (by simp [Check.apply])
    | ok f =>
      cases x with
      | error es => exact absurd h (by simp [Check.apply])
      | ok a => exact ⟨f, a, rfl, rfl, Except.ok.inj h⟩
  · rintro ⟨f, a, rfl, rfl, rfl⟩
    rfl

lemma Agree.seq {α β : Type} {g g' : Check (α → β)} {x x' : Check α} (hg : Agree g g')
    (hx : Agree x x') : Agree (g <*> x) (g' <*> x') := by
  intro b
  rw [apply_eq_ok, apply_eq_ok]
  simp only [hg _, hx _]

lemma Agree.map {α β : Type} (f : α → β) {x x' : Check α} (hx : Agree x x') :
    Agree (f <$> x) (f <$> x') :=
  Agree.seq (Agree.refl (Check.pass f)) hx

section Checks

variable {α : Type} {f : OptionField} {entries entries' : Entries}
  (h : (entryFor f entries).map (·.2) = (entryFor f entries').map (·.2))

include h

/-- Both entries give the field the same value, or neither gives it one. -/
lemma entryFor_cases : (entryFor f entries = none ∧ entryFor f entries' = none) ∨
    ∃ k k' v, entryFor f entries = some (k, v) ∧ entryFor f entries' = some (k', v) := by
  rcases he : entryFor f entries with _ | ⟨k, v⟩ <;> rw [he] at h
  · exact Or.inl ⟨rfl, Option.map_eq_none_iff.1 h.symm⟩
  · obtain ⟨⟨k', v'⟩, he', rfl⟩ := Option.map_eq_some_iff.1 h.symm
    exact Or.inr ⟨k, k', _, rfl, he'⟩

lemma Agree.given (check : Value → Check α) :
    Agree (given f check entries) (given f check entries') := by
  rw [Project.given, Project.given]
  rcases entryFor_cases h with ⟨he, he'⟩ | ⟨k, k', v, he, he'⟩ <;> rw [he, he']
  · exact Agree.refl _
  · exact Agree.below _ _ _

lemma Agree.givenOr (default : α) (check : Value → Check α) :
    Agree (givenOr f default check entries) (givenOr f default check entries') := by
  rw [Project.givenOr, Project.givenOr]
  rcases entryFor_cases h with ⟨he, he'⟩ | ⟨k, k', v, he, he'⟩ <;> rw [he, he']
  · exact Agree.refl _
  · exact Agree.below _ _ _

end Checks

lemma strayIssue_eq_none_iff (k : Value) : strayIssue k = none ↔ fieldOf? k ≠ none := by
  cases k <;> simp [strayIssue, fieldOf?, Value.asText?, Option.isSome_iff_ne_none]

lemma onlyFields_eq_ok_iff (entries : Entries) (u : Unit) :
    onlyFields entries = .ok u ↔ ¬ HasStray entries := by
  have hissues : entries.filterMap (fun e => strayIssue e.1) = [] ↔ ¬ HasStray entries := by
    simp only [List.filterMap_eq_nil_iff, strayIssue_eq_none_iff, HasStray, not_exists, not_and]
  rw [← hissues, onlyFields]
  cases hfound : entries.filterMap fun e => strayIssue e.1 with
  | nil => exact iff_of_true rfl rfl
  | cons issue issues => simp

/-- Options depend on the values of the fields only, and on there being no stray key. -/
lemma Agree.ofEntries {entries entries' : Entries}
    (hvalues : ∀ f, (entryFor f entries).map (·.2) = (entryFor f entries').map (·.2))
    (hstray : HasStray entries ↔ HasStray entries') :
    Agree (Options.ofEntries entries) (Options.ofEntries entries') := by
  have honly : Agree (onlyFields entries) (onlyFields entries') := by
    intro u
    rw [onlyFields_eq_ok_iff, onlyFields_eq_ok_iff, hstray]
  refine Agree.seq (Agree.seq (Agree.seq (Agree.seq (Agree.seq (Agree.seq (Agree.seq (Agree.seq
    (Agree.seq (Agree.seq (Agree.seq (Agree.map _ ?_) ?_) ?_) ?_) ?_) ?_) ?_) ?_) ?_) ?_) ?_) honly
  · exact Agree.given (hvalues _) _
  · exact Agree.given (hvalues _) _
  all_goals exact Agree.givenOr (hvalues _) _ _

/-! ## Options by their view -/

open Classical in
lemma view_viewName (entries : Entries) (f : OptionField) :
    view entries (.text f.viewName) =
      (entries.reverse.find? fun e => fieldOf? e.1 == some f).map (·.2) := by
  rw [view]
  congr 2
  funext e
  rw [Bool.eq_iff_iff, decide_eq_true_iff, beq_iff_eq, sameViewKey_viewName]

/-- A stray key is given exactly if the view holds something under a key that stands for no
field. -/
lemma hasStray_iff_view (entries : Entries) :
    HasStray entries ↔ ∃ key, fieldOf? key = none ∧ view entries key ≠ none := by
  have hview : ∀ key, view entries key ≠ none ↔ ∃ e ∈ entries, SameViewKey (foldedKey e.1) key := by
    intro key
    simp [view]
  constructor
  · rintro ⟨e, he, hnone⟩
    refine ⟨e.1, hnone, (hview _).2 ⟨e, he, ?_⟩⟩
    rw [foldedKey, hnone]
    exact Or.inl rfl
  · rintro ⟨key, hkey, hsome⟩
    obtain ⟨e, he, hsame⟩ := (hview key).1 hsome
    exact ⟨e, he, fieldOf?_eq_none_of_sameViewKey hsame hkey⟩

/-- The merged entries hold for each field the last value that is given. -/
lemma entryFor_eq_view (config overrides : Entries) (f : OptionField) :
    (entryFor f (mergeEntries config overrides)).map (·.2) =
      view (config ++ overrides) (.text f.viewName) := by
  rw [(merged_mergeEntries config overrides).entryFor, view_viewName]

lemma agree_buildOptions {config overrides config' overrides' : Entries}
    (h : SameView (config ++ overrides) (config' ++ overrides')) :
    Agree (buildOptions config overrides) (buildOptions config' overrides') := by
  refine Agree.ofEntries (fun f => ?_) ?_
  · rw [entryFor_eq_view, entryFor_eq_view, h]
  · rw [(merged_mergeEntries config overrides).hasStray,
      (merged_mergeEntries config' overrides').hasStray, hasStray_iff_view, hasStray_iff_view]
    simp only [h _]

open Classical in
/-- What is given for a field in the overrides hides what the configuration gives for it. -/
lemma sameView_without {overrides : Entries} {f : OptionField}
    (h : ∃ e ∈ overrides, fieldOf? e.1 = some f) (config : Entries) :
    SameView (config ++ overrides)
      (config.filter (fun e => fieldOf? e.1 != some f) ++ overrides) := by
  intro key
  rw [view, view, List.reverse_append, List.reverse_append, List.find?_append, List.find?_append,
    ← List.filter_reverse]
  cases hfound : overrides.reverse.find? (fun e => decide (SameViewKey (foldedKey e.1) key)) with
  | some e => rfl
  | none =>
    rw [find?_filter_of_imp]
    intro e hkey
    obtain ⟨o, ho, hof⟩ := h
    by_contra hef
    -- the key is that of the field, which the overrides do hold
    have hfield : fieldOf? e.1 = some f := by simpa using hef
    have hsame : foldedKey o.1 = foldedKey e.1 := by rw [foldedKey, foldedKey, hof, hfield]
    refine List.find?_eq_none.1 hfound o (List.mem_reverse.2 ho) ?_
    rw [hsame]
    exact hkey

/-- Both are refused, or both give the same options. -/
def SameOutcome (x y : Except ConfigError Options) : Prop :=
  (∃ e e', x = .error e ∧ y = .error e') ∨ ∃ o, x = .ok o ∧ y = .ok o

lemma sameOutcome_of_sameView {config overrides config' overrides' : Entries}
    (h : SameView (config ++ overrides) (config' ++ overrides')) :
    SameOutcome (configuredOptions config overrides) (configuredOptions config' overrides') := by
  have hagree := agree_buildOptions h
  delta configuredOptions
  cases hx : buildOptions config overrides with
  | ok o =>
    rw [(hagree o).1 hx]
    exact Or.inr ⟨o, rfl, rfl⟩
  | error issues =>
    cases hy : buildOptions config' overrides' with
    | ok o =>
      rw [(hagree o).2 hy] at hx
      exact absurd hx (by simp)
    | error issues' => exact Or.inl ⟨_, _, rfl, rfl⟩

/-- **Last values.**  The last value for each field counts, under whatever name it is given: the
merged entries hold for each field the value that the view holds, so that configurations with the
same view are both refused or give the same options; what the overrides give for a field makes what
the configuration gives for it irrelevant; and the merged entries hold so little that it does not
matter in which order the names of a field are looked for. -/
theorem configuredOptions_of_sameView {config overrides config' overrides' : Entries}
    (h : SameView (config ++ overrides) (config' ++ overrides')) :
    SameOutcome (configuredOptions config overrides) (configuredOptions config' overrides') ∧
    (∀ f, (entryFor f (mergeEntries config overrides)).map (·.2) =
      view (config ++ overrides) (.text f.viewName)) ∧
    (∀ f, (∃ e ∈ overrides, fieldOf? e.1 = some f) →
      SameOutcome (configuredOptions config overrides)
        (configuredOptions (config.filter fun e => fieldOf? e.1 != some f) overrides)) ∧
    ∀ (f : OptionField) (names : List String), names.Perm f.names →
      names.findSome? (fun n => (mergeEntries config overrides).find?
        fun e => Value.sameKey e.1 (.text n)) = entryFor f (mergeEntries config overrides) :=
  ⟨sameOutcome_of_sameView h, entryFor_eq_view config overrides,
    fun _ hf => sameOutcome_of_sameView (sameView_without hf config),
    fun _ _ hnames => findSome?_mergeEntries config overrides hnames⟩

/-- Two configurations that use different names give the options with the last path and the last
directory. -/
theorem configuredOptions_of_sameView_twoNames :
    let config : Entries := [(.text "protoPath", .text "a"), (.text "schema_path", .text "b"),
      (.text "outputDir", .text "x")]
    let overrides : Entries := [(.text "output_dir", .text "out")]
    let config' : Entries := [(.text "schemaPath", .text "b")]
    let overrides' : Entries := [(.text "outputDir", .text "out")]
    SameView (config ++ overrides) (config' ++ overrides') ∧
      SameOutcome (configuredOptions config overrides) (configuredOptions config' overrides') ∧
      configuredOptions config overrides =
        .ok { schemaPath := { parts := ["b"] }, outputDir := { parts := ["out"] } } := by
  intro config overrides config' overrides'
  have hview : SameView (config ++ overrides) (config' ++ overrides') := by
    have hproto : foldedKey (.text "protoPath") = .text "schema_path" := rfl
    have hsnake : foldedKey (.text "schema_path") = .text "schema_path" := rfl
    have hcamel : foldedKey (.text "schemaPath") = .text "schema_path" := rfl
    have houtput : foldedKey (.text "outputDir") = .text "output_dir" := rfl
    have houtput' : foldedKey (.text "output_dir") = .text "output_dir" := rfl
    intro key
    by_cases hs : SameViewKey (.text "schema_path") key <;>
      by_cases ho : SameViewKey (.text "output_dir") key <;>
      simp [view, config, overrides, config', overrides', hproto, hsnake, hcamel, houtput,
        houtput', hs, ho]
  exact ⟨hview, (configuredOptions_of_sameView hview).1, rfl⟩

end TypedFetch.Project
