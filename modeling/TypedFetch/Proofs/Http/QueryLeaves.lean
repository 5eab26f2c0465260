import Mathlib.Data.List.Nodup
import TypedFetch.Http.Query
import TypedFetch.Proofs.Attempts

/-!
# The leaves of a request object

A request object is a tree of mappings and lists with scalars at its leaves.  A leaf is reached from
the object by a top key and further steps into mappings and lists, and query parameters are its
leaves in the order of the document: the key of a parameter is the way to the leaf, written down,
except that the last step into a list is left out.

What is written down can be read again.  Each step begins with a mark, a point or an opening
bracket, and if no key holds a mark then the text falls into its steps at the marks.  So two leaves
have the same key only if their ways differ in the step that is left out.  The main statement is
`searchParams_leaves`.
-/

namespace TypedFetch.Http

/-! ## Ways and leaves -/

/-- A step from a collection to one of its parts. -/
inductive Step where
  /-- To the value under a key of a mapping. -/
  | key (name : String)
  /-- To the item of a list at a position. -/
  | index (i : Nat)
deriving Repr, DecidableEq

/-- How a step is written. -/
def Step.text : Step → String
  | .key name => "." ++ name
  | .index i => "[" ++ toString i ++ "]"

/-- How steps are written one after the other. -/
def stepsText (steps : List Step) : String :=
  String.join (steps.map Step.text)

/-- The steps that are written for a scalar: all but a last one into a list. -/
def written (steps : List Step) : List Step :=
  match steps.getLast? with
  | some (.index _) => steps.dropLast
  | _ => steps

mutual

/-- The scalars in a value that are not null, with the steps to them, in the order of the
document. -/
def leavesOf : Value → List (List Step × Value)
  | .null => []
  | .map entries => entryLeaves entries
  | .ordered entries => entryLeaves entries
  | .list items => itemLeaves 0 items
  | .tuple items => itemLeaves 0 items
  | v => [([], v)]

/-- The leaves of the entries of a mapping. -/
def entryLeaves : List (Value × Value) → List (List Step × Value)
  | [] => []
  | (k, v) :: rest =>
    (leavesOf v).map (Prod.map (.key k.display :: ·) id) ++ entryLeaves rest

/-- The leaves of the items of a list, from index `index` on. -/
def itemLeaves (index : Nat) : List Value → List (List Step × Value)
  | [] => []
  | v :: rest =>
    (leavesOf v).map (Prod.map (.index index :: ·) id) ++ itemLeaves (index + 1) rest

end

/-- A leaf of a request object. -/
structure Leaf where
  /-- The key of the object under which it is. -/
  top : String
  /-- The further steps to it. -/
  steps : List Step
  /-- The scalar. -/
  value : Value

/-- The key of a leaf: the way to it, without a last step into a list. -/
def Leaf.key (l : Leaf) : String :=
  l.top ++ stepsText (written l.steps)

/-- The leaves of a request object in the order of the document. -/
def requestLeaves (entries : List (Value × Value)) : List Leaf :=
  entries.flatMap fun (k, v) => (leavesOf v).map fun (steps, w) => ⟨k.display, steps, w⟩

/-- Two leaves are items of the same list. -/
def Leaf.SameList (a b : Leaf) : Prop :=
  a.top = b.top ∧ ∃ steps i j, a.steps = steps ++ [.index i] ∧ b.steps = steps ++ [.index j]

/-! ## Parameters are leaves -/

lemma written_cons (s : Step) {steps : List Step} (h : steps ≠ []) :
    written (s :: steps) = s :: written steps := by
  obtain ⟨before, last, rfl⟩ := (List.eq_nil_or_concat steps).resolve_left h
  rw [List.concat_eq_append, written, written, ← List.cons_append, List.getLast?_concat,
    List.getLast?_concat, List.dropLast_concat, List.dropLast_concat]
  cases last <;> rfl

lemma written_key (name : String) (steps : List Step) :
    written (.key name :: steps) = .key name :: written steps := by
  by_cases h : steps = []
  · rw [h]
    rfl
  · exact written_cons _ h

lemma stepsText_cons (s : Step) (steps : List Step) :
    stepsText (s :: steps) = s.text ++ stepsText steps := by
  simp [stepsText, String.join_cons]

/-- The parameter of a leaf, if the key of the value that it is in is given. -/
def leafParam (key : String) (leaf : List Step × Value) : Except QueryError (String × String) :=
  (scalarText leaf.2).map fun s => (key ++ stepsText (written leaf.1), s)

lemma leafParam_key (key name : String) (leaf : List Step × Value) :
    leafParam key (Prod.map (.key name :: ·) id leaf) = leafParam (key ++ "." ++ name) leaf := by
  simp only [leafParam, Prod.map_fst, Prod.map_snd, id_eq, written_key, stepsText_cons, Step.text,
    String.append_assoc]

lemma leafParam_index (key : String) (i : Nat) {leaf : List Step × Value} (h : leaf.1 ≠ []) :
    leafParam key (Prod.map (.index i :: ·) id leaf) =
      leafParam (key ++ "[" ++ toString i ++ "]") leaf := by
  simp only [leafParam, Prod.map_fst, Prod.map_snd, id_eq, written_cons _ h, stepsText_cons,
    Step.text, String.append_assoc]

lemma ne_nil_of_mem_entryLeaves {entries : List (Value × Value)} {leaf : List Step × Value}
    (h : leaf ∈ entryLeaves entries) : leaf.1 ≠ [] := by
  induction entries with
  | nil => exact absurd h (by simp [entryLeaves])
  | cons e rest ih =>
    obtain ⟨k, v⟩ := e
    rw [entryLeaves, List.mem_append, List.mem_map] at h
    rcases h with ⟨inner, -, rfl⟩ | h
    · simp
    · exact ih h

lemma ne_nil_of_mem_itemLeaves {items : List Value} {leaf : List Step × Value} :
    ∀ {index : Nat}, leaf ∈ itemLeaves index items → leaf.1 ≠ [] := by
  induction items with
  | nil => intro index h; exact absurd h (by simp [itemLeaves])
  | cons v rest ih =>
    intro index h
    rw [itemLeaves, List.mem_append, List.mem_map] at h
    rcases h with ⟨inner, -, rfl⟩ | h
    · simp
    · exact ih h

/-- The leaves of a collection are behind at least one step. -/
lemma ne_nil_of_mem_leavesOf {v : Value} (hv : isCollection v = true) {leaf : List Step × Value}
    (h : leaf ∈ leavesOf v) : leaf.1 ≠ [] := by
  cases v with
  | list items | tuple items =>
    rw [leavesOf] at h
    exact ne_nil_of_mem_itemLeaves h
  | map entries | ordered entries =>
    rw [leavesOf] at h
    exact ne_nil_of_mem_entryLeaves h
  | _ => exact absurd hv (by simp [isCollection])

/-- A value that is neither null nor a collection is its own leaf. -/
lemma leavesOf_scalar {v : Value} (hnull : v ≠ .null) (hv : isCollection v = false) :
    leavesOf v = [([], v)] := by
  cases v <;> simp_all [leavesOf, isCollection]

lemma eq_nil_of_mem_leavesOf {v : Value} (hv : isCollection v = false)
    {leaf : List Step × Value} (h : leaf ∈ leavesOf v) : leaf.1 = [] := by
  by_cases hnull : v = .null
  · subst hnull
    exact absurd h (by simp [leavesOf])
  · rw [leavesOf_scalar hnull hv, List.mem_singleton] at h
    rw [h]

lemma paramsOf_scalar {v : Value} (key : String) (hnull : v ≠ .null)
    (hv : isCollection v = false) : paramsOf key v = (leavesOf v).mapM (leafParam key) := by
  have hparams : paramsOf key v = (scalarText v).map fun s => [(key, s)] := by
    cases v <;> simp_all [paramsOf, isCollection]
  have hkey : key ++ stepsText (written []) = key := String.append_empty
  rw [hparams, leavesOf_scalar hnull hv, List.mapM_cons, List.mapM_nil, leafParam, hkey]
  cases scalarText v <;> rfl

mutual

/-- The parameters of a value are its leaves. -/
lemma paramsOf_eq (key : String) : ∀ v : Value,
    paramsOf key v = (leavesOf v).mapM (leafParam key)
  | .null => by simp [paramsOf, leavesOf]; rfl
  | .map entries | .ordered entries => by
    rw [paramsOf, leavesOf, entryParams_eq key entries]
  | .list items | .tuple items => by
    rw [paramsOf, leavesOf, itemParams_eq key items 0]
  | .bool _ | .int _ | .double _ | .text _ | .bytes _ | .instant _ | .day _ | .member _
  | .set _ =>
    paramsOf_scalar key (by simp) rfl

lemma entryParams_eq (key : String) : ∀ entries : List (Value × Value),
    entryParams key entries = (entryLeaves entries).mapM (leafParam key)
  | [] => by simp [entryParams, entryLeaves]; rfl
  | (k, v) :: rest => by
    have hfirst : ((leavesOf v).map (Prod.map (.key k.display :: ·) id)).mapM (leafParam key) =
        paramsOf (key ++ "." ++ k.display) v := by
      rw [List.mapM_map, paramsOf_eq _ v]
      exact mapM_congr fun leaf _ => leafParam_key key k.display leaf
    rw [entryParams, entryLeaves, List.mapM_append, hfirst, entryParams_eq key rest]

lemma itemParams_eq (key : String) : ∀ (items : List Value) (index : Nat),
    itemParams key index items = (itemLeaves index items).mapM (leafParam key)
  | [], index => by simp [itemParams, itemLeaves]; rfl
  | v :: rest, index => by
    have hfirst : ((leavesOf v).map (Prod.map (.index index :: ·) id)).mapM (leafParam key) =
        paramsOf (if isCollection v then key ++ "[" ++ toString index ++ "]" else key) v := by
      rw [List.mapM_map, paramsOf_eq _ v]
      refine mapM_congr fun leaf hleaf => ?_
      split
      · next hv => exact leafParam_index key index (ne_nil_of_mem_leavesOf hv hleaf)
      · next hv =>
        -- the step to a scalar item is not written
        obtain ⟨steps, w⟩ := leaf
        obtain rfl : steps = [] := eq_nil_of_mem_leavesOf (by simpa using hv) hleaf
        rfl
    rw [itemParams, itemLeaves, List.mapM_append, hfirst, itemParams_eq key rest (index + 1)]

end

/-- The parameters of a request object are its leaves: one for each of them, in their order. -/
lemma searchParams_eq (entries : List (Value × Value)) :
    searchParams entries =
      (requestLeaves entries).mapM fun l => (scalarText l.value).map fun s => (l.key, s) := by
  induction entries with
  | nil => rfl
  | cons e rest ih =>
    obtain ⟨k, v⟩ := e
    have hleaves : requestLeaves ((k, v) :: rest) =
        (leavesOf v).map (fun leaf => ⟨k.display, leaf.1, leaf.2⟩) ++ requestLeaves rest :=
      List.flatMap_cons
    rw [searchParams, paramsOf_eq, ih, hleaves, List.mapM_append, List.mapM_map]
    rfl

/-! ## Request objects -/

/-- The keys of a mapping are texts, each of them once, and they are allowed. -/
structure Keyed (allowed : String → Prop) (entries : List (Value × Value)) : Prop where
  texts : ∀ e ∈ entries, ∃ name, e.1 = .text name ∧ allowed name
  distinct : (entries.map fun e => e.1.display).Nodup

/-- A value that is built from mappings with allowed keys, lists, scalars that have a text, and
null. -/
inductive IsRequest (allowed : String → Prop) : Value → Prop
  | null : IsRequest allowed .null
  | scalar {v s} : isCollection v = false → scalarText v = .ok s → IsRequest allowed v
  | list {items} : (∀ v ∈ items, IsRequest allowed v) → IsRequest allowed (.list items)
  | tuple {items} : (∀ v ∈ items, IsRequest allowed v) → IsRequest allowed (.tuple items)
  | map {entries} : Keyed allowed entries → (∀ e ∈ entries, IsRequest allowed e.2) →
      IsRequest allowed (.map entries)
  | ordered {entries} : Keyed allowed entries → (∀ e ∈ entries, IsRequest allowed e.2) →
      IsRequest allowed (.ordered entries)

lemma entryLeaves_eq (entries : List (Value × Value)) :
    entryLeaves entries =
      entries.flatMap fun e => (leavesOf e.2).map (Prod.map (.key e.1.display :: ·) id) := by
  induction entries with
  | nil => rw [entryLeaves, List.flatMap_nil]
  | cons e rest ih => rw [entryLeaves, ih, List.flatMap_cons]

lemma itemLeaves_eq (items : List Value) : ∀ index : Nat,
    itemLeaves index items =
      (items.zipIdx index).flatMap fun e => (leavesOf e.1).map (Prod.map (.index e.2 :: ·) id) := by
  induction items with
  | nil => intro index; rw [itemLeaves, List.zipIdx_nil, List.flatMap_nil]
  | cons v rest ih => intro index; rw [itemLeaves, ih, List.zipIdx_cons, List.flatMap_cons]

/-- A leaf has a text, and the keys on the way to it are allowed. -/
structure LeafFits (allowed : String → Prop) (leaf : List Step × Value) : Prop where
  accepted : ∃ s, scalarText leaf.2 = .ok s
  keys : ∀ name, .key name ∈ leaf.1 → allowed name

section Requests

variable {allowed : String → Prop}

lemma leafFits_entryLeaves {entries : List (Value × Value)} (hkeyed : Keyed allowed entries)
    (h : ∀ e ∈ entries, ∀ leaf ∈ leavesOf e.2, LeafFits allowed leaf) :
    ∀ leaf ∈ entryLeaves entries, LeafFits allowed leaf := by
  intro leaf hleaf
  rw [entryLeaves_eq, List.mem_flatMap] at hleaf
  obtain ⟨e, he, hleaf⟩ := hleaf
  obtain ⟨inner, hinner, rfl⟩ := List.mem_map.1 hleaf
  obtain ⟨haccepted, hkeys⟩ := h e he inner hinner
  refine ⟨haccepted, fun name hname => ?_⟩
  rcases List.mem_cons.1 hname with hfirst | hname
  · obtain ⟨name', hname', hallowed⟩ := hkeyed.texts e he
    obtain rfl : name = name' := by simpa [hname', Value.display] using hfirst
    exact hallowed
  · exact hkeys name hname

lemma leafFits_itemLeaves {items : List Value}
    (h : ∀ v ∈ items, ∀ leaf ∈ leavesOf v, LeafFits allowed leaf) :
    ∀ leaf ∈ itemLeaves 0 items, LeafFits allowed leaf := by
  intro leaf hleaf
  rw [itemLeaves_eq, List.mem_flatMap] at hleaf
  obtain ⟨⟨v, i⟩, hv, hleaf⟩ := hleaf
  obtain ⟨inner, hinner, rfl⟩ := List.mem_map.1 hleaf
  obtain ⟨haccepted, hkeys⟩ := h v (List.fst_mem_of_mem_zipIdx hv) inner hinner
  refine ⟨haccepted, fun name hname => ?_⟩
  rcases List.mem_cons.1 hname with hfirst | hname
  · exact absurd hfirst (by simp)
  · exact hkeys name hname

lemma IsRequest.leafFits {v : Value} (h : IsRequest allowed v) :
    ∀ leaf ∈ leavesOf v, LeafFits allowed leaf := by
  induction h with
  | null => intro leaf hleaf; exact absurd hleaf (by simp [leavesOf])
  | @scalar v s hv hs =>
    intro leaf hleaf
    by_cases hnull : v = .null
    · subst hnull
      exact absurd hleaf (by simp [leavesOf])
    · rw [leavesOf_scalar hnull hv, List.mem_singleton] at hleaf
      subst hleaf
      exact ⟨⟨s, hs⟩, by simp⟩
  | list _ ih | tuple _ ih =>
    rw [leavesOf]
    exact leafFits_itemLeaves ih
  | map hkeyed _ ih | ordered hkeyed _ ih =>
    rw [leavesOf]
    exact leafFits_entryLeaves hkeyed ih

/-- Neither of two leaves is on the way to the other one. -/
def Apart (a b : List Step × Value) : Prop :=
  ¬ a.1 <+: b.1 ∧ ¬ b.1 <+: a.1

lemma apart_cons {s s' : Step} {a b : List Step × Value} (h : s = s' → Apart a b) :
    Apart (Prod.map (s :: ·) id a) (Prod.map (s' :: ·) id b) := by
  constructor
  · intro hprefix
    obtain ⟨hs, hrest⟩ := List.cons_prefix_cons.1 hprefix
    exact (h hs).1 hrest
  · intro hprefix
    obtain ⟨hs, hrest⟩ := List.cons_prefix_cons.1 hprefix
    exact (h hs.symm).2 hrest

/-- The leaves of the parts of a collection are apart if the parts are behind different steps. -/
lemma pairwise_apart_flatMap {α : Type} {parts : List α} (step : α → Step) (value : α → Value)
    (hsteps : (parts.map step).Nodup)
    (h : ∀ x ∈ parts, (leavesOf (value x)).Pairwise Apart) :
    (parts.flatMap fun x => (leavesOf (value x)).map
      (Prod.map (step x :: ·) id)).Pairwise Apart := by
  rw [List.pairwise_flatMap]
  constructor
  · intro x hx
    exact List.pairwise_map.2 ((h x hx).imp fun hab => apart_cons fun _ => hab)
  · refine (List.pairwise_map.1 hsteps).imp ?_
    intro x y hne a ha b hb
    obtain ⟨a, -, rfl⟩ := List.mem_map.1 ha
    obtain ⟨b, -, rfl⟩ := List.mem_map.1 hb
    exact apart_cons fun heq => absurd heq hne

lemma pairwise_apart_entryLeaves {entries : List (Value × Value)}
    (hkeyed : Keyed allowed entries) (h : ∀ e ∈ entries, (leavesOf e.2).Pairwise Apart) :
    (entryLeaves entries).Pairwise Apart := by
  rw [entryLeaves_eq]
  refine pairwise_apart_flatMap (fun e => .key (Prod.fst e).display) Prod.snd ?_ h
  have hkeys := List.Nodup.map (fun _ _ hab => Step.key.inj hab) hkeyed.distinct
  rwa [List.map_map] at hkeys

lemma pairwise_apart_itemLeaves {items : List Value}
    (h : ∀ v ∈ items, (leavesOf v).Pairwise Apart) : (itemLeaves 0 items).Pairwise Apart := by
  rw [itemLeaves_eq]
  refine pairwise_apart_flatMap (fun e => .index (Prod.snd e)) Prod.fst ?_ fun e he =>
    h e.1 (List.fst_mem_of_mem_zipIdx he)
  have hindexes : ((items.zipIdx 0).map Prod.snd).Nodup := by
    rw [List.zipIdx_map_snd]
    exact List.nodup_range'
  have hsteps := List.Nodup.map (fun _ _ hab => Step.index.inj hab) hindexes
  rwa [List.map_map] at hsteps

lemma IsRequest.pairwise_apart {v : Value} (h : IsRequest allowed v) :
    (leavesOf v).Pairwise Apart := by
  induction h with
  | null => simp [leavesOf]
  | @scalar v s hv _ =>
    by_cases hnull : v = .null
    · simp [hnull, leavesOf]
    · simp [leavesOf_scalar hnull hv]
  | list _ ih | tuple _ ih =>
    rw [leavesOf]
    exact pairwise_apart_itemLeaves ih
  | map hkeyed _ ih | ordered hkeyed _ ih =>
    rw [leavesOf]
    exact pairwise_apart_entryLeaves hkeyed ih

end Requests

/-! ## Keys can be read again -/

/-- The character starts a step. -/
def isMark (c : Char) : Bool := c == '.' || c == '['

/-- A key that holds no mark. -/
def IsPlainKey (name : String) : Prop := ∀ c ∈ name.toList, isMark c = false

/-- All keys among steps are plain. -/
def PlainSteps (steps : List Step) : Prop := ∀ name, .key name ∈ steps → IsPlainKey name

lemma plainSteps_cons {s : Step} {steps : List Step} :
    PlainSteps (s :: steps) ↔ PlainSteps [s] ∧ PlainSteps steps := by
  simp only [PlainSteps, List.mem_cons, List.not_mem_nil, or_false, or_imp, forall_and]

/-- Texts without marks are known from what follows them, if that begins with a mark. -/
lemma append_inj_of_marks {xs ys xs' ys' : List Char} (hxs : ∀ c ∈ xs, isMark c = false)
    (hxs' : ∀ c ∈ xs', isMark c = false) (hys : ∀ c ∈ ys.head?, isMark c = true)
    (hys' : ∀ c ∈ ys'.head?, isMark c = true) (h : xs ++ ys = xs' ++ ys') :
    xs = xs' ∧ ys = ys' := by
  have hcut : ∀ {xs ys : List Char}, (∀ c ∈ xs, isMark c = false) →
      (∀ c ∈ ys.head?, isMark c = true) →
      (xs ++ ys).takeWhile (fun c => !isMark c) = xs := by
    intro xs ys hxs hys
    rw [List.takeWhile_append_of_pos (by simpa using hxs)]
    cases ys with
    | nil => simp
    | cons c ys => simp [hys c (by simp)]
  have hfirst : xs = xs' := by rw [← hcut hxs hys, h, hcut hxs' hys']
  subst hfirst
  exact ⟨rfl, List.append_cancel_left h⟩

lemma isMark_of_isDigit {c : Char} (h : c.isDigit = true) : isMark c = false := by
  simp only [isMark, Bool.or_eq_false_iff, beq_eq_false_iff_ne]
  constructor
  · rintro rfl
    exact absurd h (by decide)
  · rintro rfl
    exact absurd h (by decide)

/-- A step is written as a mark and then characters that are no marks. -/
lemma exists_toList_text {s : Step} (h : PlainSteps [s]) :
    ∃ mark body, s.text.toList = mark :: body ∧ isMark mark = true ∧
      ∀ c ∈ body, isMark c = false := by
  cases s with
  | key name => exact ⟨'.', name.toList, by simp [Step.text], by decide, h name (by simp)⟩
  | index i =>
    refine ⟨'[', Nat.toDigits 10 i ++ [']'], by simp [Step.text], by decide, ?_⟩
    intro c hc
    rcases List.mem_append.1 hc with hc | hc
    · exact isMark_of_isDigit (Nat.isDigit_of_mem_toDigits (by decide) (by decide) hc)
    · obtain rfl : c = ']' := by simpa using hc
      decide

/-- What is written for steps begins with what is written for the first of them. -/
lemma exists_toList_stepsText {s : Step} {rest : List Step} (h : PlainSteps (s :: rest)) :
    ∃ mark body, s.text.toList = mark :: body ∧ isMark mark = true ∧
      (∀ c ∈ body, isMark c = false) ∧
      (stepsText (s :: rest)).toList = mark :: (body ++ (stepsText rest).toList) := by
  obtain ⟨mark, body, htext, hmark, hbody⟩ := exists_toList_text (plainSteps_cons.1 h).1
  refine ⟨mark, body, htext, hmark, hbody, ?_⟩
  rw [stepsText_cons, String.toList_append, htext, List.cons_append]

lemma Step.text_inj {s s' : Step} (h : s.text = s'.text) : s = s' := by
  have hlist := congrArg String.toList h
  cases s with
  | key name =>
    cases s' with
    | key name' =>
      have hname : name.toList = name'.toList := by simpa [Step.text] using hlist
      rw [String.toList_inj.1 hname]
    | index i => exact absurd hlist (by simp [Step.text])
  | index i =>
    cases s' with
    | key name => exact absurd hlist (by simp [Step.text])
    | index j =>
      have hdigits : Nat.toDigits 10 i = Nat.toDigits 10 j := by simpa [Step.text] using hlist
      have hnumber := congrArg (Nat.ofDigitChars 10 · 0) hdigits
      simp only [Nat.ofDigitChars_ten_toDigits] at hnumber
      rw [hnumber]

lemma toList_stepsText_nil : (stepsText []).toList = [] := by
  simp [stepsText, String.join]

lemma head_stepsText {steps : List Step} (h : PlainSteps steps) :
    ∀ c ∈ (stepsText steps).toList.head?, isMark c = true := by
  cases steps with
  | nil => intro c hc; exact absurd hc (by simp [toList_stepsText_nil])
  | cons s rest =>
    obtain ⟨mark, body, -, hmark, -, htext⟩ := exists_toList_stepsText h
    intro c hc
    obtain rfl : mark = c := by simpa [htext] using hc
    exact hmark

/-- Steps are known from how they are written. -/
lemma stepsText_inj {steps steps' : List Step} (h : PlainSteps steps) (h' : PlainSteps steps')
    (heq : (stepsText steps).toList = (stepsText steps').toList) : steps = steps' := by
  induction steps generalizing steps' with
  | nil =>
    cases steps' with
    | nil => rfl
    | cons s' rest' =>
      obtain ⟨mark, body, -, -, -, htext⟩ := exists_toList_stepsText h'
      rw [htext, toList_stepsText_nil] at heq
      exact absurd heq (by simp)
  | cons s rest ih =>
    obtain ⟨mark, body, hs, -, hbody, htext⟩ := exists_toList_stepsText h
    cases steps' with
    | nil =>
      rw [htext, toList_stepsText_nil] at heq
      exact absurd heq (by simp)
    | cons s' rest' =>
      obtain ⟨mark', body', hs', -, hbody', htext'⟩ := exists_toList_stepsText h'
      have hrest := (plainSteps_cons.1 h).2
      have hrest' := (plainSteps_cons.1 h').2
      rw [htext, htext', List.cons.injEq] at heq
      obtain ⟨rfl, hmore⟩ := heq
      -- a step ends where the mark of the next one stands, and no step holds a mark
      obtain ⟨rfl, hothers⟩ := append_inj_of_marks hbody hbody' (head_stepsText hrest)
        (head_stepsText hrest') hmore
      have hstep : s = s' := Step.text_inj (String.toList_inj.1 (hs.trans hs'.symm))
      rw [hstep, ih hrest hrest' hothers]

/-- A plain key and the steps behind it are known from how they are written. -/
lemma key_steps_inj {top top' : String} {steps steps' : List Step} (htop : IsPlainKey top)
    (htop' : IsPlainKey top') (h : PlainSteps steps) (h' : PlainSteps steps')
    (heq : top ++ stepsText steps = top' ++ stepsText steps') : top = top' ∧ steps = steps' := by
  have hlist := congrArg String.toList heq
  rw [String.toList_append, String.toList_append] at hlist
  obtain ⟨hfirst, hrest⟩ :=
    append_inj_of_marks htop htop' (head_stepsText h) (head_stepsText h') hlist
  exact ⟨String.toList_inj.1 hfirst, stepsText_inj h h' hrest⟩

/-! ## Leaves with the same key -/

/-- A last step into a list is not written, and all other steps are. -/
lemma written_cases (steps : List Step) :
    (∃ before i, steps = before ++ [.index i] ∧ written steps = before) ∨
      written steps = steps := by
  rcases List.eq_nil_or_concat steps with rfl | ⟨before, last, rfl⟩
  · exact Or.inr rfl
  · rw [List.concat_eq_append]
    cases last with
    | key name => exact Or.inr (by simp [written])
    | index i => exact Or.inl ⟨before, i, rfl, by simp [written]⟩

lemma isPrefix_written (steps : List Step) : written steps <+: steps := by
  rcases written_cases steps with ⟨before, i, hsteps, hwritten⟩ | hwritten
  · rw [hwritten, hsteps]
    exact List.prefix_append _ _
  · exact ⟨[], by rw [hwritten, List.append_nil]⟩

/-- If the same steps are written for two leaves that are apart, both are items of one list. -/
lemma exists_index_of_written {steps steps' : List Step} (h : written steps = written steps')
    (hapart : ¬ steps <+: steps') (hapart' : ¬ steps' <+: steps) :
    ∃ before i j, steps = before ++ [.index i] ∧ steps' = before ++ [.index j] := by
  rcases written_cases steps with ⟨before, i, hsteps, hwritten⟩ | hwritten
  · rcases written_cases steps' with ⟨before', j, hsteps', hwritten'⟩ | hwritten'
    · obtain rfl : before = before' := by rw [← hwritten, h, hwritten']
      exact ⟨before, i, j, hsteps, hsteps'⟩
    · -- the second leaf would be where the first one has its list
      refine absurd ?_ hapart'
      rw [← hwritten', ← h]
      exact isPrefix_written steps
  · refine absurd ?_ hapart
    rw [← hwritten, h]
    exact isPrefix_written steps'

section Object

variable {allowed : String → Prop} {entries : List (Value × Value)}

/-- The leaves of a request object are those of a mapping, whose first step is to the top key. -/
lemma entryLeaves_eq_requestLeaves (entries : List (Value × Value)) :
    entryLeaves entries =
      (requestLeaves entries).map fun l => (.key l.top :: l.steps, l.value) := by
  rw [entryLeaves_eq, requestLeaves, List.map_flatMap]
  simp only [List.map_map]
  rfl

/-- The leaves of a request object have texts, and the keys on the way to them are allowed. -/
lemma leafFits_requestLeaves (h : IsRequest allowed (.map entries)) {l : Leaf}
    (hl : l ∈ requestLeaves entries) :
    (∃ s, scalarText l.value = .ok s) ∧ allowed l.top ∧
      ∀ name, .key name ∈ l.steps → allowed name := by
  have hmem : (.key l.top :: l.steps, l.value) ∈ leavesOf (.map entries) := by
    rw [leavesOf, entryLeaves_eq_requestLeaves]
    exact List.mem_map_of_mem hl
  obtain ⟨haccepted, hkeys⟩ := h.leafFits _ hmem
  exact ⟨haccepted, hkeys l.top (by simp), fun name hname => hkeys name (by simp [hname])⟩

/-- Two leaves of a request object are under different keys of it, or apart. -/
lemma pairwise_requestLeaves (h : IsRequest allowed (.map entries)) :
    (requestLeaves entries).Pairwise fun a b =>
      a.top = b.top → ¬ a.steps <+: b.steps ∧ ¬ b.steps <+: a.steps := by
  have hapart := h.pairwise_apart
  rw [leavesOf, entryLeaves_eq_requestLeaves, List.pairwise_map] at hapart
  refine hapart.imp ?_
  rintro a b ⟨hab, hba⟩ htop
  rw [htop] at hab hba
  exact ⟨fun hprefix => hab (List.cons_prefix_cons.2 ⟨rfl, hprefix⟩),
    fun hprefix => hba (List.cons_prefix_cons.2 ⟨rfl, hprefix⟩)⟩

/-- If no key holds a mark, leaves with the same key are items of the same list. -/
lemma pairwise_sameList (h : IsRequest allowed (.map entries))
    (hplain : ∀ name, allowed name → IsPlainKey name) :
    (requestLeaves entries).Pairwise fun a b => a.key = b.key → a.SameList b := by
  have hsteps : ∀ l ∈ requestLeaves entries, PlainSteps (written l.steps) := fun l hl name hname =>
    hplain name ((leafFits_requestLeaves h hl).2.2 name ((isPrefix_written _).subset hname))
  refine (pairwise_requestLeaves h).imp_of_mem ?_
  intro a b ha hb hapart hkey
  -- the key of a leaf says which steps were written
  obtain ⟨htop, hwritten⟩ := key_steps_inj (hplain _ (leafFits_requestLeaves h ha).2.1)
    (hplain _ (leafFits_requestLeaves h hb).2.1) (hsteps a ha) (hsteps b hb) hkey
  obtain ⟨hab, hba⟩ := hapart htop
  exact ⟨htop, exists_index_of_written hwritten hab hba⟩

end Object

/-- **Query parameters.**  A request object that is built from mappings, lists, scalars and null has
one parameter for each scalar in it that is not null, in the order of the document: its value is the
text of the scalar, and its key the way to the scalar without a last step into a list.  If no key of
a mapping holds a point or an opening bracket, then two parameters have the same key only if they
come from items of the same list. -/
theorem searchParams_leaves {allowed : String → Prop} {entries : List (Value × Value)}
    (h : IsRequest allowed (.map entries)) :
    (∃ params, searchParams entries = .ok params ∧
      List.Forall₂ (fun l param => param.1 = l.key ∧ scalarText l.value = .ok param.2)
        (requestLeaves entries) params) ∧
    ((∀ name, allowed name → IsPlainKey name) →
      (requestLeaves entries).Pairwise fun a b => a.key = b.key → a.SameList b) := by
  refine ⟨?_, pairwise_sameList h⟩
  have haccepted : ∀ l ∈ requestLeaves entries,
      ∃ param, ((scalarText l.value).map fun s => (l.key, s)) = .ok param := by
    intro l hl
    obtain ⟨s, hs⟩ := (leafFits_requestLeaves h hl).1
    exact ⟨(l.key, s), by rw [hs]; rfl⟩
  obtain ⟨params, hparams⟩ := exists_mapM_eq_ok haccepted
  refine ⟨params, (searchParams_eq entries).trans hparams, ?_⟩
  refine (forall₂_of_mapM hparams).imp fun l param hparam => ?_
  obtain ⟨s, hs, rfl⟩ := map_eq_ok hparam
  exact ⟨rfl, hs⟩

/-- A request for a page of books: a filter with a list of tags and an empty field, and a list of
fields to sort by. -/
def pageOfBooks : List (Value × Value) :=
  [(.text "page", .int 2),
   (.text "filter", .map [
     (.text "tags", .list [.text "new", .null, .list [.bool true], .text "old"]),
     (.text "author", .null)]),
   (.text "sort", .list [.map [(.text "by", .text "title")], .map [(.text "by", .text "year")]])]

/-- The request for books has six parameters, and only the items of the list of tags share a key. -/
theorem searchParams_leaves_pageOfBooks :
    IsRequest IsPlainKey (.map pageOfBooks) ∧
    searchParams pageOfBooks = .ok [("page", "2"), ("filter.tags", "new"),
      ("filter.tags[2]", "true"), ("filter.tags", "old"), ("sort[0].by", "title"),
      ("sort[1].by", "year")] ∧
    (requestLeaves pageOfBooks).Pairwise fun a b => a.key = b.key → a.SameList b := by
  have hplain : ∀ name ∈ ["page", "filter", "sort", "tags", "author", "by"], IsPlainKey name := by
    simp [IsPlainKey, isMark]
  have htext : ∀ s, IsRequest IsPlainKey (.text s) := fun s => .scalar rfl rfl
  have hnested : IsRequest IsPlainKey (.list [.bool true]) := by
    refine .list fun v hv => ?_
    obtain rfl := List.mem_singleton.1 hv
    exact .scalar rfl rfl
  have htags : IsRequest IsPlainKey
      (.list [.text "new", .null, .list [.bool true], .text "old"]) :=
    .list (by simp [htext, hnested, IsRequest.null])
  have hfilter : IsRequest IsPlainKey (.map [(.text "tags", .list [.text "new", .null,
      .list [.bool true], .text "old"]), (.text "author", .null)]) :=
    .map ⟨by simp [hplain], by decide⟩ (by simp [htags, IsRequest.null])
  have hby : ∀ s, IsRequest IsPlainKey (.map [(.text "by", .text s)]) := fun s =>
    .map ⟨by simp [hplain], by simp⟩ (by simp [htext])
  have h : IsRequest IsPlainKey (.map pageOfBooks) := by
    refine .map ⟨by simp [pageOfBooks, hplain], by decide⟩ ?_
    have hsort : IsRequest IsPlainKey (.list [.map [(.text "by", .text "title")],
        .map [(.text "by", .text "year")]]) := .list (by simp [hby])
    have hpage : IsRequest IsPlainKey (.int 2) := .scalar rfl rfl
    simp [pageOfBooks, hpage, hfilter, hsort]
  exact ⟨h, rfl, (searchParams_leaves h).2 fun _ hname => hname⟩

end TypedFetch.Http
