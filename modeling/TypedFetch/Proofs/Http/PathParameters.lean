import Mathlib.Data.List.Basic
import Mathlib.Data.List.Perm.Subperm
import Mathlib.Data.List.TakeWhile
import Mathlib.Tactic.LinearCombination
import Mathlib.Tactic.Zify
import TypedFetch.Http.Query
import TypedFetch.Proofs.Text.Cut
import TypedFetch.Proofs.Text.Replace

/-!
# Path parameters

The placeholders of a path are filled one parameter after the other.  The main statement is
`fillPath_eq_fillAtOnce_iff`: this is the same as filling all of them at once, in whatever order and
for whichever of the parameters, exactly if the values of the other parameters do not make a new
placeholder of a parameter, by themselves or with the text around them.

A placeholder of a name without braces overlaps with no other one.  So the new placeholders can be
counted: they are those that are in the path filled with the other parameters and were not in it
before.
-/

namespace TypedFetch.Http

open TypedFetch.Text

/-! ## Placeholders -/

/-- Either brace. -/
def isBrace (c : Char) : Bool :=
  c == '\x7b' || c == '\x7d'

/-- A name with no brace in it. -/
def BraceFree (name : List Char) : Prop :=
  ∀ c ∈ name, isBrace c = false

instance (name : List Char) : Decidable (BraceFree name) :=
  List.decidableBAll (isBrace · = false) name

/-- The placeholder of a name. -/
def placeholder (name : List Char) : List Char :=
  '\x7b' :: name ++ ['\x7d']

lemma placeholder_ne_nil (name : List Char) : placeholder name ≠ [] :=
  List.cons_ne_nil _ _

lemma placeholder_append (name rest : List Char) :
    placeholder name ++ rest = '\x7b' :: (name ++ '\x7d' :: rest) := by
  simp [placeholder]

section Placeholders

variable {k j : List Char}

lemma BraceFree.open_not_mem (h : BraceFree k) : '\x7b' ∉ k ++ ['\x7d'] := by
  intro hmem
  rcases List.mem_append.1 hmem with hmem | hmem
  · exact absurd (h _ hmem) (by decide)
  · exact absurd (List.mem_singleton.1 hmem) (by decide)

lemma BraceFree.close_not_mem (h : BraceFree k) : '\x7d' ∉ k := by
  intro hmem
  exact absurd (h _ hmem) (by decide)

/-- A placeholder does not reach over an opening brace behind its first character. -/
lemma placeholder_isPrefix_of_append (hk : BraceFree k) {c : Char} {cs rest : List Char}
    (h : placeholder k <+: c :: (cs ++ '\x7b' :: rest)) : placeholder k <+: c :: cs := by
  obtain ⟨hc, hrest⟩ := List.cons_prefix_cons.1 h
  exact List.cons_prefix_cons.2 ⟨hc, isPrefix_of_append_cons hk.open_not_mem hrest⟩

/-- A text begins with one placeholder at most. -/
lemma placeholder_isPrefix_placeholder (hk : BraceFree k) (hj : BraceFree j) {rest : List Char}
    (h : placeholder k <+: placeholder j ++ rest) : k = j := by
  obtain ⟨tail, htail⟩ := h
  rw [placeholder_append, placeholder_append] at htail
  have hcut := congrArg (cutAt '\x7d') (List.cons.inj htail).2
  rw [cutAt_append hk.close_not_mem, cutAt_append hj.close_not_mem] at hcut
  exact (List.cons.inj hcut).1

lemma occurrences_append_of_not_mem {front : List Char} (h : '\x7b' ∉ front) (rest : List Char) :
    occurrences (placeholder k) (front ++ rest) = occurrences (placeholder k) rest := by
  induction front with
  | nil => rfl
  | cons c front ih =>
    obtain ⟨hc, hfront⟩ : '\x7b' ≠ c ∧ '\x7b' ∉ front := by simpa using h
    rw [List.cons_append, occurrences_cons, ih hfront]
    exact fun hprefix => hc (List.cons_prefix_cons.1 hprefix).1

lemma occurrences_placeholder_self (hk : BraceFree k) (rest : List Char) :
    occurrences (placeholder k) (placeholder k ++ rest) = 1 + occurrences (placeholder k) rest := by
  have hsplit : placeholder k ++ rest = '\x7b' :: ((k ++ ['\x7d']) ++ rest) := by
    rw [placeholder, List.cons_append, List.cons_append]
  have hhere : placeholder k <+: '\x7b' :: ((k ++ ['\x7d']) ++ rest) :=
    hsplit ▸ List.prefix_append _ _
  rw [hsplit, occurrences_cons_of_isPrefix hhere, occurrences_append_of_not_mem hk.open_not_mem]

lemma occurrences_placeholder_of_ne (hk : BraceFree k) (hj : BraceFree j) (hne : j ≠ k)
    (rest : List Char) :
    occurrences (placeholder k) (placeholder j ++ rest) = occurrences (placeholder k) rest := by
  have hsplit : placeholder j ++ rest = '\x7b' :: ((j ++ ['\x7d']) ++ rest) := by
    rw [placeholder, List.cons_append, List.cons_append]
  have hhere : ¬ placeholder k <+: '\x7b' :: ((j ++ ['\x7d']) ++ rest) := by
    intro hprefix
    rw [← hsplit] at hprefix
    exact hne (placeholder_isPrefix_placeholder hk hj hprefix).symm
  rw [hsplit, occurrences_cons hhere, occurrences_append_of_not_mem hj.open_not_mem]

/-- The places before a placeholder and those from it on are counted apart. -/
lemma occurrences_append_placeholder (hk : BraceFree k) (j front rest : List Char) :
    occurrences (placeholder k) (front ++ (placeholder j ++ rest)) =
      occurrences (placeholder k) front + occurrences (placeholder k) (placeholder j ++ rest) := by
  induction front with
  | nil => rw [List.nil_append, occurrences_nil, Nat.zero_add]
  | cons c front ih =>
    rw [List.cons_append]
    by_cases hhere : placeholder k <+: c :: front
    · have hthere : placeholder k <+: c :: (front ++ (placeholder j ++ rest)) :=
        hhere.trans (List.prefix_append (c :: front) _)
      rw [occurrences_cons_of_isPrefix hhere, occurrences_cons_of_isPrefix hthere, ih,
        Nat.add_assoc]
    · have hthere : ¬ placeholder k <+: c :: (front ++ (placeholder j ++ rest)) := by
        rw [placeholder_append]
        exact fun hprefix => hhere (placeholder_isPrefix_of_append hk hprefix)
      rw [occurrences_cons hhere, occurrences_cons hthere, ih]

/-- The text before a placeholder, the placeholder and the text behind it are searched apart. -/
lemma replaceAll_append_placeholder (hk : BraceFree k) (new front rest : List Char) :
    replaceAll (placeholder k) new (front ++ (placeholder k ++ rest)) =
      replaceAll (placeholder k) new front ++ (new ++ replaceAll (placeholder k) new rest) := by
  induction front using replaceAll_induction (placeholder_ne_nil k) with
  | nil => exact replaceAll_append new (placeholder_ne_nil k) rest
  | occurrence front ih =>
    rw [List.append_assoc, replaceAll_append new (placeholder_ne_nil k), ih,
      replaceAll_append new (placeholder_ne_nil k), List.append_assoc]
  | character c front hnone ih =>
    have hthere : ¬ placeholder k <+: c :: (front ++ (placeholder k ++ rest)) := by
      rw [placeholder_append]
      exact fun hprefix => hnone (placeholder_isPrefix_of_append hk hprefix)
    rw [List.cons_append, replaceAll_cons new hthere, ih, replaceAll_cons new hnone,
      List.cons_append]

lemma length_replaceAll_placeholder (hk : BraceFree k) (new cs : List Char) :
    (replaceAll (placeholder k) new cs).length +
        occurrences (placeholder k) cs * (placeholder k).length =
      cs.length + occurrences (placeholder k) cs * new.length := by
  induction cs using replaceAll_induction (placeholder_ne_nil k) with
  | nil => simp
  | occurrence cs ih =>
    rw [replaceAll_append new (placeholder_ne_nil k), occurrences_placeholder_self hk]
    simp only [List.length_append, Nat.add_mul, Nat.one_mul]
    omega
  | character c cs hnone ih =>
    rw [replaceAll_cons new hnone, occurrences_cons hnone]
    simp only [List.length_cons]
    omega

/-- A text that stays the same has no placeholder in it, if another text of the same length would
take its place. -/
lemma occurrences_eq_zero_of_replaceAll {new cs : List Char}
    (hlength : new.length = (placeholder k).length) (hne : new ≠ placeholder k)
    (h : replaceAll (placeholder k) new cs = cs) : occurrences (placeholder k) cs = 0 := by
  induction cs using replaceAll_induction (placeholder_ne_nil k) with
  | nil => rfl
  | occurrence cs ih =>
    rw [replaceAll_append new (placeholder_ne_nil k)] at h
    exact absurd (List.append_inj_left h hlength) hne
  | character c cs hnone ih =>
    rw [replaceAll_cons new hnone] at h
    rw [occurrences_cons hnone, ih (List.cons.inj h).2]

end Placeholders

/-! ## Filling a path at once -/

/-- The name in the placeholder that begins here. -/
def nameAt? : List Char → Option (List Char)
  | c :: rest =>
    if c == '\x7b' && (rest.dropWhile fun d => !isBrace d).head? == some '\x7d' then
      some (rest.takeWhile fun d => !isBrace d)
    else none
  | [] => none

lemma nameAt?_eq_some_iff {cs name : List Char} :
    nameAt? cs = some name ↔ BraceFree name ∧ placeholder name <+: cs := by
  constructor
  · intro h
    cases cs with
    | nil => exact absurd h (by simp [nameAt?])
    | cons c rest =>
      rw [nameAt?] at h
      split at h
      · next hhere =>
        obtain ⟨hopen, hclose⟩ : c = '\x7b' ∧
            (rest.dropWhile fun d => !isBrace d).head? = some '\x7d' := by
          simpa only [Bool.and_eq_true, beq_iff_eq] using hhere
        obtain ⟨tail, htail⟩ := List.head?_eq_some_iff.1 hclose
        obtain rfl : (rest.takeWhile fun d => !isBrace d) = name := Option.some.inj h
        refine ⟨fun d hd => by simpa using List.mem_takeWhile_imp hd, tail, ?_⟩
        rw [placeholder_append, ← htail, List.takeWhile_append_dropWhile, hopen]
      · exact absurd h (by simp)
  · rintro ⟨hname, tail, rfl⟩
    have hplain : ∀ d ∈ name, (!isBrace d) = true := by
      intro d hd
      rw [hname d hd]
      rfl
    have hclose : (!isBrace '\x7d') = false := by decide
    have htake : ((name ++ '\x7d' :: tail).takeWhile fun d => !isBrace d) = name := by
      rw [List.takeWhile_append_of_pos hplain, List.takeWhile_cons_of_neg (by decide),
        List.append_nil]
    have hdrop : ((name ++ '\x7d' :: tail).dropWhile fun d => !isBrace d) = '\x7d' :: tail := by
      rw [List.dropWhile_append_of_pos hplain, List.dropWhile_cons_of_neg (by decide)]
    rw [placeholder_append, nameAt?, hdrop, htake]
    rfl

/-- Puts the values of their names in the place of the placeholders of a path, read from left to
right. -/
def fillFrom (value : List Char → List Char) : Nat → List Char → List Char
  | _, [] => []
  | skip + 1, _ :: rest => fillFrom value skip rest
  | 0, c :: rest =>
    match nameAt? (c :: rest) with
    | some name => value name ++ fillFrom value (name.length + 1) rest
    | none => c :: fillFrom value 0 rest

/-- The path with the value of its name in the place of each placeholder. -/
def fill (value : List Char → List Char) (path : List Char) : List Char :=
  fillFrom value 0 path

/-- The value of a parameter, or the placeholder where there is no parameter of the name. -/
def valueOf (params : List (Value × Value)) (name : List Char) : List Char :=
  match params.find? (fun entry => entry.1.display.toList == name) with
  | some entry => entry.2.display.toList
  | none => placeholder name

/-- The path with the values of all parameters put in at once. -/
def fillAtOnce (path : List Char) (params : List (Value × Value)) : List Char :=
  fill (valueOf params) path

section Fill

variable {value : List Char → List Char}

lemma fillFrom_skip (value : List Char → List Char) (front rest : List Char) :
    fillFrom value front.length (front ++ rest) = fill value rest := by
  induction front with
  | nil => rfl
  | cons c front ih => exact ih

lemma fill_placeholder {name : List Char} (h : BraceFree name) (rest : List Char) :
    fill value (placeholder name ++ rest) = value name ++ fill value rest := by
  have hname : nameAt? (placeholder name ++ rest) = some name :=
    nameAt?_eq_some_iff.2 ⟨h, List.prefix_append _ _⟩
  have hskip := fillFrom_skip value (name ++ ['\x7d']) rest
  rw [List.length_append, List.append_assoc] at hskip
  rw [placeholder_append] at hname ⊢
  rw [fill, fillFrom, hname]
  exact congrArg _ hskip

lemma fill_cons {c : Char} {cs : List Char} (h : nameAt? (c :: cs) = none) :
    fill value (c :: cs) = c :: fill value cs := by
  rw [fill, fillFrom, h]
  rfl

end Fill

/-- Paths by their placeholders and the characters between them. -/
theorem fill_induction {P : List Char → Prop} (nil : P [])
    (slot : ∀ name rest, BraceFree name → P rest → P (placeholder name ++ rest))
    (character : ∀ c cs, nameAt? (c :: cs) = none → P cs → P (c :: cs)) (path : List Char) :
    P path := by
  induction hlength : path.length using Nat.strong_induction_on generalizing path with
  | _ n ih =>
    cases path with
    | nil => exact nil
    | cons c cs =>
      rcases hname : nameAt? (c :: cs) with _ | name
      · exact character c cs hname (ih cs.length (by simp at hlength; omega) cs rfl)
      · obtain ⟨hfree, rest, hrest⟩ := nameAt?_eq_some_iff.1 hname
        have hsum : (placeholder name).length + rest.length = n := by
          rw [← hlength, ← hrest, List.length_append]
        have hpos : 0 < (placeholder name).length :=
          List.length_pos_of_ne_nil (placeholder_ne_nil _)
        exact hrest ▸ slot name rest hfree (ih rest.length (by omega) rest rfl)

/-- Nothing changes where every placeholder is filled with itself. -/
lemma fill_self {value : List Char → List Char} (h : ∀ name, value name = placeholder name)
    (path : List Char) : fill value path = path := by
  induction path using fill_induction with
  | nil => rfl
  | slot name rest hname ih => rw [fill_placeholder hname, h, ih]
  | character c cs hnone ih => rw [fill_cons hnone, ih]

/-! ## One more parameter -/

section OneMore

variable {k : List Char} {f g : List Char → List Char}

lemma occurrences_character (hk : BraceFree k) {c : Char} {cs : List Char}
    (h : nameAt? (c :: cs) = none) :
    occurrences (placeholder k) (c :: cs) = occurrences (placeholder k) cs := by
  refine occurrences_cons fun hprefix => ?_
  rw [nameAt?_eq_some_iff.2 ⟨hk, hprefix⟩] at h
  exact absurd h (by simp)

/-- The placeholders that are not filled are still there. -/
lemma occurrences_le_fill (hk : BraceFree k) (hf : f k = placeholder k) (path : List Char) :
    occurrences (placeholder k) path ≤ occurrences (placeholder k) (fill f path) := by
  induction path using fill_induction with
  | nil => exact Nat.le_refl _
  | slot name rest hname ih =>
    rw [fill_placeholder hname]
    by_cases hk' : name = k
    · subst hk'
      rw [hf, occurrences_placeholder_self hk, occurrences_placeholder_self hk]
      omega
    · rw [occurrences_placeholder_of_ne hk hname hk']
      have hsum := add_occurrences_le (placeholder k) (f name) (fill f rest)
      omega
  | character c cs hnone ih =>
    rw [fill_cons hnone, occurrences_character hk hnone]
    have hsum := add_occurrences_le (placeholder k) [c] (fill f cs)
    rw [List.singleton_append] at hsum
    omega

/-- Filling other placeholders destroys no placeholder of the name. -/
lemma occurrences_fill_le (hk : BraceFree k)
    (h : ∀ name, f name = g name ∨ f name = placeholder name ∧ name ≠ k) (path front : List Char) :
    occurrences (placeholder k) (front ++ fill f path) ≤
      occurrences (placeholder k) (front ++ fill g path) := by
  induction path using fill_induction generalizing front with
  | nil => exact Nat.le_refl _
  | slot name rest hname ih =>
    rw [fill_placeholder hname, fill_placeholder hname]
    rcases h name with hsame | ⟨hempty, hne⟩
    · rw [hsame, ← List.append_assoc, ← List.append_assoc]
      exact ih (front ++ g name)
    · have hrest := ih []
      have hback := add_occurrences_le (placeholder k) (g name) (fill g rest)
      have hsum := add_occurrences_le (placeholder k) front (g name ++ fill g rest)
      rw [List.nil_append, List.nil_append] at hrest
      rw [hempty, occurrences_append_placeholder hk, occurrences_placeholder_of_ne hk hname hne]
      omega
  | character c cs hnone ih =>
    rw [fill_cons hnone, fill_cons hnone, List.append_cons, List.append_cons front c (fill g cs)]
    exact ih (front ++ [c])

variable {v : List Char} (hk : BraceFree k) (hf : f k = placeholder k) (hgk : g k = v)
  (hg : ∀ name, name ≠ k → g name = f name)
include hk hf hgk hg

/-- Where no new placeholder of the name was made, replacement fills the placeholders of the path.
The text in front collects what is passed over on the way to the next of them. -/
lemma replaceAll_fill {path : List Char} (front : List Char)
    (h : occurrences (placeholder k) (front ++ fill f path) = occurrences (placeholder k) path) :
    replaceAll (placeholder k) v (front ++ fill f path) = front ++ fill g path := by
  induction path using fill_induction generalizing front with
  | nil =>
    have hnone : occurrences (placeholder k) front = 0 := by
      rwa [fill, fillFrom, List.append_nil] at h
    rw [fill, fillFrom, List.append_nil, replaceAll_of_occurrences v hnone]
    exact (List.append_nil front).symm
  | slot name rest hname ih =>
    rw [fill_placeholder hname] at h ⊢
    rw [fill_placeholder hname]
    by_cases hk' : name = k
    · subst hk'
      -- nothing is found in front of the placeholder, so it is the next to be replaced
      have hleft := occurrences_le_fill hk hf rest
      rw [hf, occurrences_append_placeholder hk, occurrences_placeholder_self hk,
        occurrences_placeholder_self hk] at h
      have hfront : occurrences (placeholder name) front = 0 := by omega
      have hrest := ih [] (by rw [List.nil_append]; omega)
      rw [List.nil_append, List.nil_append] at hrest
      rw [hf, hgk, replaceAll_append_placeholder hk, replaceAll_of_occurrences v hfront, hrest]
    · rw [occurrences_placeholder_of_ne hk hname hk', ← List.append_assoc] at h
      rw [hg name hk', ← List.append_assoc, ← List.append_assoc]
      exact ih _ h
  | character c cs hnone ih =>
    rw [fill_cons hnone, occurrences_character hk hnone, List.append_cons] at h
    rw [fill_cons hnone, fill_cons hnone, List.append_cons, List.append_cons front c (fill g cs)]
    exact ih _ h

lemma length_fill (path : List Char) :
    (fill g path).length + occurrences (placeholder k) path * (placeholder k).length =
      (fill f path).length + occurrences (placeholder k) path * v.length := by
  induction path using fill_induction with
  | nil => simp [fill, fillFrom]
  | slot name rest hname ih =>
    rw [fill_placeholder hname, fill_placeholder hname]
    by_cases hk' : name = k
    · subst hk'
      rw [hf, hgk, occurrences_placeholder_self hk]
      simp only [List.length_append, Nat.add_mul, Nat.one_mul]
      omega
    · rw [hg name hk', occurrences_placeholder_of_ne hk hname hk']
      simp only [List.length_append]
      omega
  | character c cs hnone ih =>
    rw [fill_cons hnone, fill_cons hnone, occurrences_character hk hnone]
    simp only [List.length_cons]
    omega

/-- A value of the length of the placeholder: the texts are compared place by place. -/
lemma occurrences_of_replaceAll_fill (hlength : v.length = (placeholder k).length)
    (hne : v ≠ placeholder k) {path : List Char} (front : List Char)
    (h : replaceAll (placeholder k) v (front ++ fill f path) = front ++ fill g path) :
    occurrences (placeholder k) (front ++ fill f path) = occurrences (placeholder k) path := by
  induction path using fill_induction generalizing front with
  | nil =>
    rw [fill, fillFrom, List.append_nil] at h ⊢
    exact occurrences_eq_zero_of_replaceAll hlength hne (h.trans (List.append_nil front))
  | slot name rest hname ih =>
    rw [fill_placeholder hname] at h ⊢
    rw [fill_placeholder hname] at h
    by_cases hk' : name = k
    · subst hk'
      rw [hf, hgk, replaceAll_append_placeholder hk] at h
      -- the value is as long as the placeholder, so both sides can be cut at the same place
      have hfront : (replaceAll (placeholder name) v front).length = front.length := by
        have hsum := length_replaceAll_placeholder hk v front
        rw [hlength] at hsum
        omega
      obtain ⟨hsame, hback⟩ := List.append_inj h hfront
      have hrest := ih [] (List.append_cancel_left hback)
      rw [List.nil_append] at hrest
      rw [hf, occurrences_append_placeholder hk, occurrences_placeholder_self hk, hrest,
        occurrences_eq_zero_of_replaceAll hlength hne hsame, occurrences_placeholder_self hk,
        Nat.zero_add]
    · rw [hg name hk', ← List.append_assoc, ← List.append_assoc] at h
      rw [occurrences_placeholder_of_ne hk hname hk', ← List.append_assoc]
      exact ih _ h
  | character c cs hnone ih =>
    rw [fill_cons hnone, fill_cons hnone, List.append_cons,
      List.append_cons front c (fill g cs)] at h
    rw [fill_cons hnone, occurrences_character hk hnone, List.append_cons]
    exact ih _ h

/-- Replacement fills the placeholders of the path, and nothing else, only where no new placeholder
of the name was made. -/
lemma occurrences_eq_of_replaceAll {path : List Char} (hne : v ≠ placeholder k)
    (h : replaceAll (placeholder k) v (fill f path) = fill g path) :
    occurrences (placeholder k) (fill f path) = occurrences (placeholder k) path := by
  by_cases hlength : v.length = (placeholder k).length
  · exact occurrences_of_replaceAll_fill hk hf hgk hg hlength hne [] h
  · -- the new placeholders would change the length
    have hreplaced := length_replaceAll_placeholder hk v (fill f path)
    have hfilled := length_fill hk hf hgk hg path
    rw [h] at hreplaced
    have hdifference : ((occurrences (placeholder k) (fill f path) : ℤ) -
        occurrences (placeholder k) path) * (v.length - (placeholder k).length) = 0 := by
      zify at hreplaced hfilled
      linear_combination hfilled - hreplaced
    rcases mul_eq_zero.1 hdifference with hcount | hlength'
    · omega
    · omega

end OneMore

/-! ## Parameters in order -/

/-- The names of the parameters differ, and there are no braces in them. -/
structure PlainNames (params : List (Value × Value)) : Prop where
  distinct : (params.map fun entry => entry.1.display.toList).Nodup
  braceFree : ∀ entry ∈ params, BraceFree entry.1.display.toList

/-- The parameters of other names. -/
def others (params : List (Value × Value)) (entry : Value × Value) : List (Value × Value) :=
  params.filter fun other => other.1.display.toList != entry.1.display.toList

/-- The values of the other parameters make no new placeholder of this one, or this one leaves its
placeholders as they are. -/
def NotCompleted (path : List Char) (params : List (Value × Value)) (entry : Value × Value) :
    Prop :=
  entry.2.display.toList = placeholder entry.1.display.toList ∨
    occurrences (placeholder entry.1.display.toList) (fillAtOnce path (others params entry)) =
      occurrences (placeholder entry.1.display.toList) path

instance (path : List Char) (params : List (Value × Value)) (entry : Value × Value) :
    Decidable (NotCompleted path params entry) :=
  inferInstanceAs (Decidable (_ ∨ _))

section Values

variable {params chosen : List (Value × Value)} {entry : Value × Value}

lemma PlainNames.of_subperm (h : PlainNames params) (hchosen : chosen.Subperm params) :
    PlainNames chosen := by
  refine ⟨?_, fun entry hentry => h.braceFree entry (hchosen.subset hentry)⟩
  obtain ⟨part, hperm, hsublist⟩ := hchosen
  exact (hperm.map _).nodup_iff.1 (h.distinct.sublist (hsublist.map _))

lemma valueOf_of_mem (h : PlainNames params) (hentry : entry ∈ params) :
    valueOf params entry.1.display.toList = entry.2.display.toList := by
  have hfind : params.find? (fun other => other.1.display.toList == entry.1.display.toList) =
      some entry := by
    induction params with
    | nil => exact absurd hentry (by simp)
    | cons first params ih =>
      obtain ⟨hfirst, hdistinct⟩ := List.nodup_cons.1 h.distinct
      rcases List.mem_cons.1 hentry with rfl | hentry
      · simp
      · have hne : first.1.display.toList ≠ entry.1.display.toList := by
          intro hsame
          exact hfirst (List.mem_map.2 ⟨entry, hentry, hsame.symm⟩)
        rw [List.find?_cons_of_neg (by simpa using hne)]
        exact ih ⟨hdistinct, fun other hother => h.braceFree other (List.mem_cons_of_mem _ hother)⟩
          hentry
  rw [valueOf, hfind]

lemma valueOf_of_forall_ne {name : List Char}
    (h : ∀ entry ∈ params, entry.1.display.toList ≠ name) :
    valueOf params name = placeholder name := by
  have hfind : params.find? (fun entry => entry.1.display.toList == name) = none := by
    rw [List.find?_eq_none]
    exact fun entry hentry => by simpa using h entry hentry
  rw [valueOf, hfind]

/-- Some of the parameters give the same values, or leave the placeholder. -/
lemma valueOf_subset (h : PlainNames params) (hchosen : PlainNames chosen)
    (hsubset : chosen ⊆ params) (name : List Char) :
    valueOf chosen name = valueOf params name ∨ valueOf chosen name = placeholder name := by
  by_cases hname : ∃ entry ∈ chosen, entry.1.display.toList = name
  · obtain ⟨entry, hentry, rfl⟩ := hname
    rw [valueOf_of_mem hchosen hentry, valueOf_of_mem h (hsubset hentry)]
    exact Or.inl rfl
  · exact Or.inr (valueOf_of_forall_ne fun entry hentry hsame => hname ⟨entry, hentry, hsame⟩)

lemma valueOf_perm (h : PlainNames params) {order : List (Value × Value)}
    (horder : order.Perm params) : valueOf order = valueOf params := by
  funext name
  have hplain := h.of_subperm horder.subperm
  rcases valueOf_subset h hplain horder.subset name with hsame | hempty
  · exact hsame
  · rcases valueOf_subset hplain h horder.symm.subset name with hsame | hempty'
    · exact hsame.symm
    · rw [hempty, hempty']

lemma mem_others {other : Value × Value} : other ∈ others params entry ↔
    other ∈ params ∧ other.1.display.toList ≠ entry.1.display.toList := by
  simp [others]

lemma others_subperm : (others params entry).Subperm params :=
  List.filter_sublist.subperm

lemma others_append_subperm (hentry : entry ∈ params) :
    (others params entry ++ [entry]).Subperm params := by
  have hsame : [entry].Sublist (params.filter
      fun other => !(other.1.display.toList != entry.1.display.toList)) :=
    List.singleton_sublist.2 (by simpa using hentry)
  exact ((List.Sublist.refl _).append hsame).subperm.trans
    (List.filter_append_perm _ params).subperm

lemma valueOf_append_of_ne {name : List Char} (hne : name ≠ entry.1.display.toList) :
    valueOf (chosen ++ [entry]) name = valueOf chosen name := by
  have hentry : [entry].find? (fun other => other.1.display.toList == name) = none := by
    simpa using hne.symm
  rw [valueOf, valueOf, List.find?_append, hentry, Option.or_none]

end Values

lemma fillPath_append (path : List Char) (chosen : List (Value × Value)) (entry : Value × Value) :
    fillPath path (chosen ++ [entry]) =
      replaceAll (placeholder entry.1.display.toList) entry.2.display.toList
        (fillPath path chosen) := by
  rw [fillPath, List.foldl_append]
  rfl

section Orders

variable {path : List Char} {params chosen : List (Value × Value)} {entry : Value × Value}

/-- The last parameter is the only one of its name. -/
lemma forall_ne_of_plainNames_append (h : PlainNames (chosen ++ [entry])) :
    ∀ other ∈ chosen, other.1.display.toList ≠ entry.1.display.toList := by
  intro other hother hsame
  have hdistinct := h.distinct
  rw [List.map_append, List.nodup_append] at hdistinct
  exact hdistinct.2.2 _ (List.mem_map_of_mem hother) _ (by simp) hsame

/-- What the chosen parameters complete, all other parameters complete as well. -/
lemma occurrences_fillAtOnce (h : PlainNames params) (hchosen : (chosen ++ [entry]).Subperm params)
    (hnone : occurrences (placeholder entry.1.display.toList)
        (fillAtOnce path (others params entry)) =
      occurrences (placeholder entry.1.display.toList) path) :
    occurrences (placeholder entry.1.display.toList) (fillAtOnce path chosen) =
      occurrences (placeholder entry.1.display.toList) path := by
  have hnames := h.of_subperm hchosen
  have hne := forall_ne_of_plainNames_append hnames
  have hk : BraceFree entry.1.display.toList := hnames.braceFree entry (by simp)
  have hempty := valueOf_of_forall_ne hne
  have hpart : PlainNames chosen :=
    hnames.of_subperm (List.sublist_append_left chosen [entry]).subperm
  have hothers : chosen ⊆ others params entry := fun other hother =>
    mem_others.2 ⟨hchosen.subset (List.mem_append_left _ hother), hne other hother⟩
  -- fewer parameters give the same values, or leave the placeholder as it is
  have hvalues : ∀ name, valueOf chosen name = valueOf (others params entry) name ∨
      valueOf chosen name = placeholder name ∧ name ≠ entry.1.display.toList := by
    intro name
    by_cases hname : name = entry.1.display.toList
    · refine Or.inl ?_
      rw [hname, hempty, valueOf_of_forall_ne fun other hother => (mem_others.1 hother).2]
    · exact (valueOf_subset (h.of_subperm others_subperm) hpart hothers name).imp_right
        fun hempty => ⟨hempty, hname⟩
  have hleft := occurrences_le_fill hk hempty path
  have hright := occurrences_fill_le hk hvalues path []
  rw [List.nil_append, List.nil_append] at hright
  rw [fillAtOnce] at hnone ⊢
  omega

/-- The placeholders are filled as if at once, one more parameter at each step. -/
lemma fillPath_eq_fillAtOnce (h : PlainNames params)
    (hnone : ∀ entry ∈ params, NotCompleted path params entry) (hchosen : chosen.Subperm params) :
    fillPath path chosen = fillAtOnce path chosen := by
  induction chosen using List.reverseRecOn with
  | nil => exact (fill_self (fun name => rfl) path).symm
  | append_singleton chosen entry ih =>
    have hnames := h.of_subperm hchosen
    have hempty := valueOf_of_forall_ne (forall_ne_of_plainNames_append hnames)
    have hk : BraceFree entry.1.display.toList := hnames.braceFree entry (by simp)
    have hvalue : valueOf (chosen ++ [entry]) entry.1.display.toList = entry.2.display.toList :=
      valueOf_of_mem hnames (by simp)
    rw [fillPath_append, ih ((List.sublist_append_left chosen [entry]).subperm.trans hchosen)]
    rcases hnone entry (hchosen.subset (by simp)) with hsame | hcount
    · have hvalues : valueOf (chosen ++ [entry]) = valueOf chosen := by
        funext name
        by_cases hname : name = entry.1.display.toList
        · rw [hname, hvalue, hempty, hsame]
        · exact valueOf_append_of_ne hname
      rw [hsame, replaceAll_self (placeholder_ne_nil _), fillAtOnce, fillAtOnce, hvalues]
    · have hfill := occurrences_fillAtOnce h hchosen hcount
      exact replaceAll_fill hk hempty hvalue (fun name => valueOf_append_of_ne) [] hfill

end Orders

/-- **Filling at once.**  The placeholders of a path are filled as if at once, by whichever of the
parameters and in whatever order, exactly if the values of the other parameters make no new
placeholder of a parameter.  Then all orders of the parameters give the same address. -/
theorem fillPath_eq_fillAtOnce_iff {params : List (Value × Value)} (h : PlainNames params)
    (path : String) :
    ((∀ chosen, chosen.Subperm params →
        fillPath path.toList chosen = fillAtOnce path.toList chosen) ↔
      ∀ entry ∈ params, NotCompleted path.toList params entry) ∧
    ((∀ entry ∈ params, NotCompleted path.toList params entry) →
      ∀ baseUrl order, order.Perm params → buildUrl baseUrl path order =
        buildUrl baseUrl (String.ofList (fillAtOnce path.toList params)) []) := by
  refine ⟨⟨fun hfilled entry hentry => ?_, fun hnone chosen => fillPath_eq_fillAtOnce h hnone⟩,
    fun hnone baseUrl order horder => ?_⟩
  · by_cases hsame : entry.2.display.toList = placeholder entry.1.display.toList
    · exact Or.inl hsame
    -- the parameter comes behind all others
    have hlast := others_append_subperm hentry
    have hnames := h.of_subperm hlast
    have hstep := hfilled _ hlast
    rw [fillPath_append, hfilled _ others_subperm] at hstep
    exact Or.inr (occurrences_eq_of_replaceAll (h.braceFree entry hentry)
      (valueOf_of_forall_ne (forall_ne_of_plainNames_append hnames))
      (valueOf_of_mem hnames (by simp)) (fun name => valueOf_append_of_ne) hsame hstep)
  · have hfilled : fillPath path.toList order = fillAtOnce path.toList params := by
      rw [fillPath_eq_fillAtOnce h hnone horder.subperm, fillAtOnce, fillAtOnce,
        valueOf_perm h horder]
    rw [buildUrl, buildUrl, hfilled, String.toList_ofList]
    rfl

/-- A value that is no placeholder of another parameter stays in both orders; one that is makes the
placeholder of that parameter. -/
theorem fillPath_eq_fillAtOnce_iff_twoNames :
    let params : List (Value × Value) := [(.text "a", .text "\x7bc\x7d"), (.text "b", .text "1")]
    let completed : List (Value × Value) := [(.text "a", .text "\x7bb\x7d"), (.text "b", .text "1")]
    PlainNames params ∧
      (∀ entry ∈ params, NotCompleted "/\x7ba\x7d/\x7bb\x7d".toList params entry) ∧
      buildUrl "https://x/" "/\x7ba\x7d/\x7bb\x7d" params.reverse = "https://x/\x7bc\x7d/1" ∧
      PlainNames completed ∧ ∃ chosen, chosen.Subperm completed ∧
        fillPath "/\x7ba\x7d".toList chosen ≠ fillAtOnce "/\x7ba\x7d".toList chosen := by
  intro params completed
  have hparams : PlainNames params := ⟨by decide, by decide⟩
  have hnone : ∀ entry ∈ params, NotCompleted "/\x7ba\x7d/\x7bb\x7d".toList params entry := by
    decide
  have hcompleted : PlainNames completed := ⟨by decide, by decide⟩
  have hsome : ¬ ∀ entry ∈ completed, NotCompleted "/\x7ba\x7d".toList completed entry := by decide
  refine ⟨hparams, hnone, ?_, hcompleted, ?_⟩
  · rw [(fillPath_eq_fillAtOnce_iff hparams _).2 hnone _ _ (List.reverse_perm params)]
    decide
  · rw [← (fillPath_eq_fillAtOnce_iff hcompleted _).1] at hsome
    simpa using hsome

end TypedFetch.Http
