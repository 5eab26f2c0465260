import Mathlib.Data.List.Chain
import Mathlib.Data.List.DropRight
import TypedFetch.Proofs.Text.Cut
import TypedFetch.Proofs.Text.Identifier

/-!
# Names in snake case

A name in snake case has words of at least two small letters, joined by single underscores.  In
camel case its words follow one another, all but the first with a capital (`camelChars_joined`), and
in pascal case the first one too (`pascalChars_joined`).  So the capitals show where words begin,
and the name can be read back from both forms (`snakeChars_camelChars`, `snakeChars_pascalChars`).

A plain name stays as it is in camel case if its capitals stand behind small letters
(`camelChars_eq_self`).  Words of two letters leave no capital behind another one, so camel case of
camel case is nothing new (`camelChars_camelChars`).
-/

namespace TypedFetch.Text

lemma isAlphanum_of_isLower {c : Char} (h : c.isLower = true) : c.isAlphanum = true := by
  simp [Char.isAlphanum, isAlpha_of_isLower h]

lemma not_isUpper_of_isLower {c : Char} (h : c.isLower = true) : c.isUpper = false := by
  rw [isLower_iff_toNat] at h
  rw [Bool.eq_false_iff, Ne, isUpper_iff_toNat]
  omega

lemma isUpper_toUpper {c : Char} (h : c.isLower = true) : c.toUpper.isUpper = true :=
  forall_ascii (P := fun c => c.isLower = true → c.toUpper.isUpper = true) (by decide)
    (lt_of_isAlphanum (isAlphanum_of_isLower h)) h

lemma toLower_toUpper {c : Char} (h : c.isLower = true) : c.toUpper.toLower = c :=
  forall_ascii (P := fun c => c.isLower = true → c.toUpper.toLower = c) (by decide)
    (lt_of_isAlphanum (isAlphanum_of_isLower h)) h

lemma toLower_of_not_isUpper {c : Char} (h : c.isAlphanum = true) (hupper : c.isUpper = false) :
    c.toLower = c :=
  forall_ascii (P := fun c => c.isUpper = false → c.toLower = c) (by decide)
    (lt_of_isAlphanum h) hupper

lemma isUpper_ascii {c : Char} (h : c.isAlphanum = true) : isUpper c = c.isUpper := by
  simp [isUpper, lt_of_isAlphanum h]

lemma isLower_ascii {c : Char} (h : c.isAlphanum = true) : isLower c = c.isLower := by
  simp [isLower, lt_of_isAlphanum h]

end TypedFetch.Text

namespace TypedFetch.Naming

open TypedFetch.Text

/-! ## Words joined by underscores -/

/-- A word of at least two small letters. -/
def IsSmallWord (word : List Char) : Prop :=
  2 ≤ word.length ∧ ∀ c ∈ word, c.isLower = true

instance (word : List Char) : Decidable (IsSmallWord word) :=
  decidable_of_iff (2 ≤ word.length ∧ word.all Char.isLower = true)
    (and_congr_right fun _ => List.all_eq_true)

/-- Words of at least two small letters, joined by single underscores. -/
def IsSnakeCase (name : List Char) : Prop :=
  ∀ word ∈ cutAt '_' name, IsSmallWord word

instance (name : List Char) : Decidable (IsSnakeCase name) :=
  inferInstanceAs (Decidable (∀ word ∈ cutAt '_' name, IsSmallWord word))

/-- Words behind one another, a separator in front of each but the first. -/
def joined (sep : Char) (first : List Char) (others : List (List Char)) : List Char :=
  first ++ others.flatMap (sep :: ·)

lemma joined_cons (sep : Char) (first word : List Char) (others : List (List Char)) :
    joined sep first (word :: others) = first ++ sep :: joined sep word others := by
  simp [joined]

lemma intercalate_eq_joined (sep : Char) (first : List Char) (others : List (List Char)) :
    List.intercalate [sep] (first :: others) = joined sep first others := by
  induction others generalizing first with
  | nil => simp [joined]
  | cons word others ih =>
    rw [List.intercalate_cons_cons, ih, joined_cons, List.append_assoc, List.singleton_append]

/-- A name in snake case, taken apart into its words. -/
lemma IsSnakeCase.exists_words {name : List Char} (h : IsSnakeCase name) :
    ∃ first others, name = joined '_' first others ∧
      ∀ word ∈ first :: others, IsSmallWord word := by
  obtain ⟨first, others, hcut⟩ := List.exists_cons_of_ne_nil (cutAt_ne_nil '_' name)
  refine ⟨first, others, ?_, hcut ▸ h⟩
  rw [← intercalate_eq_joined, ← hcut, intercalate_cutAt]

lemma IsSmallWord.exists_letters {word : List Char} (h : IsSmallWord word) :
    ∃ c d rest, word = c :: d :: rest ∧ c.isLower = true ∧ d.isLower = true ∧
      ∀ e ∈ rest, e.isLower = true := by
  obtain ⟨hlength, hsmall⟩ := h
  match word, hlength with
  | c :: d :: rest, _ =>
    exact ⟨c, d, rest, rfl, hsmall c (by simp), hsmall d (by simp),
      fun e he => hsmall e (by simp [he])⟩

section Words

variable {first : List Char} {others : List (List Char)}
  (hwords : ∀ word ∈ first :: others, IsSmallWord word)

include hwords

lemma mem_joined {sep c : Char} (hc : c ∈ joined sep first others) :
    c.isLower = true ∨ c = sep := by
  rcases List.mem_append.1 hc with hc | hc
  · exact Or.inl ((hwords first (by simp)).2 c hc)
  · obtain ⟨word, hword, hc⟩ := List.mem_flatMap.1 hc
    rcases List.mem_cons.1 hc with rfl | hc
    · exact Or.inr rfl
    · exact Or.inl ((hwords word (by simp [hword])).2 c hc)

lemma isLower_head? {sep : Char} : ∀ c ∈ (joined sep first others).head?, c.isLower = true := by
  obtain ⟨c, d, rest, rfl, hc, -, -⟩ := (hwords first (by simp)).exists_letters
  simpa [joined] using hc

lemma isLower_getLast? {sep : Char} :
    ∀ c ∈ (joined sep first others).getLast?, c.isLower = true := by
  induction others generalizing first with
  | nil =>
    intro c hc
    rw [joined, List.flatMap_nil, List.append_nil] at hc
    exact (hwords first (by simp)).2 c (List.mem_of_getLast? hc)
  | cons word others ih =>
    have hrest := fun w hw => hwords w (List.mem_cons_of_mem first hw)
    obtain ⟨c, d, rest, rfl, -, -, -⟩ := (hrest word (by simp)).exists_letters
    have hne : joined sep (c :: d :: rest) others ≠ [] := by simp [joined]
    rw [joined_cons, List.getLast?_append_cons, List.getLast?_cons_of_ne_nil hne]
    exact ih hrest

end Words

/-! ## The words of a name -/

lemma joinDelimiters_append {word : List Char} (h : ∀ c ∈ word, c.isAlphanum = true)
    (rest : List Char) : joinDelimiters (word ++ rest) = word ++ joinDelimiters rest := by
  induction word with
  | nil => rfl
  | cons c word ih =>
    obtain ⟨hc, hword⟩ := List.forall_mem_cons.1 h
    rw [List.cons_append, joinDelimiters_cons (not_isDelimiter hc), ih hword, List.cons_append]

/-- A name is not changed but for its delimiters if it begins and ends with a letter, has no
punctuation and is not in capitals throughout. -/
lemma words_eq {name : List Char} (hpunctuation : ∀ c ∈ name, isPunctuation c = false)
    (hhead : ∀ c ∈ name.head?, isDelimiter c = false)
    (hlast : ∀ c ∈ name.getLast?, isDelimiter c = false)
    (hsmall : ∃ c ∈ joinDelimiters name, c.isLower = true) : words name = joinDelimiters name := by
  have hfront : name.dropWhile isDelimiter = name := by
    cases name with
    | nil => rfl
    | cons c name => rw [List.dropWhile_cons, hhead c rfl]; rfl
  have hback : dropEndWhile isDelimiter name = name := by
    refine List.rdropWhile_eq_self_iff.2 fun hne => ?_
    simp [hlast _ (List.getLast?_eq_some_getLast hne)]
  have hfilter : name.filter (fun c => !isPunctuation c) = name := by
    rw [List.filter_eq_self]
    exact fun c hc => by rw [hpunctuation c hc]; rfl
  have hcapitals : isAllUpper (joinDelimiters name) = false := by
    obtain ⟨c, hc, hlower⟩ := hsmall
    have hascii : isLower c = true := (isLower_ascii (isAlphanum_of_isLower hlower)).trans hlower
    have hany : (joinDelimiters name).any (fun c => isLower c || isTitle c) = true :=
      List.any_eq_true.2 ⟨c, hc, by simp [hascii]⟩
    simp [isAllUpper, hany]
  simp [words, trimWhile, hfront, hback, hfilter, hcapitals]

/-- The words of a name in snake case are divided by spaces. -/
lemma words_joined {first : List Char} {others : List (List Char)}
    (hwords : ∀ word ∈ first :: others, IsSmallWord word) :
    words (joined '_' first others) = joined ' ' first others := by
  -- each delimiter stands alone between two letters, so it becomes one space
  have hjoin : joinDelimiters (joined '_' first others) = joined ' ' first others := by
    induction others generalizing first with
    | nil =>
      have hfirst := fun c hc => isAlphanum_of_isLower ((hwords first (by simp)).2 c hc)
      simpa [joined, joinDelimiters] using joinDelimiters_append hfirst []
    | cons word others ih =>
      have hfirst := fun c hc => isAlphanum_of_isLower ((hwords first (by simp)).2 c hc)
      have hrest := fun w hw => hwords w (List.mem_cons_of_mem first hw)
      obtain ⟨c, d, rest, rfl, hc, -, -⟩ := (hrest word (by simp)).exists_letters
      have hc' : isDelimiter c = false := not_isDelimiter (isAlphanum_of_isLower hc)
      have hstep : joinDelimiters ('_' :: joined '_' (c :: d :: rest) others) =
          ' ' :: joinDelimiters (joined '_' (c :: d :: rest) others) := by
        simp [joined, joinDelimiters, hc', show isDelimiter '_' = true from rfl]
      rw [joined_cons, joinDelimiters_append hfirst, hstep, ih hrest, joined_cons]
  have hletters : ∀ c ∈ joined '_' first others, isPunctuation c = false := fun c hc =>
    not_isPunctuation ((mem_joined hwords hc).imp_left isAlphanum_of_isLower)
  rw [words_eq hletters, hjoin]
  · exact fun c hc => not_isDelimiter (isAlphanum_of_isLower (isLower_head? hwords c hc))
  · exact fun c hc => not_isDelimiter (isAlphanum_of_isLower (isLower_getLast? hwords c hc))
  · obtain ⟨c, d, rest, rfl, hc, -, -⟩ := (hwords first (by simp)).exists_letters
    rw [hjoin]
    exact ⟨c, by simp [joined], hc⟩

/-! ## Writing words -/

/-- The word with a capital. -/
def capitalised : List Char → List Char
  | [] => []
  | c :: rest => c.toUpper :: rest

lemma write_cons (style : Style) (before : Option Char) {c : Char} (hc : c.isAlphanum = true)
    (rest : List Char) :
    style.write before (c :: rest) =
      (if c.isUpper && style.keepsCapitalAfter before then c else c.toLower) ::
        style.write (some c) rest := by
  have hspace : c ≠ ' ' := by
    rintro rfl
    exact absurd hc (by decide)
  have hlower : lower [c] = [c.toLower] := lower_ascii (by simpa using lt_of_isAlphanum hc)
  rw [write_of_ne_space hspace, isUpper_ascii hc, hlower]
  split <;> rfl

/-- Small letters stay. -/
lemma write_small {style : Style} {word rest out : List Char}
    (hword : ∀ c ∈ word, c.isLower = true) (hrest : ∀ before, style.write before rest = out)
    (before : Option Char) : style.write before (word ++ rest) = word ++ out := by
  induction word generalizing before with
  | nil => exact hrest before
  | cons c word ih =>
    obtain ⟨hc, hword⟩ := List.forall_mem_cons.1 hword
    have hnum := isAlphanum_of_isLower hc
    have hsame := toLower_of_not_isUpper hnum (not_isUpper_of_isLower hc)
    rw [List.cons_append, write_cons style before hnum, ih hword, not_isUpper_of_isLower hc, hsame]
    rfl

/-- Behind a space, words begin with capitals, and the spaces go. -/
lemma write_words {others : List (List Char)} (style : Style)
    (hwords : ∀ word ∈ others, IsSmallWord word) (before : Option Char) :
    style.write before (others.flatMap (' ' :: ·)) = others.flatMap capitalised := by
  induction others generalizing before with
  | nil => rfl
  | cons word others ih =>
    obtain ⟨hword, hothers⟩ := List.forall_mem_cons.1 hwords
    obtain ⟨c, d, rest, rfl, hc, hd, hrest⟩ := hword.exists_letters
    have hsmall : ∀ e ∈ d :: rest, e.isLower = true := List.forall_mem_cons.2 ⟨hd, hrest⟩
    rw [List.flatMap_cons, List.flatMap_cons, List.cons_append, List.cons_append, write_space_cons,
      upperOf_ascii (lt_of_isAlphanum (isAlphanum_of_isLower hc)), write_small hsmall (ih hothers)]
    rfl

section Words

variable {first : List Char} {others : List (List Char)}
  (hwords : ∀ word ∈ first :: others, IsSmallWord word)

include hwords

/-- In camel case all words but the first have capitals. -/
lemma camelChars_joined :
    camelChars (joined '_' first others) = first ++ others.flatMap capitalised := by
  obtain ⟨hfirst, hothers⟩ := List.forall_mem_cons.1 hwords
  rw [camelChars, words_joined hwords, joined]
  exact write_small hfirst.2 (write_words .camel hothers) none

/-- In pascal case all words have capitals. -/
lemma pascalChars_joined :
    pascalChars (joined '_' first others) = (first :: others).flatMap capitalised := by
  obtain ⟨hfirst, hothers⟩ := List.forall_mem_cons.1 hwords
  obtain ⟨c, d, rest, rfl, hc, hd, hrest⟩ := hfirst.exists_letters
  have hsmall : ∀ e ∈ d :: rest, e.isLower = true := List.forall_mem_cons.2 ⟨hd, hrest⟩
  rw [pascalChars, words_joined hwords, joined, List.cons_append]
  simp only [upperOf_ascii (lt_of_isAlphanum (isAlphanum_of_isLower hc)),
    write_small hsmall (write_words .pascal hothers) none]
  rfl

end Words

/-! ## Reading names back -/

/-- The name in snake case, every capital being taken for the start of a word. -/
def snakeChars (name : List Char) : List Char :=
  name.flatMap fun c => if c.isUpper then ['_', c.toLower] else [c]

lemma snakeChars_append (front back : List Char) :
    snakeChars (front ++ back) = snakeChars front ++ snakeChars back :=
  List.flatMap_append

lemma snakeChars_small {word : List Char} (h : ∀ c ∈ word, c.isLower = true) :
    snakeChars word = word := by
  induction word with
  | nil => rfl
  | cons c word ih =>
    obtain ⟨hc, hword⟩ := List.forall_mem_cons.1 h
    rw [← List.singleton_append, snakeChars_append, ih hword]
    simp [snakeChars, not_isUpper_of_isLower hc]

lemma snakeChars_capitalised {words : List (List Char)} (h : ∀ word ∈ words, IsSmallWord word) :
    snakeChars (words.flatMap capitalised) = words.flatMap ('_' :: ·) := by
  induction words with
  | nil => rfl
  | cons word words ih =>
    obtain ⟨hword, hwords⟩ := List.forall_mem_cons.1 h
    obtain ⟨c, d, rest, rfl, hc, hd, hrest⟩ := hword.exists_letters
    have hsmall : snakeChars (d :: rest) = d :: rest :=
      snakeChars_small (List.forall_mem_cons.2 ⟨hd, hrest⟩)
    have hcapital : snakeChars [c.toUpper] = ['_', c] := by
      simp [snakeChars, isUpper_toUpper hc, toLower_toUpper hc]
    rw [List.flatMap_cons, List.flatMap_cons, snakeChars_append, ih hwords, capitalised,
      ← List.singleton_append, snakeChars_append, hsmall, hcapital]
    rfl

/-- Camel case loses nothing of a name in snake case. -/
lemma snakeChars_camelChars {name : List Char} (h : IsSnakeCase name) :
    snakeChars (camelChars name) = name := by
  obtain ⟨first, others, rfl, hwords⟩ := h.exists_words
  obtain ⟨hfirst, hothers⟩ := List.forall_mem_cons.1 hwords
  rw [camelChars_joined hwords, snakeChars_append, snakeChars_small hfirst.2,
    snakeChars_capitalised hothers, joined]

/-- Pascal case loses nothing of a name in snake case. -/
lemma snakeChars_pascalChars {name : List Char} (h : IsSnakeCase name) :
    snakeChars (pascalChars name) = '_' :: name := by
  obtain ⟨first, others, rfl, hwords⟩ := h.exists_words
  rw [pascalChars_joined hwords, snakeChars_capitalised hwords, List.flatMap_cons, joined,
    List.cons_append]

/-! ## Names that are in camel case -/

/-- Small letters and digits may stand anywhere, capitals behind small letters only. -/
def MayFollow (before c : Char) : Prop :=
  c.isUpper = true → before.isLower = true

lemma mayFollow_of_isLower {before c : Char} (h : c.isLower = true) : MayFollow before c :=
  fun hupper => absurd hupper (by simp [not_isUpper_of_isLower h])

/-- Letters and digits stay if capitals stand behind small letters only. -/
lemma write_eq_self {before : Char} {rest : List Char} (hrest : ∀ c ∈ rest, c.isAlphanum = true)
    (hcapitals : (before :: rest).IsChain MayFollow) :
    Style.camel.write (some before) rest = rest := by
  induction rest generalizing before with
  | nil => rfl
  | cons c rest ih =>
    obtain ⟨hc, hrest⟩ := List.forall_mem_cons.1 hrest
    obtain ⟨hfollow, hcapitals⟩ := List.isChain_cons_cons.1 hcapitals
    rw [write_cons .camel _ hc, ih hrest hcapitals]
    by_cases hupper : c.isUpper = true
    · have hsmall := hfollow hupper
      have hnum := isAlphanum_of_isLower hsmall
      have hletter : isLetter before = true := by
        simp [isLetter, lt_of_isAlphanum hnum, isAlpha_of_isLower hsmall]
      simp [hupper, Style.keepsCapitalAfter, hletter, isLower_ascii hnum, hsmall]
    · have hsame := toLower_of_not_isUpper hc (by simpa using hupper)
      simp [hupper, hsame]

/-- A plain name whose capitals stand behind small letters is in camel case. -/
lemma camelChars_eq_self {name : List Char} (hplain : isPlainName name = true)
    (hcapitals : name.IsChain MayFollow) : camelChars name = name := by
  obtain ⟨c, rest, rfl⟩ : ∃ c rest, name = c :: rest := by
    cases name with
    | nil => exact absurd hplain (by simp [isPlainName])
    | cons c rest => exact ⟨c, rest, rfl⟩
  obtain ⟨hc, hrest⟩ : c.isLower = true ∧ ∀ d ∈ rest, d.isAlphanum = true := by
    simpa [isPlainName] using hplain
  have hnum := isAlphanum_of_isLower hc
  have hall : ∀ d ∈ c :: rest, d.isAlphanum = true := List.forall_mem_cons.2 ⟨hnum, hrest⟩
  have hjoin : joinDelimiters (c :: rest) = c :: rest := by
    simpa [joinDelimiters] using joinDelimiters_append hall []
  have hwords : words (c :: rest) = c :: rest := by
    rw [words_eq, hjoin]
    · exact fun d hd => not_isPunctuation (Or.inl (hall d hd))
    · exact fun d hd => not_isDelimiter (hall d (List.mem_of_mem_head? hd))
    · exact fun d hd => not_isDelimiter (hall d (List.mem_of_getLast? hd))
    · exact ⟨c, by simp [hjoin], hc⟩
  have hsame := toLower_of_not_isUpper hnum (not_isUpper_of_isLower hc)
  rw [camelChars, hwords, write_cons .camel _ hnum, write_eq_self hrest hcapitals,
    not_isUpper_of_isLower hc, hsame]
  rfl

lemma isChain_small {before : Char} {word rest : List Char}
    (hword : ∀ c ∈ word, c.isLower = true) (hbefore : before.isLower = true)
    (hrest : ∀ c : Char, c.isLower = true → (c :: rest).IsChain MayFollow) :
    (before :: (word ++ rest)).IsChain MayFollow := by
  induction word generalizing before with
  | nil => exact hrest before hbefore
  | cons c word ih =>
    obtain ⟨hc, hword⟩ := List.forall_mem_cons.1 hword
    exact List.isChain_cons_cons.2 ⟨mayFollow_of_isLower hc, ih hword hc⟩

/-- Words of at least two letters end with small letters, also when they begin with capitals. -/
lemma isChain_capitalised {words : List (List Char)} (h : ∀ word ∈ words, IsSmallWord word)
    {before : Char} (hbefore : before.isLower = true) :
    (before :: words.flatMap capitalised).IsChain MayFollow := by
  induction words generalizing before with
  | nil => exact List.isChain_singleton _
  | cons word words ih =>
    obtain ⟨hword, hwords⟩ := List.forall_mem_cons.1 h
    obtain ⟨c, d, rest, rfl, -, hd, hrest⟩ := hword.exists_letters
    have htail : (d :: (rest ++ words.flatMap capitalised)).IsChain MayFollow :=
      isChain_small hrest hd fun _ hc => ih hwords hc
    exact List.isChain_cons_cons.2 ⟨fun _ => hbefore,
      List.isChain_cons_cons.2 ⟨mayFollow_of_isLower hd, htail⟩⟩

lemma IsSnakeCase.isIdentifier {name : List Char} (h : IsSnakeCase name) :
    isIdentifier name = true := by
  obtain ⟨first, others, rfl, hwords⟩ := h.exists_words
  have hall : ∀ c ∈ joined '_' first others, c.isAlphanum = true ∨ c = '_' := fun c hc =>
    (mem_joined hwords hc).imp_left isAlphanum_of_isLower
  obtain ⟨c, d, rest, rfl, hc, -, -⟩ := (hwords first (by simp)).exists_letters
  have hcons : joined '_' (c :: d :: rest) others = c :: joined '_' (d :: rest) others := rfl
  rw [hcons] at hall ⊢
  simp only [Naming.isIdentifier, isAlpha_of_isLower hc, Bool.true_and, List.all_eq_true]
  exact fun e he => by simpa using hall e (List.mem_cons_of_mem c he)

/-- Camel case of camel case is camel case. -/
lemma camelChars_camelChars {name : List Char} (h : IsSnakeCase name) :
    camelChars (camelChars name) = camelChars name := by
  refine camelChars_eq_self (isPlainName_camelChars h.isIdentifier) ?_
  obtain ⟨first, others, rfl, hwords⟩ := h.exists_words
  obtain ⟨hfirst, hothers⟩ := List.forall_mem_cons.1 hwords
  obtain ⟨c, d, rest, rfl, hc, hd, hrest⟩ := hfirst.exists_letters
  rw [camelChars_joined hwords]
  exact isChain_small (List.forall_mem_cons.2 ⟨hd, hrest⟩) hc fun _ => isChain_capitalised hothers

end TypedFetch.Naming
