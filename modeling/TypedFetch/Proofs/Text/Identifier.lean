import Mathlib.Data.List.Basic
import TypedFetch.Naming

/-!
# Identifiers in camel case

An identifier is an ASCII letter followed by letters, digits and underscores.  In camel case it
keeps its letters and digits, loses its underscores and starts with a small letter, so it is a name
in every language that has ASCII names.
-/

namespace TypedFetch.Text

/-! ## ASCII characters -/

lemma isLower_iff_toNat {c : Char} : c.isLower = true ↔ 97 ≤ c.toNat ∧ c.toNat ≤ 122 := by
  show (decide (97 ≤ c.val) && decide (c.val ≤ 122)) = true ↔ _
  simp [UInt32.le_iff_toNat_le, ← Char.toNat_val]

lemma isUpper_iff_toNat {c : Char} : c.isUpper = true ↔ 65 ≤ c.toNat ∧ c.toNat ≤ 90 := by
  show decide (65 ≤ c.val ∧ c.val ≤ 90) = true ↔ _
  simp [UInt32.le_iff_toNat_le, ← Char.toNat_val]

lemma isDigit_iff_toNat {c : Char} : c.isDigit = true ↔ 48 ≤ c.toNat ∧ c.toNat ≤ 57 := by
  simp [Char.isDigit, UInt32.le_iff_toNat_le, ← Char.toNat_val]

lemma isAlpha_iff_toNat {c : Char} :
    c.isAlpha = true ↔
      (65 ≤ c.toNat ∧ c.toNat ≤ 90) ∨ (97 ≤ c.toNat ∧ c.toNat ≤ 122) := by
  show (c.isUpper || c.isLower) = true ↔ _
  rw [Bool.or_eq_true, isUpper_iff_toNat, isLower_iff_toNat]

lemma isAlpha_of_isLower {c : Char} (h : c.isLower = true) : c.isAlpha = true :=
  Bool.or_eq_true_iff.2 (Or.inr h)

lemma isAlphanum_iff_toNat {c : Char} :
    c.isAlphanum = true ↔
      ((65 ≤ c.toNat ∧ c.toNat ≤ 90) ∨ (97 ≤ c.toNat ∧ c.toNat ≤ 122)) ∨
        (48 ≤ c.toNat ∧ c.toNat ≤ 57) := by
  rw [Char.isAlphanum, Bool.or_eq_true, isAlpha_iff_toNat, isDigit_iff_toNat]

lemma lt_of_isAlphanum {c : Char} (h : c.isAlphanum = true) : c.toNat < 128 := by
  rw [isAlphanum_iff_toNat] at h
  omega

/-- A fact about ASCII characters is checked character by character. -/
lemma forall_ascii {P : Char → Prop} (h : ∀ n, n < 128 → P (Char.ofNat n)) {c : Char}
    (hc : c.toNat < 128) : P c := by
  have := h c.toNat hc
  rwa [Char.ofNat_toNat] at this

lemma isAlphanum_toUpper {c : Char} (h : c.isAlphanum = true) : c.toUpper.isAlphanum = true :=
  forall_ascii (P := fun c => c.isAlphanum = true → c.toUpper.isAlphanum = true) (by decide)
    (lt_of_isAlphanum h) h

lemma isAlphanum_toLower {c : Char} (h : c.isAlphanum = true) : c.toLower.isAlphanum = true :=
  forall_ascii (P := fun c => c.isAlphanum = true → c.toLower.isAlphanum = true) (by decide)
    (lt_of_isAlphanum h) h

lemma isLower_toLower {c : Char} (h : c.isAlpha = true) : c.toLower.isLower = true := by
  have hc : c.toNat < 128 := by
    rw [isAlpha_iff_toNat] at h
    omega
  exact forall_ascii (P := fun c => c.isAlpha = true → c.toLower.isLower = true) (by decide) hc h

lemma upperOf_ascii {c : Char} (h : c.toNat < 128) : upperOf c = [c.toUpper] := by
  simp [upperOf, h]

lemma lowerFrom_ascii (before : List Char) {cs : List Char} (h : ∀ c ∈ cs, c.toNat < 128) :
    lowerFrom before cs = cs.map Char.toLower := by
  induction cs generalizing before with
  | nil => rfl
  | cons c cs ih =>
    have hc := h c (by simp)
    have hsigma : (c.toNat == 931) = false := by
      rw [beq_eq_false_iff_ne]
      omega
    rw [lowerFrom, ih _ fun d hd => h d (by simp [hd])]
    simp [hsigma, lowerOf, hc]

lemma lower_ascii {cs : List Char} (h : ∀ c ∈ cs, c.toNat < 128) : lower cs = cs.map Char.toLower :=
  lowerFrom_ascii [] h

end TypedFetch.Text

namespace TypedFetch.Naming

open TypedFetch.Text

/-! ## Words -/

/-- Letters and digits with spaces between them, of which no two are neighbours. -/
def isSpaced : List Char → Bool
  | [] => true
  | [c] => c.isAlphanum || c == ' '
  | c :: d :: cs => (c.isAlphanum || (c == ' ' && d.isAlphanum)) && isSpaced (d :: cs)

/-- An ASCII letter, and letters, digits and underscores after it. -/
def isIdentifier : List Char → Bool
  | [] => false
  | c :: cs => c.isAlpha && cs.all fun d => d.isAlphanum || d == '_'

/-- A small ASCII letter, and letters and digits after it. -/
def isPlainName : List Char → Bool
  | [] => false
  | c :: cs => c.isLower && cs.all Char.isAlphanum

lemma isSpaced_singleton {c : Char} : isSpaced [c] = true ↔ c.isAlphanum = true ∨ c = ' ' := by
  rw [show isSpaced [c] = (c.isAlphanum || c == ' ') from rfl]
  simp

lemma isSpaced_cons_cons {c d : Char} {cs : List Char} : isSpaced (c :: d :: cs) = true ↔
    (c.isAlphanum = true ∨ c = ' ' ∧ d.isAlphanum = true) ∧ isSpaced (d :: cs) = true := by
  rw [show isSpaced (c :: d :: cs) =
    ((c.isAlphanum || (c == ' ' && d.isAlphanum)) && isSpaced (d :: cs)) from rfl]
  simp

lemma isSpaced_cons_alphanum {c : Char} {cs : List Char} (hc : c.isAlphanum = true)
    (h : isSpaced cs = true) : isSpaced (c :: cs) = true := by
  cases cs with
  | nil => exact isSpaced_singleton.2 (Or.inl hc)
  | cons d cs => exact isSpaced_cons_cons.2 ⟨Or.inl hc, h⟩

lemma isSpaced_tail {c : Char} {cs : List Char} (h : isSpaced (c :: cs) = true) :
    isSpaced cs = true := by
  cases cs with
  | nil => rfl
  | cons d cs => exact (isSpaced_cons_cons.1 h).2

/-- After a space comes a letter or a digit. -/
lemma isAlphanum_of_space {c : Char} {cs : List Char} (h : isSpaced (' ' :: c :: cs) = true) :
    c.isAlphanum = true := by
  rcases (isSpaced_cons_cons.1 h).1 with h | h
  · exact absurd h (by decide)
  · exact h.2

lemma isAlphanum_or_space {cs : List Char} (h : isSpaced cs = true) :
    ∀ c ∈ cs, c.isAlphanum = true ∨ c = ' ' := by
  induction cs with
  | nil => simp
  | cons c cs ih =>
    intro d hd
    rcases List.mem_cons.1 hd with rfl | hd
    · cases cs with
      | nil => exact isSpaced_singleton.1 h
      | cons e cs => exact (isSpaced_cons_cons.1 h).1.imp_right And.left
    · exact ih (isSpaced_tail h) d hd

lemma not_isDelimiter {c : Char} (h : c.isAlphanum = true) : isDelimiter c = false := by
  simp only [isDelimiter, Bool.or_eq_false_iff, beq_eq_false_iff_ne]
  refine ⟨⟨?_, ?_⟩, ?_⟩ <;> rintro rfl <;> exact absurd h (by decide)

lemma joinDelimiters_cons {c : Char} (h : isDelimiter c = false) (cs : List Char) :
    joinDelimiters (c :: cs) = c :: joinDelimiters cs := by
  cases cs <;> simp [joinDelimiters, h]

/-- Runs of underscores become single spaces. -/
lemma isSpaced_joinDelimiters {cs : List Char}
    (h : ∀ c ∈ cs, c.isAlphanum = true ∨ c = '_') : isSpaced (joinDelimiters cs) = true := by
  induction cs with
  | nil => rfl
  | cons c cs ih =>
    have hrest := ih fun d hd => h d (by simp [hd])
    rcases h c (by simp) with hc | rfl
    · rw [joinDelimiters_cons (not_isDelimiter hc)]
      exact isSpaced_cons_alphanum hc hrest
    · cases cs with
      | nil => rfl
      | cons d cs =>
        rcases h d (by simp) with hd | rfl
        · -- a single underscore: its space is followed by a letter or a digit
          have hstep : joinDelimiters ('_' :: d :: cs) = ' ' :: joinDelimiters (d :: cs) := by
            simp [joinDelimiters, not_isDelimiter hd, show isDelimiter '_' = true from rfl]
          rw [hstep]
          rw [joinDelimiters_cons (not_isDelimiter hd)] at hrest ⊢
          exact isSpaced_cons_cons.2 ⟨Or.inr ⟨rfl, hd⟩, hrest⟩
        · exact hrest

lemma isSpaced_map_toLower {cs : List Char} (h : isSpaced cs = true) :
    isSpaced (cs.map Char.toLower) = true := by
  induction cs with
  | nil => rfl
  | cons c cs ih =>
    have hrest := ih (isSpaced_tail h)
    rcases isAlphanum_or_space h c (by simp) with hc | rfl
    · exact isSpaced_cons_alphanum (isAlphanum_toLower hc) hrest
    · cases cs with
      | nil => rfl
      | cons d cs =>
        have hd : d.isAlphanum = true := isAlphanum_of_space h
        exact isSpaced_cons_cons.2 ⟨Or.inr ⟨rfl, isAlphanum_toLower hd⟩, hrest⟩

/-- A space goes, and the character behind it becomes a capital. -/
lemma write_space_cons (style : Style) (before : Option Char) (c : Char) (rest : List Char) :
    style.write before (' ' :: c :: rest) = upperOf c ++ style.write (some ' ') rest :=
  rfl

lemma write_of_ne_space {style : Style} {before : Option Char} {c : Char} (h : c ≠ ' ')
    (rest : List Char) :
    style.write before (c :: rest) =
      (if isUpper c && style.keepsCapitalAfter before then [c] else lower [c]) ++
        style.write (some c) rest := by
  rw [Style.write]
  · exact fun hspace => absurd hspace h
  · exact fun _ _ hspace => absurd hspace h

/-- Written in camel case, spaced letters and digits lose their spaces. -/
lemma isAlphanum_write {before : Option Char} {cs : List Char} (h : isSpaced cs = true) :
    ∀ c ∈ Style.camel.write before cs, c.isAlphanum = true := by
  fun_induction Style.write Style.camel before cs with
  | case1 => simp
  | case2 => simp
  | case3 before c rest ih =>
    -- a space goes, and the character after it becomes a capital
    have hc : c.isAlphanum = true := isAlphanum_of_space h
    rw [upperOf_ascii (lt_of_isAlphanum hc)]
    intro d hd
    rcases List.mem_cons.1 hd with rfl | hd
    · exact isAlphanum_toUpper hc
    · exact ih (isSpaced_tail (isSpaced_tail h)) d hd
  | case4 before c rest hempty hnext ih =>
    -- any other character stays or becomes a small letter
    have hc : c.isAlphanum = true := by
      rcases isAlphanum_or_space h c (by simp) with hc | rfl
      · exact hc
      · cases rest with
        | nil => exact absurd rfl (hempty rfl)
        | cons d rest => exact absurd rfl (hnext d rest rfl)
    intro d hd
    rcases List.mem_append.1 hd with hd | hd
    · rw [lower_ascii (by simpa using lt_of_isAlphanum hc)] at hd
      split at hd
      · obtain rfl := List.mem_singleton.1 hd
        exact hc
      · obtain rfl : d = c.toLower := by simpa using hd
        exact isAlphanum_toLower hc
    · exact ih (isSpaced_tail h) d hd

/-! ## Identifiers -/

lemma mem_identifier {cs : List Char} (h : isIdentifier cs = true) :
    ∀ c ∈ cs, c.isAlphanum = true ∨ c = '_' := by
  cases cs with
  | nil => simp
  | cons c cs =>
    obtain ⟨hc, hcs⟩ : c.isAlpha = true ∧ ∀ d ∈ cs, d.isAlphanum = true ∨ d = '_' := by
      simpa [isIdentifier] using h
    intro d hd
    rcases List.mem_cons.1 hd with rfl | hd
    · exact Or.inl (by simp [Char.isAlphanum, hc])
    · exact hcs d hd

lemma dropEndWhile_cons {p : Char → Bool} {c : Char} (hc : p c = false) (cs : List Char) :
    dropEndWhile p (c :: cs) = c :: dropEndWhile p cs := by
  rw [dropEndWhile, dropEndWhile, List.reverse_cons, List.dropWhile_append]
  split
  · next h => simp [hc, List.isEmpty_iff.1 h]
  · simp

lemma mem_of_mem_dropEndWhile {p : Char → Bool} {c : Char} {cs : List Char}
    (h : c ∈ dropEndWhile p cs) : c ∈ cs :=
  List.mem_reverse.1 ((List.dropWhile_suffix p).subset (List.mem_reverse.1 h))

lemma not_isPunctuation {c : Char} (h : c.isAlphanum = true ∨ c = '_') :
    isPunctuation c = false := by
  rcases h with h | rfl
  · rw [isAlphanum_iff_toNat] at h
    simp only [isPunctuation, Bool.and_eq_false_iff, Bool.or_eq_false_iff,
      decide_eq_false_iff_not]
    left
    omega
  · rfl

/-- The words of an identifier are spaced letters and digits that start with a letter. -/
lemma words_identifier {name : List Char} (h : isIdentifier name = true) :
    ∃ c cs, words name = c :: cs ∧ c.isAlpha = true ∧ isSpaced (c :: cs) = true := by
  cases name with
  | nil => exact absurd h (by simp [isIdentifier])
  | cons c cs =>
    have hmem := mem_identifier h
    have hc : c.isAlpha = true := by
      simp only [isIdentifier, Bool.and_eq_true] at h
      exact h.1
    have hdelimiter : isDelimiter c = false := not_isDelimiter (by simp [Char.isAlphanum, hc])
    -- trimming drops underscores at the end only
    have htrim : trimWhile isDelimiter (c :: cs) = c :: dropEndWhile isDelimiter cs := by
      rw [trimWhile, List.dropWhile_cons, hdelimiter]
      exact dropEndWhile_cons hdelimiter cs
    have hinner : ∀ d ∈ c :: dropEndWhile isDelimiter cs, d.isAlphanum = true ∨ d = '_' := by
      intro d hd
      rcases List.mem_cons.1 hd with rfl | hd
      · exact hmem d (by simp)
      · exact hmem d (by simp [mem_of_mem_dropEndWhile hd])
    have hfilter : (c :: dropEndWhile isDelimiter cs).filter (fun d => !isPunctuation d) =
        c :: dropEndWhile isDelimiter cs := by
      rw [List.filter_eq_self]
      intro d hd
      rw [not_isPunctuation (hinner d hd)]
      rfl
    have hspaced := isSpaced_joinDelimiters hinner
    simp only [words, htrim, hfilter]
    rw [joinDelimiters_cons hdelimiter] at hspaced ⊢
    split
    · -- names that are all capitals are written small first
      have hascii : ∀ d ∈ c :: joinDelimiters (dropEndWhile isDelimiter cs), d.toNat < 128 := by
        intro d hd
        rcases isAlphanum_or_space hspaced d hd with hd | rfl
        · exact lt_of_isAlphanum hd
        · decide
      rw [lower_ascii hascii, List.map_cons]
      refine ⟨_, _, rfl, ?_, isSpaced_map_toLower hspaced⟩
      exact isAlpha_of_isLower (isLower_toLower hc)
    · exact ⟨_, _, rfl, hc, hspaced⟩

/-- In camel case an identifier is a plain name. -/
theorem isPlainName_camelChars {name : List Char} (h : isIdentifier name = true) :
    isPlainName (camelChars name) = true := by
  obtain ⟨c, cs, hwords, hc, hspaced⟩ := words_identifier h
  have hall : ∀ d ∈ Style.camel.write none (c :: cs), d.isAlphanum = true :=
    isAlphanum_write hspaced
  have hcnum : c.isAlphanum = true := by simp [Char.isAlphanum, hc]
  have hspace : c ≠ ' ' := by
    rintro rfl
    exact absurd hc (by decide)
  have hwrite : Style.camel.write none (c :: cs) = c.toLower :: Style.camel.write (some c) cs := by
    have hlower : lower [c] = [c.toLower] := lower_ascii (by simpa using lt_of_isAlphanum hcnum)
    rw [write_of_ne_space hspace, hlower]
    simp [Style.keepsCapitalAfter]
  rw [camelChars, hwords, hwrite]
  rw [hwrite] at hall
  simp only [isPlainName, isLower_toLower hc, Bool.true_and, List.all_eq_true]
  exact fun d hd => hall d (by simp [hd])

end TypedFetch.Naming
