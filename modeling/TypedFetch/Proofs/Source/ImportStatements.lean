import Mathlib.Data.List.Basic
import TypedFetch.Proofs.Source.NestedText
import TypedFetch.Proofs.Source.ExtensionName
import TypedFetch.Proofs.Text.Cut

/-!
# Import statements

The import statements of a text are found by their shape, where a line begins.  What is read as a
statement is one (`importAt?_eq_some_iff`, `afterStatement?_eq_some_iff`), and no statement begins
on one of the inner lines of another (`ImportStatement.noImport_inside`).

The searches read a text line by line, and pass over what they have found.  They can be followed
over a front part of the text in which nothing is found, and over a part that is passed over.
-/

namespace TypedFetch.Proto.Source

open TypedFetch.Text

/-! ## Starts of lines -/

/-- The place behind a text is the start of a line; `start` tells it of the place before. -/
def startsLine : Bool → List Char → Bool
  | start, [] => start
  | _, c :: rest => startsLine (c == '\n') rest

@[simp] lemma startsLine_nil (start : Bool) : startsLine start [] = start := rfl

@[simp] lemma startsLine_cons (start : Bool) (c : Char) (rest : List Char) :
    startsLine start (c :: rest) = startsLine (c == '\n') rest := rfl

lemma startsLine_append (start : Bool) (front back : List Char) :
    startsLine start (front ++ back) = startsLine (startsLine start front) back := by
  induction front generalizing start with
  | nil => rfl
  | cons c front ih => exact ih (c == '\n')

lemma startsLine_concat (start : Bool) (front : List Char) (c : Char) :
    startsLine start (front ++ [c]) = (c == '\n') := by
  rw [startsLine_append]
  rfl

/-- Behind a text without line feeds a line begins only if the text is empty. -/
lemma startsLine_of_not_mem {front : List Char} (hne : front ≠ []) (h : '\n' ∉ front)
    (start : Bool) : startsLine start front = false := by
  obtain ⟨front, c, rfl⟩ := (List.eq_nil_or_concat' front).resolve_left hne
  rw [startsLine_concat, beq_eq_false_iff_ne]
  rintro rfl
  exact h (by simp)

/-- A line that begins behind a text begins behind a line feed. -/
lemma exists_of_startsLine {front : List Char} (h : startsLine false front = true) :
    ∃ before, front = before ++ ['\n'] := by
  rcases List.eq_nil_or_concat' front with rfl | ⟨before, c, rfl⟩
  · exact absurd h (by decide)
  · rw [startsLine_concat, beq_iff_eq] at h
    exact ⟨before, by rw [h]⟩

/-- What stands before a place decides only where it is not empty. -/
lemma startsLine_of_ne_nil {front : List Char} (hne : front ≠ []) (start start' : Bool) :
    startsLine start front = startsLine start' front := by
  obtain ⟨c, front, rfl⟩ := List.exists_cons_of_ne_nil hne
  rfl

/-- On one line no further line begins. -/
lemma startsLine_false_of_not_mem {front : List Char} (h : '\n' ∉ front) :
    startsLine false front = false := by
  rw [Bool.eq_false_iff]
  intro hstart
  obtain ⟨before, rfl⟩ := exists_of_startsLine hstart
  exact h (by simp)

/-- No line begins within a line. -/
lemma startsLine_inside {front before here : List Char} (h : '\n' ∉ front)
    (hsplit : front = before ++ here) : startsLine false before = false :=
  startsLine_false_of_not_mem fun hmem => h (by rw [hsplit]; exact List.mem_append_left _ hmem)

lemma eq_nil_of_startsLine {before : List Char} (h : '\n' ∉ before)
    (hstart : startsLine true before = true) : before = [] := by
  by_contra hne
  rw [startsLine_of_not_mem hne h] at hstart
  exact absurd hstart (by decide)

/-- In a line with its line feed, a line begins at the front only. -/
lemma eq_nil_of_startsLine_line {line before here : List Char} (hline : '\n' ∉ line)
    (hsplit : line ++ ['\n'] = before ++ here) (hne : here ≠ [])
    (hstart : startsLine true before = true) : before = [] := by
  have hbefore : '\n' ∉ before := by
    rcases List.append_eq_append_iff.1 hsplit with ⟨middle, hsplit, hmiddle⟩ | ⟨middle, rfl, -⟩
    · -- the line feed is not in front of anything
      cases middle with
      | nil => simpa [hsplit] using hline
      | cons c middle =>
        have hnil : middle ++ here = [] := (List.cons.inj hmiddle).2.symm
        exact absurd (List.append_eq_nil_iff.1 hnil).2 hne
    · exact fun hmem => hline (List.mem_append_left _ hmem)
  exact eq_nil_of_startsLine hbefore hstart

/-- What holds of all lines of a text can be checked place by place. -/
lemma forall_lines_iff {P : List Char → List Char → Prop} (start : Bool) (text : List Char) :
    (∀ before here, text = before ++ here → startsLine start before = true → P before here) ↔
      ∀ n < text.length + 1, startsLine start (text.take n) = true →
        P (text.take n) (text.drop n) := by
  constructor
  · intro h n _ hstart
    exact h (text.take n) (text.drop n) (List.take_append_drop n text).symm hstart
  · rintro h before here rfl hstart
    have hplace := h before.length (by rw [List.length_append]; omega)
    rw [List.take_left, List.drop_left] at hplace
    exact hplace hstart

/-! ## Readers in front of a character that stops them -/

/-- A word does not reach over a character that is not in it. -/
lemma dropPrefix?_append_cons {word : List Char} {x : Char} (h : x ∉ word) (cs rest : List Char) :
    dropPrefix? word (cs ++ x :: rest) = (dropPrefix? word cs).map (· ++ x :: rest) := by
  by_cases hword : word <+: cs
  · obtain ⟨back, rfl⟩ := hword
    rw [List.append_assoc, dropPrefix?_append, dropPrefix?_append]
    rfl
  · have hnone : ¬ word <+: cs ++ x :: rest := fun hprefix =>
      hword (isPrefix_of_append_cons h hprefix)
    rw [dropPrefix?_eq_none hword, dropPrefix?_eq_none hnone]
    rfl

/-! ## Following the searches -/

section FindAtLines

variable {find? : List Char → Option (List Char × List Char)} {start : Bool}
  {front rest : List Char}

lemma findAtLines_skip (find? : List Char → Option (List Char × List Char)) (start : Bool)
    (front rest : List Char) :
    findAtLines find? start front.length (front ++ rest) =
      findAtLines find? (startsLine start front) 0 rest := by
  induction front generalizing start with
  | nil => rfl
  | cons c front ih => exact ih (c == '\n')

/-- The search passes over a front part in which it finds nothing. -/
lemma findAtLines_append (h : ∀ before here, front = before ++ here → here ≠ [] →
      startsLine start before = true → find? (here ++ rest) = none) :
    findAtLines find? start 0 (front ++ rest) =
      findAtLines find? (startsLine start front) 0 rest := by
  induction front generalizing start with
  | nil => rfl
  | cons c front ih =>
    have hrest : findAtLines find? (c == '\n') 0 (front ++ rest) =
        findAtLines find? (startsLine (c == '\n') front) 0 rest :=
      ih fun before here hsplit hne hstart =>
        h (c :: before) here (by rw [hsplit, List.cons_append]) hne hstart
    cases start with
    | false => exact hrest
    | true =>
      have hnone : find? (c :: (front ++ rest)) = none :=
        h [] (c :: front) rfl (List.cons_ne_nil _ _) rfl
      rw [List.cons_append, findAtLines, hnone]
      exact hrest

/-- The search goes on behind what it finds. -/
lemma findAtLines_found {found : List Char} (hne : front ≠ [])
    (h : find? (front ++ rest) = some (found, rest)) :
    findAtLines find? true 0 (front ++ rest) =
      found :: findAtLines find? (startsLine true front) 0 rest := by
  obtain ⟨c, front, rfl⟩ := List.exists_cons_of_ne_nil hne
  rw [List.cons_append] at h ⊢
  rw [findAtLines, h]
  have hlength : (front ++ rest).length - rest.length = front.length := by simp
  simp only [hlength, findAtLines_skip, startsLine_cons]

/-- Nothing is found within a line. -/
lemma findAtLines_tail (find? : List Char → Option (List Char × List Char)) {tail : List Char}
    (h : '\n' ∉ tail) (after : List Char) :
    findAtLines find? false 0 (tail ++ after) = findAtLines find? false 0 after := by
  rw [findAtLines_append, startsLine_false_of_not_mem h]
  intro before here hsplit _ hstart
  rw [startsLine_inside h hsplit] at hstart
  exact absurd hstart (by decide)

end FindAtLines

section RemoveImportFrom

variable {target : List Char} {start : Bool} {front rest : List Char}

lemma removeImportFrom_skip (target : List Char) (start : Bool) (front rest : List Char) :
    removeImportFrom target start front.length (front ++ rest) =
      removeImportFrom target (startsLine start front) 0 rest := by
  induction front generalizing start with
  | nil => rfl
  | cons c front ih => exact ih (c == '\n')

/-- A front part in which no statement is found stays. -/
lemma removeImportFrom_append (h : ∀ before here, front = before ++ here → here ≠ [] →
      startsLine start before = true → afterImportOf? target (here ++ rest) = none) :
    removeImportFrom target start 0 (front ++ rest) =
      front ++ removeImportFrom target (startsLine start front) 0 rest := by
  induction front generalizing start with
  | nil => rfl
  | cons c front ih =>
    have hrest : removeImportFrom target (c == '\n') 0 (front ++ rest) =
        front ++ removeImportFrom target (startsLine (c == '\n') front) 0 rest :=
      ih fun before here hsplit hne hstart =>
        h (c :: before) here (by rw [hsplit, List.cons_append]) hne hstart
    cases start with
    | false =>
      rw [List.cons_append, removeImportFrom, hrest]
      rfl
    | true =>
      have hnone : afterImportOf? target (c :: (front ++ rest)) = none :=
        h [] (c :: front) rfl (List.cons_ne_nil _ _) rfl
      rw [List.cons_append, removeImportFrom, hnone]
      simp only [hrest, startsLine_cons, List.cons_append]

/-- A statement that is found goes, with what follows it on its line. -/
lemma removeImportFrom_found (hne : front ≠ [])
    (h : afterImportOf? target (front ++ rest) = some rest) :
    removeImportFrom target true 0 (front ++ rest) =
      removeImportFrom target (startsLine true front) 0 rest := by
  obtain ⟨c, front, rfl⟩ := List.exists_cons_of_ne_nil hne
  rw [List.cons_append] at h ⊢
  rw [removeImportFrom, h]
  have hlength : (front ++ rest).length - rest.length = front.length := by simp
  simp only [hlength, removeImportFrom_skip, startsLine_cons]

end RemoveImportFrom

/-! ## Statements -/

/-- The keyword of import statements. -/
def importKeyword : List Char := "import".toList

lemma importKeyword_eq : importKeyword = ['i', 'm', 'p', 'o', 'r', 't'] := by
  delta importKeyword
  simp

/-- A modifier with the blanks behind it, or nothing. -/
def IsModifier (cs : List Char) : Prop :=
  cs = [] ∨ ∃ word blanks, (word = "public".toList ∨ word = "weak".toList) ∧ blanks ≠ [] ∧
    (∀ c ∈ blanks, isBlank c = true) ∧ cs = word ++ blanks

/-- An import statement, from the blanks before it to its semicolon. -/
structure ImportStatement where
  indent : List Char
  gap : List Char
  modifier : List Char
  opening : Char
  path : List Char
  closing : Char
  tail : List Char
  indent_blank : ∀ c ∈ indent, isBlank c = true
  gap_ne_nil : gap ≠ []
  gap_blank : ∀ c ∈ gap, isBlank c = true
  isModifier : IsModifier modifier
  opening_quote : isQuote opening = true
  closing_quote : isQuote closing = true
  tail_blank : ∀ c ∈ tail, isBlank c = true

namespace ImportStatement

variable (s : ImportStatement)

/-- The text of the statement up to its path. -/
def headChars : List Char :=
  importKeyword ++ (s.gap ++ (s.modifier ++ [s.opening]))

/-- The text of the statement behind its path. -/
def endChars : List Char :=
  s.closing :: (s.tail ++ [';'])

/-- The text of the statement. -/
def chars : List Char :=
  s.indent ++ (s.headChars ++ (s.path ++ s.endChars))

lemma chars_ne_nil : s.chars ≠ [] := by
  simp [chars, endChars]

/-- A statement ends in its semicolon, on the line that goes on behind it. -/
lemma startsLine_chars (start : Bool) : startsLine start s.chars = false := by
  have hconcat : s.chars =
    s.indent ++ (s.headChars ++ (s.path ++ s.closing :: s.tail)) ++ [';'] := by
    simp [chars, endChars]
  rw [hconcat, startsLine_concat]
  decide

end ImportStatement

lemma not_isBlank_of_isQuote {c : Char} (h : isQuote c = true) : isBlank c = false := by
  rcases (isQuote_iff c).1 h with rfl | rfl <;> decide

/-! ### Reading the head -/

lemma dropBlanks?_append {gap rest : List Char} (hne : gap ≠ [])
    (hgap : ∀ c ∈ gap, isBlank c = true) (hrest : ∀ c ∈ rest.head?, isBlank c = false) :
    dropBlanks? (gap ++ rest) = some rest := by
  obtain ⟨c, gap, rfl⟩ := List.exists_cons_of_ne_nil hne
  obtain ⟨hc, hgap⟩ := List.forall_mem_cons.1 hgap
  rw [List.cons_append, dropBlanks?, if_pos hc, dropWhile_append_of_stop hgap hrest]

lemma exists_of_dropBlanks? {cs rest : List Char} (h : dropBlanks? cs = some rest) :
    ∃ gap, gap ≠ [] ∧ (∀ c ∈ gap, isBlank c = true) ∧ cs = gap ++ rest := by
  cases cs with
  | nil => exact absurd h (by simp [dropBlanks?])
  | cons c cs =>
    rw [dropBlanks?] at h
    split at h
    · next hc =>
      obtain rfl : cs.dropWhile isBlank = rest := by simpa using h
      refine ⟨c :: cs.takeWhile isBlank, List.cons_ne_nil _ _, ?_, ?_⟩
      · exact List.forall_mem_cons.2 ⟨hc, fun d hd => List.mem_takeWhile_imp hd⟩
      · rw [List.cons_append, List.takeWhile_append_dropWhile]
    · exact absurd h (by simp)

lemma exists_of_dropQuote? {cs rest : List Char} (h : dropQuote? cs = some rest) :
    ∃ quote, isQuote quote = true ∧ cs = quote :: rest := by
  cases cs with
  | nil => exact absurd h (by simp [dropQuote?])
  | cons c cs =>
    rw [dropQuote?] at h
    split at h
    · next hc =>
      obtain rfl : cs = rest := by simpa using h
      exact ⟨c, hc, rfl⟩
    · exact absurd h (by simp)

lemma dropSemicolon?_eq_some_iff {cs rest : List Char} :
    dropSemicolon? cs = some rest ↔
      ∃ tail, (∀ c ∈ tail, isBlank c = true) ∧ cs = tail ++ ';' :: rest := by
  constructor
  · intro h
    rw [dropSemicolon?] at h
    split at h
    · next after hafter =>
      obtain rfl : after = rest := by simpa using h
      refine ⟨cs.takeWhile isBlank, fun c hc => List.mem_takeWhile_imp hc, ?_⟩
      rw [← hafter, List.takeWhile_append_dropWhile]
    · exact absurd h (by simp)
  · rintro ⟨tail, htail, rfl⟩
    have hsemicolon : ∀ c ∈ (';' :: rest).head?, isBlank c = false := by
      intro c hc
      obtain rfl : ';' = c := by simpa using hc
      decide
    rw [dropSemicolon?, dropWhile_append_of_stop htail hsemicolon]
    rfl

/-- The word that a modifier begins with, if there is one, begins with none of the quotes. -/
lemma dropPrefix?_word_eq_none {word : List Char} {opening : Char}
    (hword : word = "public".toList ∨ word = "weak".toList) (hopening : isQuote opening = true)
    (rest : List Char) : dropPrefix? word (opening :: rest) = none := by
  rcases (isQuote_iff opening).1 hopening with rfl | rfl <;> rcases hword with rfl | rfl <;>
    simp [dropPrefix?]

lemma dropModifier_append {modifier : List Char} (h : IsModifier modifier) {opening : Char}
    (hopening : isQuote opening = true) (rest : List Char) :
    dropModifier (modifier ++ opening :: rest) = opening :: rest := by
  have hquote : ∀ c ∈ (opening :: rest).head?, isBlank c = false := by
    intro c hc
    obtain rfl : opening = c := by simpa using hc
    exact not_isBlank_of_isQuote hopening
  rcases h with rfl | ⟨word, blanks, hword, hne, hblanks, rfl⟩
  · rw [List.nil_append, dropModifier, dropPrefix?_word_eq_none (Or.inl rfl) hopening,
      dropPrefix?_word_eq_none (Or.inr rfl) hopening]
    rfl
  · have hdrop := dropBlanks?_append hne hblanks hquote
    have hhere := dropPrefix?_append word (blanks ++ opening :: rest)
    rw [List.append_assoc, dropModifier]
    rcases hword with rfl | rfl
    · rw [hhere, Option.some_or]
      simp only [hdrop, Option.getD_some]
    · have hpublic : dropPrefix? "public".toList
          ("weak".toList ++ (blanks ++ opening :: rest)) = none := by simp [dropPrefix?]
      rw [hpublic, hhere, Option.none_or]
      simp only [hdrop, Option.getD_some]

/-- What is dropped as a modifier is one. -/
lemma exists_modifier (cs : List Char) :
    ∃ modifier, IsModifier modifier ∧ cs = modifier ++ dropModifier cs := by
  rw [dropModifier]
  split
  · next rest hrest =>
    rcases hblanks : dropBlanks? rest with _ | after
    · exact ⟨[], Or.inl rfl, rfl⟩
    · obtain ⟨blanks, hne, hblank, hsplit⟩ := exists_of_dropBlanks? hblanks
      have hword : ∃ word, (word = "public".toList ∨ word = "weak".toList) ∧ cs = word ++ rest := by
        rcases Option.or_eq_some_iff.1 hrest with h | ⟨-, h⟩
        · exact ⟨_, Or.inl rfl, dropPrefix?_eq_some h⟩
        · exact ⟨_, Or.inr rfl, dropPrefix?_eq_some h⟩
      obtain ⟨word, hword, hcs⟩ := hword
      refine ⟨word ++ blanks, Or.inr ⟨word, blanks, hword, hne, hblank, rfl⟩, ?_⟩
      rw [hcs, hsplit, Option.getD_some, List.append_assoc]
  · exact ⟨[], Or.inl rfl, rfl⟩

/-- Behind the blanks of the head stands a modifier or the opening quote, but no keyword. -/
lemma head?_modifier {modifier : List Char} (h : IsModifier modifier) {opening : Char}
    (hopening : isQuote opening = true) (rest : List Char) :
    ∀ c ∈ (modifier ++ opening :: rest).head?, isBlank c = false ∧ c ≠ 'i' := by
  intro c hc
  rcases h with rfl | ⟨word, blanks, hword, -, -, rfl⟩
  · obtain rfl : opening = c := by simpa using hc
    refine ⟨not_isBlank_of_isQuote hopening, ?_⟩
    rcases (isQuote_iff opening).1 hopening with rfl | rfl <;> decide
  · rcases hword with rfl | rfl
    · obtain rfl : 'p' = c := by simpa using hc
      decide
    · obtain rfl : 'w' = c := by simpa using hc
      decide

lemma dropImportHead?_headChars (s : ImportStatement) (rest : List Char) :
    dropImportHead? (s.headChars ++ rest) = some rest := by
  have hgap := dropBlanks?_append s.gap_ne_nil s.gap_blank
    fun c hc => (head?_modifier s.isModifier s.opening_quote rest c hc).1
  have hhead : s.headChars ++ rest =
      "import".toList ++ (s.gap ++ (s.modifier ++ s.opening :: rest)) := by
    simp [ImportStatement.headChars, importKeyword_eq]
  rw [hhead, dropImportHead?, dropPrefix?_append]
  simp [hgap, dropModifier_append s.isModifier s.opening_quote, dropQuote?, s.opening_quote]

/-! ### Reading a statement -/

/-- What follows an import statement of `target` that begins here. -/
def afterStatement? (target cs : List Char) : Option (List Char) := do
  let rest ← dropImportHead? (cs.dropWhile fun c => c == ' ' || c == '\t')
  let rest ← dropPrefix? target rest
  let rest ← dropQuote? rest
  dropSemicolon? rest

lemma afterImportOf?_eq (target cs : List Char) :
    afterImportOf? target cs = (afterStatement? target cs).map (·.dropWhile (· != '\n')) := by
  simp only [afterImportOf?, afterStatement?, Option.bind_eq_bind, Option.map_eq_bind,
    Option.bind_assoc]
  rfl

/-- A front part on whose lines no statement of the target begins stays. -/
lemma removeImportFrom_append_of_none {target front rest : List Char} {start : Bool}
    (h : ∀ before here, front = before ++ here → here ≠ [] → startsLine start before = true →
      afterStatement? target (here ++ rest) = none) :
    removeImportFrom target start 0 (front ++ rest) =
      front ++ removeImportFrom target (startsLine start front) 0 rest := by
  refine removeImportFrom_append fun before here hsplit hhere hstart => ?_
  rw [afterImportOf?_eq, h before here hsplit hhere hstart, Option.map_none]

lemma removeImportFrom_cons {target rest : List Char} {start : Bool} {c : Char}
    (h : start = true → afterStatement? target (c :: rest) = none) :
    removeImportFrom target start 0 (c :: rest) =
      c :: removeImportFrom target (c == '\n') 0 rest := by
  cases start with
  | false => rfl
  | true => rw [removeImportFrom, afterImportOf?_eq, h rfl, Option.map_none]

lemma head?_headChars (s : ImportStatement) (rest : List Char) :
    (s.headChars ++ rest).head? = some 'i' := by
  simp [ImportStatement.headChars, importKeyword_eq]

/-- The parts of the head of a statement, read back. -/
lemma exists_of_dropImportHead? {cs rest : List Char} (h : dropImportHead? cs = some rest) :
    ∃ gap modifier opening, gap ≠ [] ∧ (∀ c ∈ gap, isBlank c = true) ∧ IsModifier modifier ∧
      isQuote opening = true ∧ cs = importKeyword ++ (gap ++ (modifier ++ opening :: rest)) := by
  obtain ⟨afterKeyword, hkeyword, h⟩ := Option.bind_eq_some_iff.1 h
  obtain ⟨afterGap, hgap, hquote⟩ := Option.bind_eq_some_iff.1 h
  obtain ⟨gap, hne, hblank, rfl⟩ := exists_of_dropBlanks? hgap
  obtain ⟨modifier, hmodifier, hsplit⟩ := exists_modifier afterGap
  obtain ⟨opening, hopening, hdrop⟩ := exists_of_dropQuote? hquote
  refine ⟨gap, modifier, opening, hne, hblank, hmodifier, hopening, ?_⟩
  rw [dropPrefix?_eq_some hkeyword, hsplit, hdrop]
  rfl

section Reading

variable {indent cs path rest : List Char}

/-- The statement with the given parts, whatever its path is. -/
lemma exists_statement (hindent : ∀ c ∈ indent, isBlank c = true) {afterHead afterPath : List Char}
    (hhead : dropImportHead? cs = some afterHead) (hpath : afterHead = path ++ afterPath)
    {afterQuote : List Char} (hquote : dropQuote? afterPath = some afterQuote)
    (hend : dropSemicolon? afterQuote = some rest) :
    ∃ s : ImportStatement, s.path = path ∧ s.indent = indent ∧ indent ++ cs = s.chars ++ rest := by
  obtain ⟨gap, modifier, opening, hne, hblank, hmodifier, hopening, rfl⟩ :=
    exists_of_dropImportHead? hhead
  obtain ⟨closing, hclosing, rfl⟩ := exists_of_dropQuote? hquote
  obtain ⟨tail, htail, rfl⟩ := dropSemicolon?_eq_some_iff.1 hend
  refine ⟨⟨indent, gap, modifier, opening, path, closing, tail, hindent, hne, hblank, hmodifier,
    hopening, hclosing, htail⟩, rfl, rfl, ?_⟩
  simp [ImportStatement.chars, ImportStatement.headChars, ImportStatement.endChars, hpath]

lemma dropSemicolon?_endChars (s : ImportStatement) (rest : List Char) :
    ∃ after, dropQuote? (s.endChars ++ rest) = some after ∧ dropSemicolon? after = some rest := by
  refine ⟨s.tail ++ ';' :: rest, ?_, dropSemicolon?_eq_some_iff.2 ⟨s.tail, s.tail_blank, rfl⟩⟩
  simp [ImportStatement.endChars, dropQuote?, s.closing_quote]

/-- Behind the blanks of a statement its head is read. -/
lemma dropWhile_chars (s : ImportStatement) (rest : List Char) {p : Char → Bool}
    (hindent : ∀ c ∈ s.indent, p c = true) (hletter : p 'i' = false) :
    (s.chars ++ rest).dropWhile p = s.headChars ++ (s.path ++ (s.endChars ++ rest)) := by
  have hhead : ∀ c ∈ (s.headChars ++ (s.path ++ (s.endChars ++ rest))).head?, p c = false := by
    intro c hc
    rw [head?_headChars] at hc
    obtain rfl : 'i' = c := by simpa using hc
    exact hletter
  have hchars : s.chars ++ rest =
    s.indent ++ (s.headChars ++ (s.path ++ (s.endChars ++ rest))) := by
    simp [ImportStatement.chars]
  rw [hchars, dropWhile_append_of_stop hindent hhead]

/-- A path without quotes is read up to the quote behind it. -/
lemma takeWhile_path (s : ImportStatement) (rest : List Char)
    (h : ∀ c ∈ s.path, isQuote c = false) :
    (s.path ++ (s.endChars ++ rest)).takeWhile (fun c => !isQuote c) = s.path := by
  refine takeWhile_append_of_stop (fun c hc => by simp [h c hc]) fun c hc => ?_
  obtain rfl : s.closing = c := by simpa [ImportStatement.endChars] using hc
  simp [s.closing_quote]

/-- What is read at the start of a line as an import statement is one, with a path that has no quote
in it. -/
lemma importAt?_eq_some_iff :
    importAt? cs = some (path, rest) ↔ path ≠ [] ∧ (∀ c ∈ path, isQuote c = false) ∧
      ∃ s : ImportStatement, s.path = path ∧ cs = s.chars ++ rest := by
  constructor
  · intro h
    obtain ⟨afterHead, hhead, h⟩ := Option.bind_eq_some_iff.1 h
    simp only at h
    split at h
    · exact absurd h (by simp)
    · next hne =>
      obtain ⟨-, -, h⟩ := Option.bind_eq_some_iff.1 h
      -- the statement is put together from what each of the readers has passed over
      obtain ⟨afterQuote, hquote, h⟩ := Option.bind_eq_some_iff.1 h
      obtain ⟨after, hend, h⟩ := Option.bind_eq_some_iff.1 h
      obtain ⟨rfl, rfl⟩ : afterHead.takeWhile (fun c => !isQuote c) = path ∧ after = rest := by
        simpa using h
      have hpath : afterHead = afterHead.takeWhile (fun c => !isQuote c) ++
          afterHead.drop (afterHead.takeWhile fun c => !isQuote c).length :=
        (List.prefix_iff_eq_append.1 (List.takeWhile_prefix _)).symm
      have hindent : ∀ c ∈ cs.takeWhile isBlank, isBlank c = true := fun _ hc =>
        List.mem_takeWhile_imp hc
      obtain ⟨s, hs, -, hsplit⟩ := exists_statement hindent hhead hpath hquote hend
      rw [List.takeWhile_append_dropWhile] at hsplit
      refine ⟨by simpa using hne, fun c hc => ?_, s, hs, hsplit⟩
      simpa using List.mem_takeWhile_imp hc
  · rintro ⟨hne, hquotes, s, rfl, rfl⟩
    have hpath := takeWhile_path s rest hquotes
    obtain ⟨after, hquote, hend⟩ := dropSemicolon?_endChars s rest
    rw [importAt?, dropWhile_chars s rest s.indent_blank (by decide), dropImportHead?_headChars]
    simp only [Option.bind_eq_bind, Option.bind_some, hpath, List.isEmpty_iff, hne, if_false,
      List.drop_left, hquote, hend]
    rfl

/-- What is found as an import statement of a path is one, after spaces and tabs. -/
lemma afterStatement?_eq_some_iff :
    afterStatement? path cs = some rest ↔ ∃ s : ImportStatement, s.path = path ∧
      (∀ c ∈ s.indent, c = ' ' ∨ c = '\t') ∧ cs = s.chars ++ rest := by
  constructor
  · intro h
    obtain ⟨afterHead, hhead, h⟩ := Option.bind_eq_some_iff.1 h
    obtain ⟨afterPath, hpath, h⟩ := Option.bind_eq_some_iff.1 h
    obtain ⟨afterQuote, hquote, hend⟩ := Option.bind_eq_some_iff.1 h
    have hindent : ∀ c ∈ cs.takeWhile (fun c => c == ' ' || c == '\t'), c = ' ' ∨ c = '\t' := by
      intro c hc
      simpa using List.mem_takeWhile_imp hc
    have hblank : ∀ c ∈ cs.takeWhile (fun c => c == ' ' || c == '\t'), isBlank c = true := by
      intro c hc
      rcases hindent c hc with rfl | rfl <;> decide
    obtain ⟨s, hs, hsindent, hsplit⟩ :=
      exists_statement hblank hhead (dropPrefix?_eq_some hpath) hquote hend
    rw [List.takeWhile_append_dropWhile] at hsplit
    exact ⟨s, hs, hsindent ▸ hindent, hsplit⟩
  · rintro ⟨s, rfl, hindent, rfl⟩
    have hspaces : ∀ c ∈ s.indent, (c == ' ' || c == '\t') = true := by
      intro c hc
      simpa using hindent c hc
    obtain ⟨after, hquote, hend⟩ := dropSemicolon?_endChars s rest
    rw [afterStatement?, dropWhile_chars s rest hspaces (by decide), dropImportHead?_headChars]
    simp only [Option.bind_eq_bind, Option.bind_some, dropPrefix?_append, hquote, hend]

end Reading

/-- A text has one import statement at its start, if no path has a quote in it. -/
lemma ImportStatement.path_unique {s s' : ImportStatement} {rest rest' : List Char}
    (h : s.chars ++ rest = s'.chars ++ rest') (hs : ∀ c ∈ s.path, isQuote c = false)
    (hs' : ∀ c ∈ s'.path, isQuote c = false) : s.path = s'.path := by
  have hread : ∀ (s : ImportStatement) rest, (∀ c ∈ s.path, isQuote c = false) →
      ((dropImportHead? ((s.chars ++ rest).dropWhile isBlank)).map
        fun after => after.takeWhile fun c => !isQuote c) = some s.path := by
    intro s rest hs
    rw [dropWhile_chars s rest s.indent_blank (by decide), dropImportHead?_headChars,
      Option.map_some, takeWhile_path s rest hs]
  have hsame := hread s rest hs
  rw [h, hread s' rest' hs'] at hsame
  exact (Option.some.inj hsame).symm

/-! ### The end of its line -/

lemma newline_not_mem_of_spaces {cs : List Char} (h : ∀ c ∈ cs, c = ' ' ∨ c = '\t') :
    '\n' ∉ cs := by
  intro hmem
  rcases h _ hmem with h | h <;> exact absurd h (by decide)

/-- No line begins behind a statement and the rest of its line. -/
lemma startsLine_statementLine (s : ImportStatement) {tail : List Char} (htail : '\n' ∉ tail)
    (start : Bool) : startsLine start (s.chars ++ tail) = false := by
  rw [startsLine_append, s.startsLine_chars, startsLine_false_of_not_mem htail]

/-- A text up to the end of its first line. -/
lemma exists_line (cs : List Char) : ∃ line after, cs = line ++ after ∧ '\n' ∉ line ∧
    (after = [] ∨ ∃ rest, after = '\n' :: rest) := by
  refine ⟨cs.takeWhile (· != '\n'), cs.dropWhile (· != '\n'),
    List.takeWhile_append_dropWhile.symm, fun hmem => ?_, ?_⟩
  · simpa using List.mem_takeWhile_imp hmem
  · rcases hdrop : cs.dropWhile (· != '\n') with _ | ⟨c, rest⟩
    · exact Or.inl rfl
    · have hc : (c != '\n') = false := by
        have hhead := List.head?_dropWhile_not (· != '\n') cs
        rw [hdrop] at hhead
        simpa using hhead
      exact Or.inr ⟨rest, by rw [bne_eq_false_iff_eq.1 hc]⟩

/-- The characters of a line, and the line feed behind it. -/
lemma lineEnd_stop {tail after : List Char} (htail : '\n' ∉ tail)
    (hafter : after = [] ∨ ∃ rest, after = '\n' :: rest) :
    (∀ c ∈ tail, (c != '\n') = true) ∧ ∀ c ∈ after.head?, (c != '\n') = false := by
  refine ⟨fun c hc => ?_, fun c hc => ?_⟩
  · simpa using fun hnewline : c = '\n' => htail (hnewline ▸ hc)
  · rcases hafter with rfl | ⟨rest, rfl⟩
    · simp at hc
    · obtain rfl : '\n' = c := by simpa using hc
      decide

/-- The statement of the path goes with the end of its line. -/
lemma removeImportFrom_statement {s : ImportStatement} {tail after : List Char}
    (hindent : ∀ c ∈ s.indent, c = ' ' ∨ c = '\t') (htail : '\n' ∉ tail)
    (hafter : after = [] ∨ ∃ rest, after = '\n' :: rest) :
    removeImportFrom s.path true 0 (s.chars ++ (tail ++ after)) =
      removeImportFrom s.path false 0 after := by
  have hstatement : afterStatement? s.path (s.chars ++ (tail ++ after)) = some (tail ++ after) :=
    afterStatement?_eq_some_iff.2 ⟨s, rfl, hindent, rfl⟩
  obtain ⟨hplain, hstop⟩ := lineEnd_stop htail hafter
  have hline : (tail ++ after).dropWhile (· != '\n') = after :=
    dropWhile_append_of_stop hplain hstop
  have hfound : afterImportOf? s.path ((s.chars ++ tail) ++ after) = some after := by
    rw [List.append_assoc, afterImportOf?_eq, hstatement, Option.map_some, hline]
  have hne : s.chars ++ tail ≠ [] := by simp [s.chars_ne_nil]
  rw [← List.append_assoc, removeImportFrom_found hne hfound, startsLine_statementLine s htail]

/-! ### The inner lines of a statement -/

/-- No import statement begins here: what follows the blanks is not the letter of its keyword. -/
def NoImport (cs : List Char) : Prop :=
  (cs.dropWhile isBlank).head? ≠ some 'i'

lemma NoImport.afterStatement?_eq_none {cs : List Char} (h : NoImport cs) (target : List Char) :
    afterStatement? target cs = none := by
  refine Option.eq_none_iff_forall_ne_some.2 fun rest hrest => h ?_
  obtain ⟨s, -, -, rfl⟩ := afterStatement?_eq_some_iff.1 hrest
  rw [dropWhile_chars s rest s.indent_blank (by decide), head?_headChars]

/-- No import statement begins on a line of the text but the first. -/
def InnerLinesQuiet (cs : List Char) : Prop :=
  ∀ before here, cs = before ++ '\n' :: here → NoImport here

lemma innerLinesQuiet_of_not_mem {cs : List Char} (h : '\n' ∉ cs) : InnerLinesQuiet cs := by
  rintro before here rfl
  exact absurd (by simp) h

lemma InnerLinesQuiet.append {front back : List Char} (hfront : '\n' ∉ front)
    (hback : InnerLinesQuiet back) : InnerLinesQuiet (front ++ back) := by
  intro before here hsplit
  rcases List.append_eq_append_iff.1 hsplit with ⟨middle, -, hmiddle⟩ | ⟨middle, hmiddle, hhere⟩
  · exact hback middle here hmiddle
  · cases middle with
    | nil => exact hback [] here hhere.symm
    | cons c middle =>
      obtain ⟨rfl, -⟩ := List.cons.inj hhere
      exact absurd (by simp [hmiddle]) hfront

/-- A line that begins among blanks goes on with what follows them. -/
lemma InnerLinesQuiet.blanks {gap back : List Char} (hgap : ∀ c ∈ gap, isBlank c = true)
    (hhead : ∀ c ∈ back.head?, isBlank c = false ∧ c ≠ 'i') (hback : InnerLinesQuiet back) :
    InnerLinesQuiet (gap ++ back) := by
  induction gap with
  | nil => exact hback
  | cons c gap ih =>
    obtain ⟨-, hgap⟩ := List.forall_mem_cons.1 hgap
    intro before here hsplit
    cases before with
    | nil =>
      have hhere : gap ++ back = here := (List.cons.inj hsplit).2
      rw [NoImport, ← hhere, dropWhile_append_of_stop hgap fun d hd => (hhead d hd).1]
      exact fun hletter => (hhead 'i' hletter).2 rfl
    | cons d before => exact ih hgap before here (List.cons.inj hsplit).2

namespace ImportStatement

variable (s : ImportStatement)

lemma newline_not_mem_of_isQuote {c : Char} (h : isQuote c = true) : c ≠ '\n' := by
  rcases (isQuote_iff c).1 h with rfl | rfl <;> decide

/-- A statement whose path is on one line begins its inner lines with blanks, and then with its
modifier, its path or its semicolon. -/
lemma innerLinesQuiet (hindent : '\n' ∉ s.indent) (hpath : '\n' ∉ s.path) :
    InnerLinesQuiet s.chars := by
  have hend : InnerLinesQuiet (s.tail ++ [';']) :=
    InnerLinesQuiet.blanks s.tail_blank (by simp; decide) (innerLinesQuiet_of_not_mem (by decide))
  have hquoted : '\n' ∉ s.opening :: (s.path ++ [s.closing]) := by
    have hopening := newline_not_mem_of_isQuote s.opening_quote
    have hclosing := newline_not_mem_of_isQuote s.closing_quote
    simp [hopening.symm, hclosing.symm, hpath]
  have hliteral : InnerLinesQuiet (s.opening :: (s.path ++ [s.closing]) ++ (s.tail ++ [';'])) :=
    InnerLinesQuiet.append hquoted hend
  have hhead := head?_modifier s.isModifier s.opening_quote
    (s.path ++ [s.closing] ++ (s.tail ++ [';']))
  have hmodifier : InnerLinesQuiet
      (s.modifier ++ (s.opening :: (s.path ++ [s.closing]) ++ (s.tail ++ [';']))) := by
    rcases s.isModifier with hnone | ⟨word, blanks, hword, -, hblanks, hmodifier⟩
    · rw [hnone]
      exact hliteral
    · have hquote : ∀ c ∈ (s.opening :: (s.path ++ [s.closing]) ++ (s.tail ++ [';'])).head?,
          isBlank c = false ∧ c ≠ 'i' := head?_modifier (Or.inl rfl) s.opening_quote _
      have hplain : '\n' ∉ word := by
        rcases hword with rfl | rfl <;> decide
      rw [hmodifier, List.append_assoc]
      exact InnerLinesQuiet.append hplain (InnerLinesQuiet.blanks hblanks hquote hliteral)
  have hgap := InnerLinesQuiet.blanks s.gap_blank hhead hmodifier
  have hkeyword : '\n' ∉ importKeyword := by decide
  have hall := InnerLinesQuiet.append hindent (InnerLinesQuiet.append hkeyword hgap)
  simpa [chars, headChars, endChars] using hall

/-- No import statement begins on an inner line of a statement, whatever follows the statement. -/
lemma noImport_inside (hindent : '\n' ∉ s.indent) (hpath : '\n' ∉ s.path) {before here : List Char}
    (hsplit : s.chars = before ++ here) (hne : here ≠ []) (hstart : startsLine false before = true)
    (rest : List Char) : NoImport (here ++ rest) := by
  obtain ⟨front, rfl⟩ := exists_of_startsLine hstart
  have hquiet : NoImport here :=
    s.innerLinesQuiet hindent hpath front here (by rw [hsplit]; simp)
  -- the semicolon at the end of the statement is no blank
  have hsemicolon : ';' ∈ here := by
    have hlast : s.chars.getLast? = some ';' := by
      have hconcat : s.chars =
          s.indent ++ (s.headChars ++ (s.path ++ s.closing :: s.tail)) ++ [';'] := by
        simp [chars, endChars]
      rw [hconcat, List.getLast?_concat]
    rw [hsplit, List.getLast?_append_of_ne_nil _ hne] at hlast
    exact List.mem_of_getLast? hlast
  have hdrop : (here ++ rest).dropWhile isBlank = here.dropWhile isBlank ++ rest := by
    rw [List.dropWhile_append, if_neg]
    rw [List.isEmpty_iff, List.dropWhile_eq_nil_iff]
    intro hblank
    exact absurd (hblank ';' hsemicolon) (by decide)
  have hfull : here.dropWhile isBlank ≠ [] := by
    rw [ne_eq, List.dropWhile_eq_nil_iff]
    intro hblank
    exact absurd (hblank ';' hsemicolon) (by decide)
  rw [NoImport, hdrop, List.head?_append_of_ne_nil _ hfull]
  exact hquiet

/-- On the lines of a statement, no other statement of a path begins. -/
lemma afterStatement?_inside {tail after before here : List Char} (hindent : '\n' ∉ s.indent)
    (hpath : '\n' ∉ s.path) (htail : '\n' ∉ tail) (hsplit : s.chars ++ tail = before ++ here)
    (hhere : here ≠ []) (hbefore : before ≠ []) (hstart : startsLine true before = true)
    (target : List Char) : afterStatement? target (here ++ after) = none := by
  rw [startsLine_of_ne_nil hbefore true false] at hstart
  rcases List.append_eq_append_iff.1 hsplit with ⟨middle, rfl, hmiddle⟩ | ⟨middle, hchars, rfl⟩
  · -- behind the statement its line goes on
    rw [startsLine_append, s.startsLine_chars, startsLine_inside htail hmiddle] at hstart
    exact absurd hstart (by decide)
  · cases middle with
    | nil =>
      rw [List.append_nil] at hchars
      rw [← hchars, s.startsLine_chars] at hstart
      exact absurd hstart (by decide)
    | cons c middle =>
      rw [List.append_assoc]
      exact (s.noImport_inside hindent hpath hchars (List.cons_ne_nil _ _)
        hstart _).afterStatement?_eq_none target

end ImportStatement

end TypedFetch.Proto.Source
