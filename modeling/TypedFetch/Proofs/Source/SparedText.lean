import Mathlib.Data.List.Basic
import TypedFetch.Proofs.Source.ImportStatements
import TypedFetch.Proofs.Source.Lexemes

/-!
# What import removal spares

Removal deletes whole lines: what follows an import statement on its line goes with it, and a
comment or literal is not looked at.  The main statement is `removeImports_spares_iff`: after each
target, the lexemes of the text are those it had before without the import statements of the target
(`Without`), exactly if every statement of the target that is found stands alone in code, outside of
comments and literals, with a path that is one literal and nothing but blanks behind it on its line.

One direction follows the two readings side by side (`lexemesFrom_removeImportFrom`).  For the other
one the characters that are no blanks are counted: a statement that does not stand alone is deleted
with characters that should be spared (`weight_removeImportFrom`).
-/

namespace TypedFetch.Proto.Source

open TypedFetch.Text

/-! ## Statements in code -/

/-- The path of the statement of `target` that begins here is on one line, and one literal. -/
def PathIsLiteral (target cs : List Char) : Prop :=
  '\n' ∉ target ∧ opaqueLength? (cs.dropWhile fun c => !isQuote c) = some (target.length + 2)

instance (target cs : List Char) : Decidable (PathIsLiteral target cs) :=
  inferInstanceAs (Decidable (_ ∧ _))

/-- What follows an import statement of `target` that begins here, if its path is a literal. -/
def literalStatement? (target cs : List Char) : Option (List Char) :=
  (afterStatement? target cs).filter fun _ => decide (PathIsLiteral target cs)

/-- The lexemes of a text, after `skip` characters, without the import statements of `target` that
begin a line. -/
def sparedFrom (target : List Char) : Bool → Nat → List Char → List (List Char)
  | _, _, [] => []
  | start, skip, c :: rest =>
    match if start && skip == 0 then literalStatement? target (c :: rest) else none with
    | some after => sparedFrom target (c == '\n') (rest.length - after.length) rest
    | none => beginning skip c rest ++ sparedFrom target (c == '\n') (unreadAfter skip c rest) rest

/-- The lexemes of a text without the import statements of `target` that begin a line. -/
def spared (target text : List Char) : List (List Char) :=
  sparedFrom target true 0 text

/-- The statement that is found behind `before` stands in code, its path is a literal, and nothing
but blanks follows it on its line. -/
structure AloneInCode (target : List Char) (skip : Nat) (before here after : List Char) : Prop where
  code : unread skip before here = 0
  literal : PathIsLiteral target here
  lineEnd : ∀ c ∈ after.takeWhile (· != '\n'), isBlank c = true

/-- All statements of `target` that begin a line of the text stand alone in code. -/
def StatementsAlone (target : List Char) (start : Bool) (skip : Nat) (text : List Char) : Prop :=
  ∀ before here, text = before ++ here → startsLine start before = true →
    ∀ after ∈ afterStatement? target here, AloneInCode target skip before here after

instance (target : List Char) (skip : Nat) (before here after : List Char) :
    Decidable (AloneInCode target skip before here after) :=
  haveI := List.decidableBAll (isBlank · = true) (after.takeWhile (· != '\n'))
  decidable_of_iff (unread skip before here = 0 ∧ PathIsLiteral target here ∧
      ∀ c ∈ after.takeWhile (· != '\n'), isBlank c = true)
    ⟨fun ⟨h₁, h₂, h₃⟩ => ⟨h₁, h₂, h₃⟩, fun ⟨h₁, h₂, h₃⟩ => ⟨h₁, h₂, h₃⟩⟩

instance (target : List Char) (start : Bool) (skip : Nat) (text : List Char) :
    Decidable (StatementsAlone target start skip text) :=
  decidable_of_iff' _ (forall_lines_iff (P := fun before here =>
    ∀ after ∈ afterStatement? target here, AloneInCode target skip before here after) start text)

section Spared

variable {target : List Char} {start : Bool} {skip : Nat} {c : Char} {front back rest : List Char}

lemma sparedFrom_skip (target : List Char) (start : Bool) (front back : List Char) :
    sparedFrom target start front.length (front ++ back) =
      sparedFrom target (startsLine start front) 0 back := by
  induction front generalizing start with
  | nil => rfl
  | cons c front ih =>
    rw [List.cons_append, List.length_cons, sparedFrom]
    simpa [beginning, unreadAfter] using ih (c == '\n')

lemma sparedFrom_cons
    (h : start = true → skip = 0 → literalStatement? target (c :: rest) = none) :
    sparedFrom target start skip (c :: rest) =
      beginning skip c rest ++ sparedFrom target (c == '\n') (unreadAfter skip c rest) rest := by
  rw [sparedFrom]
  split
  · next after hafter =>
    split at hafter
    · next hhere =>
      obtain ⟨hstart, hskip⟩ : start = true ∧ skip = 0 := by simpa using hhere
      rw [h hstart hskip] at hafter
      exact absurd hafter (by simp)
    · exact absurd hafter (by simp)
  · rfl

/-- A statement in code is not spared. -/
lemma sparedFrom_statement (hne : front ≠ [])
    (h : literalStatement? target (front ++ back) = some back) :
    sparedFrom target true 0 (front ++ back) =
      sparedFrom target (startsLine true front) 0 back := by
  obtain ⟨c, front, rfl⟩ := List.exists_cons_of_ne_nil hne
  have hlength : (front ++ back).length - back.length = front.length := by simp
  rw [List.cons_append] at h ⊢
  rw [sparedFrom]
  simp only [Bool.true_and, BEq.rfl, if_true, h, hlength, sparedFrom_skip, startsLine_cons]

lemma sparedFrom_lexeme (h : start = true → literalStatement? target (c :: (front ++ back)) = none)
    (hc : isBlank c = false) (hlength : lexemeLength c (front ++ back) = front.length + 1) :
    sparedFrom target start 0 (c :: (front ++ back)) =
      (c :: front) :: sparedFrom target (startsLine start (c :: front)) 0 back := by
  rw [sparedFrom_cons fun hstart _ => h hstart, beginning, unreadAfter, if_neg (by simp [hc]),
    if_neg (by simp [hc]), hlength, Nat.add_sub_cancel, sparedFrom_skip, List.take_succ_cons,
    List.take_left, List.singleton_append, startsLine_cons]

lemma sparedFrom_blank (h : start = true → literalStatement? target (c :: rest) = none)
    (hc : isBlank c = true) :
    sparedFrom target start 0 (c :: rest) = sparedFrom target (c == '\n') 0 rest := by
  rw [sparedFrom_cons fun hstart _ => h hstart, beginning, unreadAfter, if_pos hc, if_pos hc,
    List.nil_append]

/-- The blanks at the end of a line are passed over. -/
lemma sparedFrom_lineEnd {tail : List Char} (hblank : ∀ c ∈ tail, isBlank c = true)
    (htail : '\n' ∉ tail) (target back : List Char) :
    sparedFrom target false 0 (tail ++ back) = sparedFrom target false 0 back := by
  induction tail with
  | nil => rfl
  | cons c tail ih =>
    obtain ⟨hc, hblank⟩ := List.forall_mem_cons.1 hblank
    obtain ⟨hnewline, htail⟩ : '\n' ≠ c ∧ '\n' ∉ tail := by simpa using htail
    rw [List.cons_append, sparedFrom_blank (fun h => absurd h (by decide)) hc,
      beq_eq_false_iff_ne.2 hnewline.symm, ih hblank htail]

end Spared

/-! ## Texts in parts -/

section Parts

variable {target : List Char} {start : Bool} {skip : Nat} {front back : List Char}

/-- The statements of the later lines stand alone as they do in the whole text. -/
lemma StatementsAlone.of_append (front : List Char)
    (h : StatementsAlone target start skip (front ++ back)) :
    StatementsAlone target (startsLine start front) (unread skip front back) back := by
  rintro before here rfl hstart after hafter
  have halone := h (front ++ before) here (by rw [List.append_assoc])
    (by rw [startsLine_append, hstart]) after hafter
  refine ⟨?_, halone.literal, halone.lineEnd⟩
  rw [← unread_append]
  exact halone.code

lemma StatementsAlone.append (front : List Char)
    (hfront : ∀ before here, front = before ++ here → here ≠ [] → startsLine start before = true →
      ∀ after ∈ afterStatement? target (here ++ back),
        AloneInCode target skip before (here ++ back) after)
    (hback : StatementsAlone target (startsLine start front) (unread skip front back) back) :
    StatementsAlone target start skip (front ++ back) := by
  intro before here hsplit hstart after hafter
  rcases List.append_eq_append_iff.1 hsplit with ⟨middle, rfl, rfl⟩ | ⟨middle, rfl, rfl⟩
  · rw [startsLine_append] at hstart
    have halone := hback middle here rfl hstart after hafter
    refine ⟨?_, halone.literal, halone.lineEnd⟩
    rw [unread_append]
    exact halone.code
  · by_cases hne : middle = []
    · subst hne
      rw [List.append_nil] at hback
      have halone := hback [] back rfl hstart after hafter
      exact ⟨halone.code, halone.literal, halone.lineEnd⟩
    · exact hfront before middle rfl hne hstart after hafter

end Parts

/-- No statement of the target begins here, or one does, and its line ends somewhere. -/
lemma statementLine_cases (target : List Char) (start : Bool) (cs : List Char) :
    (start = true → afterStatement? target cs = none) ∨
      ∃ (s : ImportStatement) (tail back : List Char), start = true ∧ s.path = target ∧
        (∀ c ∈ s.indent, c = ' ' ∨ c = '\t') ∧ cs = s.chars ++ (tail ++ back) ∧ '\n' ∉ tail ∧
        (back = [] ∨ ∃ rest, back = '\n' :: rest) := by
  cases hfound : afterStatement? target cs with
  | none => exact Or.inl fun _ => rfl
  | some after =>
    cases start with
    | false => exact Or.inl fun h => absurd h (by decide)
    | true =>
      obtain ⟨s, hpath, hindent, hcs⟩ := afterStatement?_eq_some_iff.1 hfound
      obtain ⟨tail, back, rfl, htail, hback⟩ := exists_line after
      exact Or.inr ⟨s, tail, back, rfl, hpath, hindent, hcs, htail, hback⟩

/-- The rest of the line, read back. -/
lemma takeWhile_lineEnd {tail back : List Char} (htail : '\n' ∉ tail)
    (hback : back = [] ∨ ∃ rest, back = '\n' :: rest) :
    (tail ++ back).takeWhile (· != '\n') = tail := by
  obtain ⟨hplain, hstop⟩ := lineEnd_stop htail hback
  exact takeWhile_append_of_stop hplain hstop

/-! ## Reading a statement -/

/-- A literal ends with its quote, or with a line feed. -/
lemma eq_of_stringLength {quote d : Char} {x y : List Char} (hy : y ≠ [])
    (h : stringLength quote (x ++ d :: y) = x.length + 1) : d = quote ∨ d = '\n' := by
  induction hlength : x.length using Nat.strong_induction_on generalizing x with
  | _ n ih =>
    subst hlength
    cases x with
    | nil =>
      rw [List.nil_append] at h
      -- a backslash at the end would take the next character along
      by_cases hd : d = '\\'
      · obtain ⟨e, y, rfl⟩ := List.exists_cons_of_ne_nil hy
        subst hd
        exact absurd h (by simp [stringLength])
      · rw [stringLength_cons hd] at h
        split at h
        · next hstop => simpa using hstop
        · exact absurd (eq_nil_of_stringLength (Nat.succ.inj h)) hy
    | cons e x =>
      by_cases he : e = '\\'
      · subst he
        cases x with
        | nil =>
          have hrest : stringLength quote y = 0 := by simpa [stringLength] using h
          exact absurd (eq_nil_of_stringLength hrest) hy
        | cons e x =>
          have hrest : stringLength quote (x ++ d :: y) = x.length + 1 := by
            simpa [stringLength] using h
          exact ih x.length (by simp only [List.length_cons]; omega) hrest rfl
      · rw [List.cons_append, stringLength_cons he] at h
        split at h
        · exact absurd h (by simp)
        · exact ih x.length (by simp) (Nat.succ.inj h) rfl

/-- The words that an import statement can have as its modifier. -/
def modifiers : List (List Char) :=
  ["public".toList, "weak".toList]

/-- The lexemes of an import statement. -/
def statementLexemes (modifier : Option (List Char)) (quote : Char) (target : List Char) :
    List (List Char) :=
  importKeyword :: (modifier.toList ++ [quote :: (target ++ [quote]), [';']])

/-- No quote stands in front of the path. -/
lemma dropWhile_quote (s : ImportStatement) (rest : List Char) :
    (s.chars ++ rest).dropWhile (fun c => !isQuote c) =
      s.opening :: (s.path ++ (s.endChars ++ rest)) := by
  have hblank : ∀ c, isBlank c = true → isQuote c = false := by
    intro c hc
    rw [Bool.eq_false_iff]
    intro hquote
    rw [not_isBlank_of_isQuote hquote] at hc
    exact absurd hc (by decide)
  have hkeyword : ∀ c ∈ importKeyword, isQuote c = false := by simp [importKeyword_eq, isQuote]
  have hmodifier : ∀ c ∈ s.modifier, isQuote c = false := by
    rcases s.isModifier with hnone | ⟨word, blanks, hword, -, hblanks, hsplit⟩
    · simp [hnone]
    · have hplain : ∀ c ∈ word, isQuote c = false := by
        rcases hword with rfl | rfl <;> simp [isQuote]
      rw [hsplit]
      intro c hc
      rcases List.mem_append.1 hc with hc | hc
      · exact hplain c hc
      · exact hblank c (hblanks c hc)
  have hchars : s.chars ++ rest = (s.indent ++ (importKeyword ++ (s.gap ++ s.modifier))) ++
      s.opening :: (s.path ++ (s.endChars ++ rest)) := by
    simp [ImportStatement.chars, ImportStatement.headChars]
  -- everything up to the opening quote is passed over
  rw [hchars]
  refine dropWhile_append_of_stop (fun c hc => ?_) fun c hc => ?_
  · simp only [List.mem_append] at hc
    rcases hc with hc | hc | hc | hc
    · rw [hblank c (s.indent_blank c hc)]; rfl
    · rw [hkeyword c hc]; rfl
    · rw [hblank c (s.gap_blank c hc)]; rfl
    · rw [hmodifier c hc]; rfl
  · obtain rfl : s.opening = c := by simpa using hc
    rw [s.opening_quote]; rfl

/-- A word stands apart from the blanks behind it. -/
lemma readsApart_wordBlanks {word blanks back : List Char} (hword : word ≠ [])
    (hchars : ∀ c ∈ word, isIdentifierChar c = true) (hne : blanks ≠ [])
    (hblanks : ∀ c ∈ blanks, isBlank c = true) : ReadsApart (word ++ blanks) [word] back := by
  have hstop : ∀ c ∈ (blanks ++ back).head?, isIdentifierChar c = false := by
    intro c hc
    rw [List.head?_append_of_ne_nil _ hne] at hc
    exact not_isIdentifierChar_of_isBlank (hblanks c (List.mem_of_head? hc))
  have hread := (ReadsApart.word hword hchars hstop).append (ReadsApart.blanks hblanks back)
  rwa [List.append_nil] at hread

/-- The modifier and the blanks behind it, or nothing. -/
lemma readsApart_modifier {cs : List Char} (h : IsModifier cs) (back : List Char) :
    ∃ modifier : Option (List Char), (∀ word ∈ modifier, word ∈ modifiers) ∧
      ReadsApart cs modifier.toList back := by
  rcases h with rfl | ⟨word, blanks, hword, hne, hblanks, rfl⟩
  · exact ⟨none, by simp, rfl, rfl⟩
  · have hmem : word ∈ modifiers := by
      rcases hword with rfl | rfl <;> decide
    have hword_ne : word ≠ [] := by
      rcases hword with rfl | rfl <;> decide
    have hchars : ∀ c ∈ word, isIdentifierChar c = true := by
      rcases hword with rfl | rfl <;> simp [isIdentifierChar]
    refine ⟨some word, ?_, readsApart_wordBlanks hword_ne hchars hne hblanks⟩
    intro other hother
    obtain rfl : word = other := Option.some.inj hother
    exact hmem

/-- A statement whose path is a literal is read as its lexemes. -/
lemma readsApart_statement {s : ImportStatement} {back : List Char}
    (h : PathIsLiteral s.path (s.chars ++ back)) : ∃ modifier quote,
      (∀ word ∈ modifier, word ∈ modifiers) ∧ isQuote quote = true ∧
      ReadsApart s.chars (statementLexemes modifier quote s.path) back := by
  obtain ⟨-, hwhole⟩ := h
  have hend : s.endChars ++ back = s.closing :: (s.tail ++ ([';'] ++ back)) := by
    simp [ImportStatement.endChars]
  rw [dropWhile_quote, hend] at hwhole
  -- a literal ends at a quote like its first one, and the path ends at the first quote
  have hclosing : s.closing = s.opening := by
    have hlength : stringLength s.opening (s.path ++ s.closing :: (s.tail ++ ([';'] ++ back))) =
        s.path.length + 1 := by
      rw [opaqueLength?_quote s.opening_quote] at hwhole
      exact Nat.succ.inj (Option.some.inj hwhole)
    rcases eq_of_stringLength (by simp) hlength with hsame | hnewline
    · exact hsame
    · exact absurd hnewline (ImportStatement.newline_not_mem_of_isQuote s.closing_quote)
  have hliteral : ReadsApart (s.opening :: (s.path ++ [s.opening]))
      [s.opening :: (s.path ++ [s.opening])] (s.tail ++ ([';'] ++ back)) := by
    refine ReadsApart.literal s.opening_quote ?_
    rw [List.append_assoc, List.length_append]
    rw [hclosing] at hwhole
    exact hwhole
  have hclose : ReadsApart (s.tail ++ [';']) [[';']] back :=
    (ReadsApart.blanks s.tail_blank _).append (ReadsApart.semicolon back)
  have hpath : ReadsApart (s.opening :: (s.path ++ [s.opening]) ++ (s.tail ++ [';']))
      ([s.opening :: (s.path ++ [s.opening])] ++ [[';']]) back := by
    refine ReadsApart.append ?_ hclose
    rwa [List.append_assoc]
  obtain ⟨modifier, hmodifier, hword⟩ := readsApart_modifier s.isModifier
    (s.opening :: (s.path ++ [s.opening]) ++ (s.tail ++ [';']) ++ back)
  have hkeyword : ReadsApart (importKeyword ++ s.gap) [importKeyword]
      (s.modifier ++ (s.opening :: (s.path ++ [s.opening]) ++ (s.tail ++ [';'])) ++ back) :=
    readsApart_wordBlanks (by decide) (by simp [importKeyword_eq, isIdentifierChar]) s.gap_ne_nil
      s.gap_blank
  have hall := (ReadsApart.blanks s.indent_blank _).append (hkeyword.append (hword.append hpath))
  have hchars : s.chars = s.indent ++ (importKeyword ++ s.gap ++
      (s.modifier ++ (s.opening :: (s.path ++ [s.opening]) ++ (s.tail ++ [';'])))) := by
    simp [ImportStatement.chars, ImportStatement.headChars, ImportStatement.endChars, hclosing]
  refine ⟨modifier, s.opening, hmodifier, s.opening_quote, ?_⟩
  rw [hchars]
  exact hall

/-- Lexemes from which some import statements of `target` are taken out. -/
inductive Without (target : List Char) : List (List Char) → List (List Char) → Prop
  | nil : Without target [] []
  | keep (lexeme : List Char) {before after : List (List Char)} (h : Without target before after) :
      Without target (lexeme :: before) (lexeme :: after)
  | statement {modifier : Option (List Char)} {quote : Char} {before after : List (List Char)}
      (hmodifier : ∀ word ∈ modifier, word ∈ modifiers) (hquote : isQuote quote = true)
      (h : Without target before after) :
      Without target (statementLexemes modifier quote target ++ before) after

/-- What is spared are the lexemes of the text without import statements of the target. -/
lemma without_sparedFrom (target : List Char) (start : Bool) (skip : Nat) (text : List Char) :
    Without target (lexemesFrom skip text) (sparedFrom target start skip text) := by
  induction hlength : text.length using Nat.strong_induction_on generalizing start skip text with
  | _ n ih =>
    subst hlength
    cases text with
    | nil => exact .nil
    | cons c rest =>
      by_cases hhere : start = true ∧ skip = 0 ∧
        (literalStatement? target (c :: rest)).isSome = true
      · obtain ⟨rfl, rfl, hsome⟩ := hhere
        obtain ⟨after, hafter⟩ := Option.isSome_iff_exists.1 hsome
        obtain ⟨hstatement, hliteral⟩ := Option.filter_eq_some_iff.1 hafter
        obtain ⟨s, rfl, -, hchars⟩ := afterStatement?_eq_some_iff.1 hstatement
        rw [hchars] at hafter hliteral ⊢
        obtain ⟨modifier, quote, hmodifier, hquote, hread⟩ :=
          readsApart_statement (of_decide_eq_true hliteral)
        rw [hread.lexemes, sparedFrom_statement s.chars_ne_nil hafter]
        refine .statement hmodifier hquote (ih after.length ?_ _ _ _ rfl)
        have hpos : 0 < s.chars.length := List.length_pos_of_ne_nil s.chars_ne_nil
        rw [hchars, List.length_append]
        omega
      · have hnone : start = true → skip = 0 → literalStatement? target (c :: rest) = none := by
          intro hstart hskip
          rw [Option.eq_none_iff_forall_ne_some]
          exact fun after hafter => hhere ⟨hstart, hskip, by rw [hafter]; rfl⟩
        -- no statement of the target begins here, so what begins here is kept
        have hrest := ih rest.length (by simp) (c == '\n') (unreadAfter skip c rest) rest rfl
        rw [lexemesFrom, sparedFrom_cons hnone]
        generalize beginning skip c rest = begun
        induction begun with
        | nil => exact hrest
        | cons lexeme begun hbegun => exact .keep lexeme hbegun

/-! ## Statements that stand alone -/

lemma literalStatement?_eq_none {target cs : List Char} (h : afterStatement? target cs = none) :
    literalStatement? target cs = none := by
  rw [literalStatement?, h]
  rfl

/-- No statement is found at the end of a text. -/
lemma afterStatement?_nil (target : List Char) : afterStatement? target [] = none := rfl

/-- A statement of `target` that stands alone is read apart, and deleted with the blanks behind
it. -/
lemma sparedFrom_statementLine {s : ImportStatement} {tail back : List Char}
    (hindent : ∀ c ∈ s.indent, c = ' ' ∨ c = '\t')
    (hliteral : PathIsLiteral s.path (s.chars ++ (tail ++ back))) :
    sparedFrom s.path true 0 (s.chars ++ (tail ++ back)) =
      sparedFrom s.path false 0 (tail ++ back) := by
  have hstatement : literalStatement? s.path (s.chars ++ (tail ++ back)) = some (tail ++ back) := by
    rw [literalStatement?, afterStatement?_eq_some_iff.2 ⟨s, rfl, hindent, rfl⟩]
    simp [hliteral]
  rw [sparedFrom_statement s.chars_ne_nil hstatement, s.startsLine_chars]

section Alone

variable {target : List Char} {start : Bool} {c : Char} {front back rest : List Char}

lemma StatementsAlone.of_blank (h : StatementsAlone target start 0 (c :: rest))
    (hc : isBlank c = true) :
    StatementsAlone target (c == '\n') 0 rest := by
  have hparts := StatementsAlone.of_append [c] h
  rwa [unread, unreadAfter, if_pos hc] at hparts

lemma StatementsAlone.of_lexeme (h : StatementsAlone target start 0 (c :: (front ++ back)))
    (hc : isBlank c = false) (hlexeme : lexemeLength c (front ++ back) = front.length + 1) :
    StatementsAlone target (startsLine start (c :: front)) 0 back := by
  have hparts := StatementsAlone.of_append (c :: front) h
  have hunread := unread_lexeme hc hlexeme (List.append_nil front).symm
  rw [List.nil_append] at hunread
  rwa [hunread] at hparts

/-- A statement that stands alone is followed by blanks up to the end of its line. -/
lemma StatementsAlone.of_statement {s : ImportStatement} {tail : List Char}
    (h : StatementsAlone s.path true 0 (s.chars ++ (tail ++ back)))
    (hindent : ∀ c ∈ s.indent, c = ' ' ∨ c = '\t') (htail : '\n' ∉ tail)
    (hback : back = [] ∨ ∃ rest, back = '\n' :: rest) :
    PathIsLiteral s.path (s.chars ++ (tail ++ back)) ∧ (∀ c ∈ tail, isBlank c = true) ∧
      StatementsAlone s.path false 0 back := by
  have halone := h [] (s.chars ++ (tail ++ back)) rfl rfl (tail ++ back)
    (afterStatement?_eq_some_iff.2 ⟨s, rfl, hindent, rfl⟩)
  have hblank := halone.lineEnd
  rw [takeWhile_lineEnd htail hback] at hblank
  obtain ⟨modifier, quote, -, -, hread⟩ := readsApart_statement halone.literal
  have hline := hread.append (ReadsApart.blanks hblank back)
  rw [← List.append_assoc] at h
  have hparts := StatementsAlone.of_append (s.chars ++ tail) h
  rw [startsLine_statementLine s htail, hline.unread] at hparts
  exact ⟨halone.literal, hblank, hparts⟩

/-- A lexeme stays as a whole: a statement that begins within it would not stand in code. -/
lemma removeImportFrom_lexeme (h : StatementsAlone target start 0 (c :: (front ++ back)))
    (hnone : start = true → afterStatement? target (c :: (front ++ back)) = none)
    (hc : isBlank c = false) (hlexeme : lexemeLength c (front ++ back) = front.length + 1) :
    removeImportFrom target start 0 (c :: (front ++ back)) =
      c :: (front ++ removeImportFrom target (startsLine start (c :: front)) 0 back) := by
  have hplace : ∀ before here, c :: front = before ++ here → here ≠ [] →
      startsLine start before = true → afterStatement? target (here ++ back) = none := by
    intro before here hsplit hhere hstart
    cases before with
    | nil =>
      rw [List.nil_append] at hsplit
      rw [← hsplit]
      exact hnone hstart
    | cons d before =>
      obtain ⟨rfl, hfront⟩ := List.cons.inj hsplit
      rw [Option.eq_none_iff_forall_ne_some]
      intro after hafter
      have hcode := (h (c :: before) (here ++ back) (by rw [hfront]; simp) hstart after hafter).code
      rw [unread_lexeme hc hlexeme hfront] at hcode
      exact hhere (List.eq_nil_of_length_eq_zero hcode)
  exact removeImportFrom_append_of_none hplace

/-- What is left behind a lexeme begins as before, unless the lexeme ends its line. -/
lemma lexemeLength_removeImportFrom (target : List Char) (start : Bool) (hc : isBlank c = false)
    (hlexeme : lexemeLength c (front ++ back) = front.length + 1) :
    lexemeLength c (front ++ removeImportFrom target (startsLine start (c :: front)) 0 back) =
      front.length + 1 := by
  refine lexemeLength_local hc (fun hnil => ?_) (fun hline => ?_) hlexeme
  · rw [hnil]
    cases startsLine start (c :: front) <;> rfl
  · rw [startsLine_cons] at hline
    rw [startsLine_cons, hline]
    cases back <;> rfl

/-- After the removal of statements that stand alone in code, the text is read as before but for the
statements.  The induction is on the length of the text, which is read by lexemes and statements. -/
lemma lexemesFrom_removeImportFrom {text : List Char} (h : StatementsAlone target start 0 text) :
    lexemesFrom 0 (removeImportFrom target start 0 text) = sparedFrom target start 0 text := by
  induction hlength : text.length using Nat.strong_induction_on generalizing start text with
  | _ n ih =>
    subst hlength
    cases text with
    | nil => cases start <;> rfl
    | cons c rest =>
      rcases statementLine_cases target start (c :: rest) with hnone |
        ⟨s, tail, back, rfl, rfl, hindent, hchars, htail, hback⟩
      · have hspared : start = true → literalStatement? target (c :: rest) = none :=
          fun hstart => literalStatement?_eq_none (hnone hstart)
        cases hc : isBlank c with
        | true =>
          rw [removeImportFrom_cons hnone, lexemesFrom_blank hc, sparedFrom_blank hspared hc]
          exact ih rest.length (by simp) (h.of_blank hc) rfl
        | false =>
          -- a lexeme is kept whole, because no statement begins inside of it
          obtain ⟨front, back, rfl, hlexeme⟩ := exists_lexeme c rest
          have hnext := h.of_lexeme hc hlexeme
          rw [removeImportFrom_lexeme h hnone hc hlexeme, lexemesFrom_lexeme hc
            (lexemeLength_removeImportFrom target start hc hlexeme),
            sparedFrom_lexeme hspared hc hlexeme]
          have hshorter : back.length < (c :: (front ++ back)).length := by
            simp only [List.length_cons, List.length_append]
            omega
          exact congrArg _ (ih back.length hshorter hnext rfl)
      · rw [hchars] at h ih ⊢
        obtain ⟨hliteral, hblank, hnext⟩ := h.of_statement hindent htail hback
        have hpos : 0 < s.chars.length := List.length_pos_of_ne_nil s.chars_ne_nil
        rw [removeImportFrom_statement hindent htail hback,
          sparedFrom_statementLine hindent hliteral, sparedFrom_lineEnd hblank htail]
        exact ih back.length (by simp only [List.length_append]; omega) hnext rfl

end Alone

/-! ## Weights -/

/-- The weight of what is to be spared of a text, with the rest of the lexeme that was begun
before. -/
def sparedWeight (target : List Char) (start : Bool) (skip : Nat) (text : List Char) : Nat :=
  weight (text.take skip) + weight (sparedFrom target start skip text).flatten

section Weights

variable {target : List Char} {start : Bool} {skip : Nat} {c : Char} {front back rest : List Char}

lemma sparedWeight_cons
    (h : start = true → skip = 0 → literalStatement? target (c :: rest) = none) :
    sparedWeight target start skip (c :: rest) =
      weight [c] + sparedWeight target (c == '\n') (unreadAfter skip c rest) rest := by
  have hhere := weight_beginning skip c rest
  rw [sparedWeight, sparedWeight, sparedFrom_cons h, List.flatten_append, weight_append]
  omega

/-- Where no statement is passed over, all characters of a front part are to be spared. -/
lemma sparedWeight_append
    (h : ∀ before here, front = before ++ here → here ≠ [] → startsLine start before = true →
      unread skip before (here ++ back) = 0 → literalStatement? target (here ++ back) = none) :
    sparedWeight target start skip (front ++ back) =
      weight front +
        sparedWeight target (startsLine start front) (unread skip front back) back := by
  induction front generalizing start skip with
  | nil =>
    rw [weight_nil, Nat.zero_add]
    rfl
  | cons c front ih =>
    have hnone : start = true → skip = 0 → literalStatement? target (c :: (front ++ back)) = none :=
      fun hstart hskip => h [] (c :: front) rfl (List.cons_ne_nil _ _) hstart hskip
    have hrest : ∀ before here, front = before ++ here → here ≠ [] →
        startsLine (c == '\n') before = true →
        unread (unreadAfter skip c (front ++ back)) before (here ++ back) = 0 →
        literalStatement? target (here ++ back) = none :=
          fun before here hsplit hhere hstart hunread => by
      refine h (c :: before) here (by rw [hsplit, List.cons_append]) hhere hstart ?_
      rwa [unread, ← List.append_assoc, ← hsplit]
    rw [List.cons_append, sparedWeight_cons hnone, ih hrest, weight_cons c front, unread,
      startsLine_cons, Nat.add_assoc]

/-- A line on which a statement is found is not blank. -/
lemma weight_statementLine_pos (s : ImportStatement) (tail : List Char) :
    0 < weight (s.chars ++ tail) := by
  rw [Nat.pos_iff_ne_zero, ne_eq, weight_eq_zero_iff]
  intro hblank
  exact absurd (hblank ';' (by simp [ImportStatement.chars, ImportStatement.endChars])) (by decide)

/-- No literal statement begins on the lines of a statement, but at its front. -/
lemma literalStatement?_inside {s : ImportStatement} {tail before here : List Char}
    (hindent : ∀ c ∈ s.indent, c = ' ' ∨ c = '\t') (htail : '\n' ∉ tail)
    (hsplit : s.chars ++ tail = before ++ here) (hhere : here ≠ []) (hbefore : before ≠ [])
    (hstart : startsLine true before = true) (back : List Char) :
    literalStatement? s.path (here ++ back) = none := by
  have hnewline := newline_not_mem_of_spaces hindent
  by_cases hpath : '\n' ∈ s.path
  · rw [literalStatement?, Option.filter_eq_none_iff]
    intro after _ hliteral
    exact (of_decide_eq_true hliteral).1 hpath
  · exact literalStatement?_eq_none
      (s.afterStatement?_inside hnewline hpath htail hsplit hhere hbefore hstart s.path)

/-- A statement in code that is followed by more than blanks costs what follows it. -/
lemma sparedWeight_statement {s : ImportStatement} {tail : List Char}
    (hindent : ∀ c ∈ s.indent, c = ' ' ∨ c = '\t') (htail : '\n' ∉ tail)
    (hliteral : PathIsLiteral s.path (s.chars ++ (tail ++ back))) :
    sparedWeight s.path true 0 (s.chars ++ (tail ++ back)) =
      weight tail + sparedWeight s.path false (unread 0 (s.chars ++ tail) back) back := by
  obtain ⟨modifier, quote, -, -, hread⟩ := readsApart_statement hliteral
  have hrest : sparedWeight s.path false 0 (tail ++ back) =
      weight tail + sparedWeight s.path (startsLine false tail) (unread 0 tail back) back := by
    refine sparedWeight_append fun before here hsplit _ hstart _ => ?_
    rw [startsLine_inside htail hsplit] at hstart
    exact absurd hstart (by decide)
  rw [startsLine_false_of_not_mem htail] at hrest
  rw [unread_append, hread.unread, ← hrest, sparedWeight, sparedWeight,
    sparedFrom_statementLine hindent hliteral, List.take_zero, List.take_zero]

/-- Any other statement costs its whole line. -/
lemma sparedWeight_line {s : ImportStatement} {tail : List Char}
    (hindent : ∀ c ∈ s.indent, c = ' ' ∨ c = '\t') (htail : '\n' ∉ tail)
    (hother : ¬ (skip = 0 ∧ PathIsLiteral s.path (s.chars ++ (tail ++ back)))) :
    sparedWeight s.path true skip (s.chars ++ (tail ++ back)) =
      weight (s.chars ++ tail) +
        sparedWeight s.path false (unread skip (s.chars ++ tail) back) back := by
  rw [← List.append_assoc, sparedWeight_append, startsLine_statementLine s htail]
  intro before here hsplit hhere hstart hunread
  by_cases hbefore : before = []
  · subst hbefore
    rw [List.nil_append] at hsplit
    rw [← hsplit, List.append_assoc, literalStatement?, Option.filter_eq_none_iff]
    intro after _ hliteral
    exact hother ⟨hunread, of_decide_eq_true hliteral⟩
  · exact literalStatement?_inside hindent htail hsplit hhere hbefore hstart back

/-- Statements stand alone on all lines if the one in front does and those behind it do. -/
lemma StatementsAlone.statement {s : ImportStatement} {tail : List Char}
    (hindent : ∀ c ∈ s.indent, c = ' ' ∨ c = '\t') (htail : '\n' ∉ tail)
    (hback : back = [] ∨ ∃ rest, back = '\n' :: rest)
    (hliteral : PathIsLiteral s.path (s.chars ++ (tail ++ back)))
    (hblank : ∀ c ∈ tail, isBlank c = true)
    (h : StatementsAlone s.path false (unread 0 (s.chars ++ tail) back) back) :
    StatementsAlone s.path true 0 (s.chars ++ (tail ++ back)) := by
  have hnewline := newline_not_mem_of_spaces hindent
  rw [← List.append_assoc]
  refine StatementsAlone.append _ ?_ (by rwa [startsLine_statementLine s htail])
  intro before here hsplit hhere hstart after hafter
  by_cases hbefore : before = []
  · subst hbefore
    rw [List.nil_append] at hsplit
    rw [← hsplit, List.append_assoc] at hafter ⊢
    rw [afterStatement?_eq_some_iff.2 ⟨s, rfl, hindent, rfl⟩] at hafter
    obtain rfl : tail ++ back = after := Option.some.inj hafter
    refine ⟨rfl, hliteral, ?_⟩
    rwa [takeWhile_lineEnd htail hback]
  · rw [s.afterStatement?_inside hnewline hliteral.1 htail hsplit hhere hbefore hstart s.path]
      at hafter
    exact absurd hafter (by simp)

end Weights

/-- Removal leaves no more characters than are to be spared, blanks aside, and fewer if one of the
statements does not stand alone.  The induction is on the length of the text. -/
lemma weight_removeImportFrom (target : List Char) (start : Bool) (skip : Nat) (text : List Char) :
    weight (removeImportFrom target start 0 text) ≤ sparedWeight target start skip text ∧
      (weight (removeImportFrom target start 0 text) = sparedWeight target start skip text →
        StatementsAlone target start skip text) := by
  induction hlength : text.length using Nat.strong_induction_on generalizing start skip text with
  | _ n ih =>
    subst hlength
    cases text with
    | nil =>
      have hremoved : removeImportFrom target start 0 [] = [] := by
        cases start <;> rfl
      refine ⟨by rw [hremoved]; exact Nat.zero_le _, fun _ before here hsplit _ after hafter => ?_⟩
      obtain ⟨-, rfl⟩ := List.append_eq_nil_iff.1 hsplit.symm
      exact absurd hafter (by simp [afterStatement?_nil])
    | cons c rest =>
      rcases statementLine_cases target start (c :: rest) with hnone |
        ⟨s, tail, back, rfl, rfl, hindent, hchars, htail, hback⟩
      -- no statement is removed here, so one character is kept
      · obtain ⟨hle, halone⟩ :=
          ih rest.length (by simp) (c == '\n') (unreadAfter skip c rest) rest rfl
        rw [removeImportFrom_cons hnone, weight_cons,
          sparedWeight_cons fun hstart _ => literalStatement?_eq_none (hnone hstart)]
        refine ⟨by omega, fun heq => StatementsAlone.append [c] ?_ (halone (by omega))⟩
        intro before here hsplit hhere hstart after hafter
        obtain ⟨rfl, rfl⟩ : before = [] ∧ here = [c] := by
          rcases List.singleton_eq_append_iff.1 hsplit with h | h
          · exact h
          · exact absurd h.2 hhere
        rw [List.singleton_append, hnone hstart] at hafter
        exact absurd hafter (by simp)
      -- a statement is removed with its line, of which only what is not spared may be lost
      · have hpos : 0 < s.chars.length := List.length_pos_of_ne_nil s.chars_ne_nil
        rw [hchars] at ih ⊢
        obtain ⟨hle, halone⟩ := ih back.length (by simp only [List.length_append]; omega) false
          (unread skip (s.chars ++ tail) back) back rfl
        rw [removeImportFrom_statement hindent htail hback]
        by_cases hcode : skip = 0 ∧ PathIsLiteral s.path (s.chars ++ (tail ++ back))
        · obtain ⟨rfl, hliteral⟩ := hcode
          rw [sparedWeight_statement hindent htail hliteral]
          refine ⟨by omega, fun heq => ?_⟩
          have hblank : ∀ c ∈ tail, isBlank c = true := weight_eq_zero_iff.1 (by omega)
          exact StatementsAlone.statement hindent htail hback hliteral hblank (halone (by omega))
        · have hline := weight_statementLine_pos s tail
          rw [sparedWeight_line hindent htail hcode]
          exact ⟨by omega, fun heq => absurd heq (by omega)⟩

/-! ## The main statement -/

lemma lexemes_removeImportFrom_iff (target text : List Char) :
    lexemes (removeImportFrom target true 0 text) = spared target text ↔
      StatementsAlone target true 0 text := by
  constructor
  · intro h
    refine (weight_removeImportFrom target true 0 text).2 ?_
    have hread := weight_lexemesFrom 0 (removeImportFrom target true 0 text)
    rw [lexemes, spared] at h
    rw [h] at hread
    exact hread.symm
  · exact lexemesFrom_removeImportFrom

lemma removeImports_append (text : List Char) (done : List (List Char)) (target : List Char) :
    removeImports text (done ++ [target]) =
      removeImportFrom target true 0 (removeImports text done) := by
  rw [removeImports, List.foldl_append]
  rfl

/-- **What removal spares.**  What is spared at each target are the lexemes of the text without
some import statements of the target, and removal leaves these lexemes, at every target, exactly if
every statement that is found stands alone in code. -/
theorem removeImports_spares_iff (text : List Char) (targets : List (List Char)) :
    (∀ done target, done ++ [target] <+: targets →
      Without target (lexemes (removeImports text done))
        (spared target (removeImports text done))) ∧
    ((∀ done target, done ++ [target] <+: targets →
        lexemes (removeImports text (done ++ [target])) = spared target (removeImports text done)) ↔
      ∀ done target, done ++ [target] <+: targets →
        StatementsAlone target true 0 (removeImports text done)) := by
  refine ⟨fun done target _ => without_sparedFrom target true 0 _, ?_⟩
  have hstep : ∀ done target, lexemes (removeImports text (done ++ [target])) =
      spared target (removeImports text done) ↔
        StatementsAlone target true 0 (removeImports text done) := by
    intro done target
    rw [removeImports_append]
    exact lexemes_removeImportFrom_iff target (removeImports text done)
  constructor
  · exact fun h done target hdone => (hstep done target).1 (h done target hdone)
  · exact fun h done target hdone => (hstep done target).2 (h done target hdone)

/-- The import of `a` stands alone, and that of `b` in a comment. -/
theorem removeImports_spares_iff_comment :
    let text := "import 'a'; \nenum A\n/*\nimport 'b';\n*/".toList
    StatementsAlone ['a'] true 0 text ∧ ¬ StatementsAlone ['b'] true 0 text ∧
      lexemes (removeImports text [['a']]) =
        ["enum".toList, ['A'], "/*\nimport 'b';\n*/".toList] ∧
      lexemes (removeImports text [['b']]) ≠ spared ['b'] text := by
  intro text
  have hcode : StatementsAlone ['a'] true 0 text := by decide
  have hcomment : ¬ StatementsAlone ['b'] true 0 text := by decide
  have hsingle : ∀ (target : List Char) done target', done ++ [target'] <+: [target] →
      done = [] ∧ target' = target := by
    intro target done target' hdone
    obtain ⟨rest, hrest⟩ := hdone
    rcases List.append_eq_singleton_iff.1 hrest with ⟨h, -⟩ | ⟨h, -⟩
    · exact absurd h (by simp)
    · rcases List.append_eq_singleton_iff.1 h with ⟨rfl, h⟩ | ⟨-, h⟩
      · exact ⟨rfl, (List.cons.inj h).1⟩
      · exact absurd h (by simp)
  refine ⟨hcode, hcomment, ?_, fun hspared => hcomment ?_⟩
  · have halone : ∀ done target, done ++ [target] <+: [['a']] →
        StatementsAlone target true 0 (removeImports text done) := by
      intro done target hdone
      obtain ⟨rfl, rfl⟩ := hsingle ['a'] done target hdone
      exact hcode
    have hleft := (removeImports_spares_iff text [['a']]).2.2 halone [] ['a'] (List.prefix_refl _)
    rw [List.nil_append] at hleft
    rw [hleft]
    decide
  · have hstep : ∀ done target, done ++ [target] <+: [['b']] →
        lexemes (removeImports text (done ++ [target])) =
          spared target (removeImports text done) := by
      intro done target hdone
      obtain ⟨rfl, rfl⟩ := hsingle ['b'] done target hdone
      exact hspared
    exact (removeImports_spares_iff text [['b']]).2.1 hstep [] ['b'] (List.prefix_refl _)

end TypedFetch.Proto.Source
