import TypedFetch.Proofs.Source.ImportStatements
import TypedFetch.Proofs.Text.Cut

/-!
# Imports that are left

The main statement is `imports_removeImports`: what is imported after the removal of some paths is
what was imported before, without these paths.  The text has to be regular: every line that begins
with the keyword begins a whole statement, with a path on one line.

A regular text is a row of lines and import statements (`Lines`), and removal makes such a row of
it again (`Lines.removeImport`): an empty line stands where a statement was.  So the statements of
one path can be removed after those of another.
-/

namespace TypedFetch.Proto.Source

open TypedFetch.Text

/-! ## Regular texts -/

/-- The keyword and a blank stand here, after spaces and tabs. -/
def beginsImport (cs : List Char) : Bool :=
  match dropPrefix? "import".toList (cs.dropWhile fun c => c == ' ' || c == '\t') with
  | some (c :: _) => isBlank c
  | _ => false

/-- Spaces, tabs and line feeds are the only blanks of the text, every line that begins with the
keyword and a blank begins an import statement, and the paths of import statements are each on one
line. -/
structure CompleteImports (text : List Char) : Prop where
  blank : ∀ c ∈ text, isBlank c = true → c = ' ' ∨ c = '\t' ∨ c = '\n'
  complete : ∀ before here, text = before ++ here → startsLine true before = true →
    beginsImport here = true → ∃ path rest, importAt? here = some (path, rest)
  oneLine : ∀ before here, text = before ++ here → startsLine true before = true →
    ∀ path rest, importAt? here = some (path, rest) → '\n' ∉ path

/-- A regular text is regular from any of its lines on. -/
lemma CompleteImports.of_append {front rest : List Char} (h : CompleteImports (front ++ rest))
    (hfront : startsLine true front = true) : CompleteImports rest := by
  have hsplit : ∀ {before here}, rest = before ++ here →
    front ++ rest = front ++ before ++ here := by
    rintro before here rfl
    rw [List.append_assoc]
  have hstart : ∀ {before}, startsLine true before = true →
    startsLine true (front ++ before) = true := by
    intro before hbefore
    rw [startsLine_append, hfront, hbefore]
  refine ⟨fun c hc => h.blank c (List.mem_append_right _ hc), ?_, ?_⟩
  · intro before here hrest hbefore
    exact h.complete (front ++ before) here (hsplit hrest) (hstart hbefore)
  · intro before here hrest hbefore
    exact h.oneLine (front ++ before) here (hsplit hrest) (hstart hbefore)

/-- Regularity is checked place by place. -/
lemma completeImports_iff (text : List Char) : CompleteImports text ↔
    (∀ c ∈ text, isBlank c = true → c = ' ' ∨ c = '\t' ∨ c = '\n') ∧
    ∀ n < text.length + 1, startsLine true (text.take n) = true →
      (beginsImport (text.drop n) = true → (importAt? (text.drop n)).isSome = true) ∧
      ∀ found ∈ importAt? (text.drop n), '\n' ∉ found.1 := by
  rw [← forall_lines_iff (P := fun _ here =>
    (beginsImport here = true → (importAt? here).isSome = true) ∧
      ∀ found ∈ importAt? here, '\n' ∉ found.1)]
  constructor
  · rintro ⟨hblank, hcomplete, honeLine⟩
    refine ⟨hblank, fun before here hsplit hstart => ⟨fun hbegins => ?_, fun found hfound => ?_⟩⟩
    · obtain ⟨path, rest, hread⟩ := hcomplete before here hsplit hstart hbegins
      rw [hread, Option.isSome_some]
    · exact honeLine before here hsplit hstart found.1 found.2 hfound
  · rintro ⟨hblank, hplaces⟩
    refine ⟨hblank, fun before here hsplit hstart hbegins => ?_,
      fun before here hsplit hstart path rest hread =>
        (hplaces before here hsplit hstart).2 (path, rest) hread⟩
    obtain ⟨⟨path, rest⟩, hread⟩ :=
      Option.isSome_iff_exists.1 ((hplaces before here hsplit hstart).1 hbegins)
    exact ⟨path, rest, hread⟩

instance (text : List Char) : Decidable (CompleteImports text) :=
  haveI := List.decidableBAll (fun c => isBlank c = true → c = ' ' ∨ c = '\t' ∨ c = '\n') text
  decidable_of_iff' _ (completeImports_iff text)

/-! ## Rows of lines and statements -/

/-- A line on which no import statement begins, in front of what follows it. -/
structure PlainLine (line after : List Char) : Prop where
  newline : '\n' ∉ line
  blank : ∀ c ∈ line, isBlank c = true → c = ' ' ∨ c = '\t'
  noImport : beginsImport (line ++ after) = false

/-- An import statement that begins a line, and what follows it on its last line. -/
structure LineImport (s : ImportStatement) (tail : List Char) : Prop where
  indent : ∀ c ∈ s.indent, c = ' ' ∨ c = '\t'
  path_ne_nil : s.path ≠ []
  path_quotes : ∀ c ∈ s.path, isQuote c = false
  path_newline : '\n' ∉ s.path
  tail_newline : '\n' ∉ tail

/-- Lines and import statements, with a line feed in front of each. -/
inductive Lines : List Char → Prop
  | nil : Lines []
  | line {line after : List Char} (hline : PlainLine line after) (hafter : Lines after) :
      Lines ('\n' :: (line ++ after))
  | statement {s : ImportStatement} {tail after : List Char} (hs : LineImport s tail)
      (hafter : Lines after) : Lines ('\n' :: (s.chars ++ (tail ++ after)))

/-- A row ends, or goes on with a line feed. -/
lemma Lines.cases_head {cs : List Char} (h : Lines cs) : cs = [] ∨ ∃ rest, cs = '\n' :: rest := by
  cases h with
  | nil => exact Or.inl rfl
  | line => exact Or.inr ⟨_, rfl⟩
  | statement => exact Or.inr ⟨_, rfl⟩

/-- Whether a line begins with the keyword does not depend on the next lines. -/
lemma beginsImport_newline (line rest : List Char) :
    beginsImport (line ++ '\n' :: rest) = beginsImport (line ++ ['\n']) := by
  have hstop : ('\n' == ' ' || '\n' == '\t') = false := by decide
  have hkeyword : '\n' ∉ "import".toList := by decide
  rw [beginsImport, beginsImport, dropWhile_append_of_neg hstop, dropWhile_append_of_neg hstop,
    dropPrefix?_append_cons hkeyword, dropPrefix?_append_cons hkeyword]
  cases dropPrefix? "import".toList (line.dropWhile fun c => c == ' ' || c == '\t') with
  | none => rfl
  | some back => cases back <;> rfl

/-- A statement after spaces and tabs begins with the keyword. -/
lemma beginsImport_chars {s : ImportStatement} (h : ∀ c ∈ s.indent, c = ' ' ∨ c = '\t')
    (rest : List Char) : beginsImport (s.chars ++ rest) = true := by
  have hspaces : ∀ c ∈ s.indent, (c == ' ' || c == '\t') = true := by
    intro c hc
    simpa using h c hc
  obtain ⟨c, gap, hgap⟩ := List.exists_cons_of_ne_nil s.gap_ne_nil
  have hblank : isBlank c = true := s.gap_blank c (by simp [hgap])
  have hhead : s.headChars ++ (s.path ++ (s.endChars ++ rest)) = "import".toList ++
      (c :: (gap ++ (s.modifier ++ s.opening :: (s.path ++ (s.endChars ++ rest))))) := by
    simp [ImportStatement.headChars, importKeyword_eq, hgap]
  rw [beginsImport, dropWhile_chars s rest hspaces (by decide), hhead, dropPrefix?_append]
  exact hblank

/-! ## Following the searches over lines -/

/-- No import statement is removed from a line that does not begin with the keyword. -/
lemma afterImportOf?_eq_none {cs : List Char} (h : beginsImport cs = false) (target : List Char) :
    afterImportOf? target cs = none := by
  rw [afterImportOf?_eq, Option.map_eq_none_iff]
  refine Option.eq_none_iff_forall_ne_some.2 fun rest hrest => ?_
  obtain ⟨s, -, hindent, rfl⟩ := afterStatement?_eq_some_iff.1 hrest
  rw [beginsImport_chars hindent] at h
  exact absurd h (by decide)

lemma findAtLines_importAt? {cs path rest : List Char} (h : importAt? cs = some (path, rest)) :
    findAtLines importAt? true 0 cs = path :: findAtLines importAt? false 0 rest := by
  obtain ⟨-, -, s, -, rfl⟩ := importAt?_eq_some_iff.1 h
  rw [findAtLines_found s.chars_ne_nil h, s.startsLine_chars]

lemma importAt?_blanks {gap : List Char} (h : ∀ c ∈ gap, isBlank c = true) (cs : List Char) :
    importAt? (gap ++ cs) = importAt? cs := by
  rw [importAt?, importAt?, List.dropWhile_append_of_pos h]

/-- On a plain line an import statement is read only if the line is blank: the statement stands on a
later line. -/
lemma PlainLine.isBlank_of_importAt? {line after path rest : List Char} (h : PlainLine line after)
    (hread : importAt? (line ++ after) = some (path, rest)) : ∀ c ∈ line, isBlank c = true := by
  obtain ⟨-, -, s, -, hsplit⟩ := importAt?_eq_some_iff.1 hread
  have hsplit' : line ++ after = s.indent ++ (s.headChars ++ (s.path ++ s.endChars) ++ rest) := by
    rw [hsplit, ImportStatement.chars, List.append_assoc]
  rcases List.append_eq_append_iff.1 hsplit' with ⟨middle, hindent, -⟩ | ⟨middle, hline, -⟩
  · intro c hc
    exact s.indent_blank c (by rw [hindent]; exact List.mem_append_left _ hc)
  · have hspaces : ∀ c ∈ s.indent, c = ' ' ∨ c = '\t' := fun c hc =>
      h.blank c (by rw [hline]; exact List.mem_append_left _ hc) (s.indent_blank c hc)
    have hbegins := h.noImport
    rw [hsplit, beginsImport_chars hspaces] at hbegins
    exact absurd hbegins (by decide)

/-- A plain line is one line: none begins behind its front. -/
lemma PlainLine.eq_nil_of_startsLine {line after before here : List Char}
    (h : PlainLine line after) (hsplit : line = before ++ here)
    (hstart : startsLine true before = true) : before = [] :=
  Source.eq_nil_of_startsLine (fun hmem => h.newline (by simp [hsplit, hmem])) hstart

/-- Nothing is found on a plain line. -/
lemma findAtLines_line {line after : List Char} (hline : PlainLine line after)
    (hafter : after = [] ∨ ∃ rest, after = '\n' :: rest) :
    findAtLines importAt? true 0 (line ++ after) = findAtLines importAt? false 0 after := by
  rcases hafter with rfl | ⟨rest, rfl⟩
  · have hnone : importAt? (line ++ []) = none := by
      refine Option.eq_none_iff_forall_ne_some.2 fun found hread => ?_
      obtain ⟨path, behind⟩ := found
      have hnil : importAt? [] = none := rfl
      rw [importAt?_blanks (hline.isBlank_of_importAt? hread), hnil] at hread
      exact absurd hread (by simp)
    rw [findAtLines_append]
    · rfl
    · intro before here hfront _ hstart
      obtain rfl := hline.eq_nil_of_startsLine hfront hstart
      rw [List.nil_append] at hfront
      rw [← hfront, hnone]
  · have hsplit : line ++ '\n' :: rest = (line ++ ['\n']) ++ rest := by simp
    have hnext : findAtLines importAt? false 0 ('\n' :: rest) = findAtLines importAt? true 0 rest :=
      rfl
    rcases hread : importAt? (line ++ '\n' :: rest) with _ | ⟨path, behind⟩
    · rw [hsplit, hnext, findAtLines_append, startsLine_concat]
      · rfl
      · intro before here hfront hne hstart
        obtain rfl := eq_nil_of_startsLine_line hline.newline hfront hne hstart
        rw [List.nil_append] at hfront
        rw [← hfront, ← hsplit, hread]
    · -- the line is blank, and the statement is read on a later one
      have hblank := hline.isBlank_of_importAt? hread
      have hblanks : ∀ c ∈ line ++ ['\n'], isBlank c = true := by
        intro c hc
        rcases List.mem_append.1 hc with hc | hc
        · exact hblank c hc
        · obtain rfl : c = '\n' := by simpa using hc
          decide
      have hlater : importAt? rest = some (path, behind) := by
        rw [← hread, hsplit, importAt?_blanks hblanks]
      rw [findAtLines_importAt? hread, hnext, findAtLines_importAt? hlater]

/-- A plain line stays. -/
lemma removeImportFrom_line {line after : List Char} (hline : PlainLine line after)
    (hafter : after = [] ∨ ∃ rest, after = '\n' :: rest) (target : List Char) :
    removeImportFrom target true 0 (line ++ after) =
      line ++ removeImportFrom target false 0 after := by
  have hnone := afterImportOf?_eq_none hline.noImport target
  rcases hafter with rfl | ⟨rest, rfl⟩
  · rw [removeImportFrom_append]
    · rfl
    · intro before here hfront _ hstart
      obtain rfl := hline.eq_nil_of_startsLine hfront hstart
      rw [List.nil_append] at hfront
      rw [← hfront, hnone]
  · have hsplit : line ++ '\n' :: rest = (line ++ ['\n']) ++ rest := by simp
    rw [hsplit, removeImportFrom_append, startsLine_concat, List.append_assoc]
    · rfl
    · intro before here hfront hne hstart
      obtain rfl := eq_nil_of_startsLine_line hline.newline hfront hne hstart
      rw [List.nil_append] at hfront
      rw [← hfront, ← hsplit, hnone]

section Statements

variable {s : ImportStatement} {tail after : List Char}

/-- A statement is found, and the search goes on with the next line. -/
lemma findAtLines_statement (hs : LineImport s tail) (after : List Char) :
    findAtLines importAt? true 0 (s.chars ++ (tail ++ after)) =
      s.path :: findAtLines importAt? false 0 after := by
  have hread : importAt? (s.chars ++ (tail ++ after)) = some (s.path, tail ++ after) :=
    importAt?_eq_some_iff.2 ⟨hs.path_ne_nil, hs.path_quotes, s, rfl, rfl⟩
  rw [findAtLines_importAt? hread, findAtLines_tail _ hs.tail_newline]

/-- The statements of other paths stay, with the end of their line. -/
lemma removeImportFrom_other (hs : LineImport s tail) {target : List Char}
    (htarget : ∀ c ∈ target, isQuote c = false) (hne : s.path ≠ target) (after : List Char) :
    removeImportFrom target true 0 (s.chars ++ (tail ++ after)) =
      s.chars ++ (tail ++ removeImportFrom target false 0 after) := by
  have hfront : ∀ before here, s.chars ++ tail = before ++ here → here ≠ [] →
      startsLine true before = true → afterStatement? target (here ++ after) = none := by
    intro before here hsplit hhere hstart
    by_cases hbefore : before = []
    · -- at the front stands the statement of another path
      subst hbefore
      rw [List.nil_append] at hsplit
      refine Option.eq_none_iff_forall_ne_some.2 fun rest hrest => hne ?_
      obtain ⟨s', rfl, -, hchars⟩ := afterStatement?_eq_some_iff.1 hrest
      rw [← hsplit, List.append_assoc] at hchars
      exact ImportStatement.path_unique hchars hs.path_quotes htarget
    · exact s.afterStatement?_inside (newline_not_mem_of_spaces hs.indent) hs.path_newline
        hs.tail_newline hsplit hhere hbefore hstart target
  rw [← List.append_assoc, removeImportFrom_append_of_none hfront,
    startsLine_statementLine s hs.tail_newline, List.append_assoc]

end Statements

/-! ## Removal from rows -/

lemma plainLine_nil {after : List Char} (hafter : after = [] ∨ ∃ rest, after = '\n' :: rest) :
    PlainLine [] after := by
  refine ⟨by simp, by simp, ?_⟩
  rcases hafter with rfl | ⟨rest, rfl⟩
  · rfl
  · simp [beginsImport, dropPrefix?]

/-- Where a row ends the rest of it ends, and where it goes on it goes on. -/
lemma removeImportFrom_cases {after : List Char} (h : after = [] ∨ ∃ rest, after = '\n' :: rest)
    (target : List Char) : removeImportFrom target false 0 after = [] ∧ after = [] ∨
      ∃ rest rest', after = '\n' :: rest ∧
        removeImportFrom target false 0 after = '\n' :: rest' := by
  rcases h with rfl | ⟨rest, rfl⟩
  · exact Or.inl ⟨rfl, rfl⟩
  · exact Or.inr ⟨rest, _, rfl, rfl⟩

lemma PlainLine.removeImport {line after : List Char} (hline : PlainLine line after)
    (hafter : after = [] ∨ ∃ rest, after = '\n' :: rest) (target : List Char) :
    PlainLine line (removeImportFrom target false 0 after) := by
  refine ⟨hline.newline, hline.blank, ?_⟩
  have hbegins := hline.noImport
  rcases removeImportFrom_cases hafter target with ⟨hnil, rfl⟩ | ⟨rest, rest', rfl, hnext⟩
  · rwa [hnil]
  · rw [hnext, beginsImport_newline, ← beginsImport_newline line rest]
    exact hbegins

/-- Removal makes a row of a row, in which the same statements are found but for those of the path.
The induction is on the row: an empty line takes the place of a statement that is removed. -/
lemma Lines.removeImport {cs target : List Char} (h : Lines cs)
    (htarget : ∀ c ∈ target, isQuote c = false) :
    Lines (removeImportFrom target false 0 cs) ∧
      findAtLines importAt? false 0 (removeImportFrom target false 0 cs) =
        (findAtLines importAt? false 0 cs).filter (· ≠ target) := by
  induction h with
  | nil => exact ⟨Lines.nil, rfl⟩
  | @line line after hline hafter ih =>
    obtain ⟨hlines, hfound⟩ := ih
    have hhead := hafter.cases_head
    have hplain := hline.removeImport hhead target
    have hremoved : removeImportFrom target false 0 ('\n' :: (line ++ after)) =
        '\n' :: (line ++ removeImportFrom target false 0 after) :=
      congrArg _ (removeImportFrom_line hline hhead target)
    rw [hremoved]
    refine ⟨Lines.line hplain hlines, ?_⟩
    calc findAtLines importAt? true 0 (line ++ removeImportFrom target false 0 after)
        = findAtLines importAt? false 0 (removeImportFrom target false 0 after) :=
          findAtLines_line hplain hlines.cases_head
      _ = (findAtLines importAt? false 0 after).filter (· ≠ target) := hfound
      _ = (findAtLines importAt? true 0 (line ++ after)).filter (· ≠ target) := by
          rw [findAtLines_line hline hhead]
  | @statement s tail after hs hafter ih =>
    obtain ⟨hlines, hfound⟩ := ih
    have hhead := hafter.cases_head
    have hbefore : findAtLines importAt? false 0 ('\n' :: (s.chars ++ (tail ++ after))) =
        s.path :: findAtLines importAt? false 0 after := findAtLines_statement hs after
    by_cases hpath : s.path = target
    · subst hpath
      have hempty := plainLine_nil hlines.cases_head
      have hremoved : removeImportFrom s.path false 0 ('\n' :: (s.chars ++ (tail ++ after))) =
          '\n' :: ([] ++ removeImportFrom s.path false 0 after) :=
        congrArg _ (removeImportFrom_statement hs.indent hs.tail_newline hhead)
      rw [hremoved, hbefore, List.filter_cons_of_neg (by simp)]
      refine ⟨Lines.line hempty hlines, ?_⟩
      calc findAtLines importAt? true 0 ([] ++ removeImportFrom s.path false 0 after)
          = findAtLines importAt? false 0 (removeImportFrom s.path false 0 after) :=
            findAtLines_line hempty hlines.cases_head
        _ = (findAtLines importAt? false 0 after).filter (· ≠ s.path) := hfound
    · have hremoved : removeImportFrom target false 0 ('\n' :: (s.chars ++ (tail ++ after))) =
          '\n' :: (s.chars ++ (tail ++ removeImportFrom target false 0 after)) :=
        congrArg _ (removeImportFrom_other hs htarget hpath after)
      rw [hremoved, hbefore, List.filter_cons_of_pos (by simpa using hpath)]
      refine ⟨Lines.statement hs hlines, ?_⟩
      calc findAtLines importAt? true 0
            (s.chars ++ (tail ++ removeImportFrom target false 0 after))
          = s.path :: findAtLines importAt? false 0 (removeImportFrom target false 0 after) :=
            findAtLines_statement hs _
        _ = s.path :: (findAtLines importAt? false 0 after).filter (· ≠ target) := by rw [hfound]

/-! ## Regular texts are rows -/

/-- The blanks before a statement that begins a line are spaces and tabs. -/
lemma indent_of_beginsImport {s : ImportStatement} {rest : List Char}
    (h : beginsImport (s.chars ++ rest) = true) : ∀ c ∈ s.indent, c = ' ' ∨ c = '\t' := by
  have hletter : ∀ c ∈ ((s.chars ++ rest).dropWhile fun c => c == ' ' || c == '\t').head?,
      c = 'i' := by
    intro c hc
    obtain ⟨cs, hcs⟩ := List.head?_eq_some_iff.1 hc
    rw [beginsImport, hcs] at h
    by_contra hne
    have hprefix : ¬ "import".toList <+: c :: cs := by
      rintro ⟨tail, htail⟩
      exact hne (List.cons.inj htail).1.symm
    rw [dropPrefix?_eq_none hprefix] at h
    exact absurd h (by simp)
  -- both are the blanks at the start of the text
  have hspaces : (s.chars ++ rest).takeWhile isBlank =
      (s.chars ++ rest).takeWhile fun c => c == ' ' || c == '\t' := by
    conv_lhs => rw [← List.takeWhile_append_dropWhile (p := fun c => c == ' ' || c == '\t')
      (l := s.chars ++ rest)]
    refine takeWhile_append_of_stop (fun c hc => ?_) fun c hc => ?_
    · have hspace : c = ' ' ∨ c = '\t' := by simpa using List.mem_takeWhile_imp hc
      rcases hspace with rfl | rfl <;> decide
    · rw [hletter c hc]
      decide
  have hindent : (s.chars ++ rest).takeWhile isBlank = s.indent := by
    have hchars : s.chars ++ rest =
        s.indent ++ (s.headChars ++ (s.path ++ (s.endChars ++ rest))) := by
      simp [ImportStatement.chars]
    rw [hchars]
    refine takeWhile_append_of_stop s.indent_blank fun c hc => ?_
    rw [head?_headChars] at hc
    obtain rfl : 'i' = c := by simpa using hc
    decide
  intro c hc
  rw [← hindent, hspaces] at hc
  simpa using List.mem_takeWhile_imp hc

/-- A regular text is a row.  The induction is on its length: the text is read up to the end of a
line, or of the line on which a statement ends. -/
lemma lines_of_complete {text : List Char} (h : CompleteImports text) :
    Lines ('\n' :: text) := by
  induction hlength : text.length using Nat.strong_induction_on generalizing text with
  | _ n ih =>
    have hrow : ∀ front after, text = front ++ after → startsLine true (front ++ ['\n']) = true →
        (after = [] ∨ ∃ rest, after = '\n' :: rest) → Lines after := by
      intro front after hsplit hstart hafter
      rcases hafter with rfl | ⟨rest, rfl⟩
      · exact Lines.nil
      · have hregular : CompleteImports (front ++ ['\n'] ++ rest) := by
          rwa [List.append_assoc, List.singleton_append, ← hsplit]
        refine ih rest.length ?_ (hregular.of_append hstart) rfl
        rw [← hlength, hsplit, List.length_append, List.length_cons]
        omega
    cases hbegins : beginsImport text with
    | true =>
      obtain ⟨path, behind, hread⟩ := h.complete [] text rfl rfl hbegins
      have hnewline := h.oneLine [] text rfl rfl path behind hread
      obtain ⟨hne, hquotes, s, rfl, rfl⟩ := importAt?_eq_some_iff.1 hread
      obtain ⟨tail, after, rfl, htail, hafter⟩ := exists_line behind
      have hs : LineImport s tail :=
        ⟨indent_of_beginsImport hbegins, hne, hquotes, hnewline, htail⟩
      exact Lines.statement hs
        (hrow (s.chars ++ tail) after (by rw [List.append_assoc]) (startsLine_concat _ _ _) hafter)
    | false =>
      obtain ⟨line, after, rfl, hline, hafter⟩ := exists_line text
      have hblank : ∀ c ∈ line, isBlank c = true → c = ' ' ∨ c = '\t' := by
        intro c hc hblank
        rcases h.blank c (List.mem_append_left _ hc) hblank with hc' | hc' | rfl
        · exact Or.inl hc'
        · exact Or.inr hc'
        · exact absurd hc hline
      exact Lines.line ⟨hline, hblank, hbegins⟩
        (hrow line after rfl (startsLine_concat _ _ _) hafter)

/-! ## The main statement -/

lemma removeImports_cons (text target : List Char) (targets : List (List Char)) :
    removeImports text (target :: targets) =
      removeImports (removeImportFrom target true 0 text) targets := rfl

lemma Lines.importChars_removeImports {text : List Char} (h : Lines ('\n' :: text))
    {targets : List (List Char)} (htargets : ∀ target ∈ targets, ∀ c ∈ target, isQuote c = false) :
    importChars (removeImports text targets) = (importChars text).filter (· ∉ targets) := by
  induction targets generalizing text with
  | nil => simp [removeImports]
  | cons target targets ih =>
    obtain ⟨htarget, htargets⟩ := List.forall_mem_cons.1 htargets
    obtain ⟨hlines, hfound⟩ := h.removeImport htarget
    have hremoved : importChars (removeImportFrom target true 0 text) =
        (importChars text).filter (· ≠ target) := hfound
    have hrow : Lines ('\n' :: removeImportFrom target true 0 text) := hlines
    rw [removeImports_cons, ih hrow htargets, hremoved, List.filter_filter]
    refine List.filter_congr fun path _ => ?_
    simp [Bool.and_comm]

/-- **Removed imports.**  In a regular text, the imports that are left after some paths are removed
are the imports without these paths, in the same order and as often. -/
theorem imports_removeImports {text : List Char} (htext : CompleteImports text)
    {targets : List (List Char)} (htargets : ∀ target ∈ targets, ∀ c ∈ target, isQuote c = false) :
    imports (removeImports text targets) =
      (imports text).filter fun path => path.toList ∉ targets := by
  rw [imports, imports, (lines_of_complete htext).importChars_removeImports htargets,
    List.filter_map]
  refine congrArg (List.map _) (List.filter_congr fun path _ => ?_)
  simp

/-- Removal of the path `a` leaves the imports of `b` and `c`, one of which spans two lines. -/
theorem imports_removeImports_repeated :
    let text := "import 'b';\n import 'a'; x\nimport\n'c';import 'a';\nimport 'b';".toList
    CompleteImports text ∧ imports text = ["b", "a", "c", "b"] ∧
      imports (removeImports text [['a'], ['d']]) = ["b", "c", "b"] := by
  have htext : CompleteImports
      "import 'b';\n import 'a'; x\nimport\n'c';import 'a';\nimport 'b';".toList := by decide
  have himports :
      imports "import 'b';\n import 'a'; x\nimport\n'c';import 'a';\nimport 'b';".toList =
      ["b", "a", "c", "b"] := by decide
  have htargets : ∀ target ∈ [['a'], ['d']], ∀ c ∈ target, isQuote c = false := by simp [isQuote]
  refine ⟨htext, himports, ?_⟩
  rw [imports_removeImports htext htargets, himports]
  decide

end TypedFetch.Proto.Source
