import TypedFetch.Proofs.Source.ExtensionName
import TypedFetch.Proofs.Source.NestedText

/-!
# Removal of custom options

A source text is a row of parts: comments, string literals, option lists, option statements, and
single characters between them.  The main statement is `stripOptions_textOf`: removal deletes the
statements of rejected extensions, the entries of rejected extensions together with a comma each,
and the lists that have no entry left, and every other part stays as it is.

Each part is found where it stands, whatever delimiters its strings, comments and brackets hold
(`segmentAt_part`), so the segments of the text are its parts (`segmentsFrom_textOf`).
-/

namespace TypedFetch.Proto.Source

open TypedFetch.Text

/-! ## Parts of a text -/

/-- An entry of an option list, which sets an extension or does not. -/
inductive OptionEntry where
  | extension (lead : List Char) (x : Extension) (value : List Char)
      (lead_blank : ∀ c ∈ lead, isBlank c = true)
      (nested : NestedText ',' 0 (lead ++ (x.chars ++ value)))
  | other (chars : List Char) (noExtension : ¬ BeginsExtension chars)
      (nested : NestedText ',' 0 chars)

/-- The text of an entry. -/
def OptionEntry.chars : OptionEntry → List Char
  | .extension lead x value _ _ => lead ++ (x.chars ++ value)
  | .other chars _ _ => chars

/-- The entry stays: it sets no extension, or one that is kept. -/
def OptionEntry.stays (keep : List Char → Bool) : OptionEntry → Bool
  | .extension _ x _ _ _ => keep x.name
  | .other _ _ _ => true

/-- An option statement: its head, and what stands before the semicolon at its end. -/
structure OptionStatement where
  gap : List Char
  extension : Extension
  tail : List Char
  gap_blank : ∀ c ∈ gap, isBlank c = true
  nested : NestedText ';' 0 tail

/-- The text of a statement. -/
def OptionStatement.chars (s : OptionStatement) : List Char :=
  optionKeyword ++ (s.gap ++ (s.extension.chars ++ (s.tail ++ [';'])))

/-- A part of a source text; an option list has one entry at least. -/
inductive Part where
  | comment (c : Comment)
  | literal (l : StringLiteral)
  | optionList (first : OptionEntry) (others : List OptionEntry)
  | statement (s : OptionStatement)
  | char (c : Char)

/-- The text of an option list. -/
def listChars (entries : List OptionEntry) : List Char :=
  '[' :: ([','].intercalate (entries.map OptionEntry.chars) ++ [']'])

/-- The text of a part. -/
def Part.chars : Part → List Char
  | .comment c => c.chars
  | .literal l => l.chars
  | .optionList first others => listChars (first :: others)
  | .statement s => s.chars
  | .char c => [c]

/-- The text that parts make in a row. -/
def textOf (parts : List Part) : List Char :=
  parts.flatMap Part.chars

/-- The text ends in a character of an identifier. -/
def EndsInIdentifier (cs : List Char) : Prop :=
  cs.getLast?.any isIdentifierChar = true

/-- The part is a part of its own between the texts before and after it: a line comment goes on to
the end of its line, the keyword of a statement is a word of its own, and a single character begins
none of the other parts. -/
def Part.Fits (before after : List Char) : Part → Prop
  | .comment c => after = [] ∨ c.EndsBefore after
  | .literal _ => True
  | .optionList _ _ => True
  | .statement _ => ¬ EndsInIdentifier before
  | .char c => isQuote c = false ∧ c ≠ '[' ∧ ¬ BeginsComment (c :: after) ∧
      (BeginsOption (c :: after) → EndsInIdentifier before)

/-- All parts fit, after the text before the first of them. -/
def FitAfter : List Char → List Part → Prop
  | _, [] => True
  | before, p :: ps => p.Fits before (textOf ps) ∧ FitAfter (before ++ p.chars) ps

/-- What is left of a part when rejected extensions are removed. -/
def Part.retained (keep : List Char → Bool) : Part → List Char
  | .statement s => if keep s.extension.name then s.chars else []
  | .optionList first others =>
    match (first :: others).filter (OptionEntry.stays keep) with
    | [] => []
    | kept => listChars kept
  | p => p.chars

/-! ## Parts are the segments of their text -/

/-- The segment that a part is. -/
def Part.segment : Part → Segment
  | .optionList first others => .optionList ((first :: others).map OptionEntry.chars) true
  | .statement s => .statement s.extension.name s.chars
  | p => .text p.chars

lemma OptionEntry.nested (e : OptionEntry) : NestedText ',' 0 e.chars := by
  cases e with
  | extension lead x value lead_blank nested => exact nested
  | other chars noExtension nested => exact nested

/-- An entry sets the extension that it names. -/
lemma keepsEntry_chars (keep : List Char → Bool) (e : OptionEntry) :
    keepsEntry keep e.chars = e.stays keep := by
  cases e with
  | extension lead x value lead_blank nested =>
    rw [keepsEntry, entryName?, OptionEntry.chars, parenthesised?_dropWhile lead_blank]
    rfl
  | other chars noExtension nested =>
    rw [keepsEntry, entryName?, OptionEntry.chars, parenthesised?_dropWhile_eq_none noExtension]
    rfl

lemma segmentAt_opaque {before : Option Char} {c : Char} {rest chars after : List Char}
    (hsplit : c :: rest = chars ++ after)
    (h : opaqueLength? (chars ++ after) = some chars.length) :
    segmentAt before c rest = (.text chars, chars.length) := by
  rw [segmentAt, hsplit, h]
  simp

lemma segmentAt_optionList {before : Option Char} {entries : List OptionEntry} (hne : entries ≠ [])
    (after : List Char) :
    segmentAt before '[' ([','].intercalate (entries.map OptionEntry.chars) ++ ']' :: after) =
      (.optionList (entries.map OptionEntry.chars) true, (listChars entries).length) := by
  have hnested : ∀ piece ∈ entries.map OptionEntry.chars, NestedText ',' 0 piece := by
    simp only [List.forall_mem_map]
    exact fun e _ => e.nested
  have hscan : scanTo ']' ([','].intercalate (entries.map OptionEntry.chars) ++ ']' :: after) =
      ([','].intercalate (entries.map OptionEntry.chars)).length :=
    scanTo_nested (NestedText.intercalate hnested) (Or.inr (Or.inr rfl)) (Or.inr rfl)
  have hbracket : IsOpener '[' := Or.inr (Or.inl rfl)
  rw [segmentAt, opaqueLength?_bracket (Or.inl hbracket)]
  simp [hscan, listChars, splitTopLevel_intercalate _ hnested, hne]

lemma segmentAt_statement {before after rest : List Char} (s : OptionStatement)
    (hbefore : ¬ EndsInIdentifier before) (hsplit : 'o' :: rest = s.chars ++ after) :
    segmentAt before.getLast? 'o' rest = (.statement s.extension.name s.chars, s.chars.length) := by
  have hhead : 'o' :: rest =
      optionKeyword ++ (s.gap ++ (s.extension.chars ++ (s.tail ++ ';' :: after))) := by
    simp [hsplit, OptionStatement.chars]
  have hopaque : opaqueLength? ('o' :: rest) = none := opaqueLength?_of_ne rfl (by decide) rest
  have hread : statementAt? ('o' :: rest) = some (s.extension.name, s.tail ++ ';' :: after) := by
    rw [hhead, statementAt?_chars s.gap_blank]
  have hscan : scanTo ';' (s.tail ++ ';' :: after) = s.tail.length :=
    scanTo_nested s.nested (Or.inr (Or.inl rfl)) (Or.inr rfl)
  have hword : before.getLast?.any isIdentifierChar = false := Bool.eq_false_iff.2 hbefore
  have hlength : rest.length - (s.tail ++ ';' :: after).length + s.tail.length + 2 =
      s.chars.length := by
    have hrest : rest.length + 1 = s.chars.length + after.length := by
      rw [← List.length_append, ← hsplit, List.length_cons]
    have htail : s.tail.length + 2 ≤ s.chars.length := by
      simp [OptionStatement.chars, optionKeyword]
      omega
    simp only [List.length_append, List.length_cons]
    omega
  rw [segmentAt, hopaque, hread]
  simp only [hword, hscan, hlength, hsplit]
  simp

lemma segmentAt_char {before : List Char} {c : Char} {rest : List Char}
    (h : (Part.char c).Fits before rest) :
    segmentAt before.getLast? c rest = (.text [c], 1) := by
  obtain ⟨hquote, hbracket, hcomment, hoption⟩ := h
  rw [segmentAt, opaqueLength?_eq_none hquote hcomment]
  simp only [beq_iff_eq, hbracket, if_false]
  by_cases hbegins : BeginsOption (c :: rest)
  · have hword : before.getLast?.any isIdentifierChar = true := hoption hbegins
    cases statementAt? (c :: rest) <;> simp [hword]
  · rw [statementAt?_eq_none hbegins]

/-- A part that fits is found where it stands. -/
lemma segmentAt_part {before after : List Char} {p : Part} (h : p.Fits before after) {c : Char}
    {rest : List Char} (hsplit : c :: rest = p.chars ++ after) :
    segmentAt before.getLast? c rest = (p.segment, p.chars.length) := by
  cases p with
  | comment comment => exact segmentAt_opaque hsplit (opaqueLength?_comment comment h)
  | literal l => exact segmentAt_opaque hsplit (opaqueLength?_literal l after)
  | optionList first others =>
    obtain ⟨rfl, rfl⟩ : c = '[' ∧ rest =
        [','].intercalate ((first :: others).map OptionEntry.chars) ++ ']' :: after := by
      simpa [Part.chars, listChars] using hsplit
    exact segmentAt_optionList (by simp) after
  | statement s =>
    obtain ⟨rfl, -⟩ := List.cons.inj hsplit
    exact segmentAt_statement s h hsplit
  | char d =>
    obtain ⟨rfl, rfl⟩ : c = d ∧ rest = after := by simpa [Part.chars] using hsplit
    exact segmentAt_char h

/-- Characters that are skipped stand before those that follow. -/
lemma segmentsFrom_skip (before skipped rest : List Char) :
    segmentsFrom before.getLast? skipped.length (skipped ++ rest) =
      segmentsFrom (before ++ skipped).getLast? 0 rest := by
  induction skipped generalizing before with
  | nil => simp
  | cons c skipped ih =>
    have hlast := ih (before ++ [c])
    rw [List.getLast?_concat, List.append_assoc, List.singleton_append] at hlast
    exact hlast

lemma Part.chars_ne_nil (p : Part) : p.chars ≠ [] := by
  cases p with
  | comment c => cases c <;> simp [Part.chars, Comment.chars]
  | literal l => simp [Part.chars, StringLiteral.chars]
  | optionList first others => simp [Part.chars, listChars]
  | statement s => simp [Part.chars, OptionStatement.chars]
  | char c => simp [Part.chars]

/-- The segments of a text are the parts that it is made of.  The induction goes over the parts;
what stands before the part at hand decides whether a keyword there is a word of its own. -/
lemma segmentsFrom_textOf {before : List Char} {parts : List Part} (h : FitAfter before parts) :
    segmentsFrom before.getLast? 0 (textOf parts) = parts.map Part.segment := by
  induction parts generalizing before with
  | nil => rfl
  | cons p parts ih =>
    obtain ⟨hfits, hrest⟩ := h
    obtain ⟨c, chars, hchars⟩ := List.exists_cons_of_ne_nil p.chars_ne_nil
    have hskip := segmentsFrom_skip (before ++ [c]) chars (textOf parts)
    rw [List.getLast?_concat, List.append_assoc, List.singleton_append, ← hchars] at hskip
    have htext : textOf (p :: parts) = c :: (chars ++ textOf parts) := by
      simp [textOf, hchars]
    have hpart : segmentAt before.getLast? c (chars ++ textOf parts) =
        (p.segment, p.chars.length) := segmentAt_part hfits (by rw [hchars, List.cons_append])
    rw [htext, segmentsFrom, hpart]
    simp only [hchars, List.length_cons, Nat.add_sub_cancel]
    rw [hskip, ih hrest, List.map_cons]

/-! ## What is left of the parts -/

/-- The entries that are kept are those that stay. -/
lemma filter_keepsEntry (keep : List Char → Bool) (entries : List OptionEntry) :
    (entries.map OptionEntry.chars).filter (keepsEntry keep) =
      (entries.filter (OptionEntry.stays keep)).map OptionEntry.chars := by
  rw [List.filter_map]
  exact congrArg (List.map _) (List.filter_congr fun e _ => keepsEntry_chars keep e)

lemma retain_optionList (keep : List Char → Bool) (first : OptionEntry)
    (others : List OptionEntry) :
    (Part.optionList first others).segment.retain keep =
      (Part.optionList first others).retained keep := by
  rw [Part.segment, Segment.retain, Part.retained, filter_keepsEntry]
  generalize hentries : first :: others = entries
  simp only [List.length_map, beq_iff_eq, List.isEmpty_map]
  split
  · next hall =>
    have hkept : entries.filter (OptionEntry.stays keep) = entries :=
      List.filter_sublist.eq_of_length hall
    rw [hkept, ← hentries]
    rfl
  · cases entries.filter (OptionEntry.stays keep) with
    | nil => rfl
    | cons e kept => rfl

lemma retain_segment (keep : List Char → Bool) (p : Part) :
    p.segment.retain keep = p.retained keep := by
  cases p with
  | comment c => rfl
  | literal l => rfl
  | optionList first others => exact retain_optionList keep first others
  | statement s => rfl
  | char c => rfl

/-- **Removal part by part.**  Removal deletes the statements of rejected extensions, and of each
list the entries of rejected extensions or the whole of it, and leaves every other part of the text
as it is. -/
theorem stripOptions_textOf {parts : List Part} (h : FitAfter [] parts)
    (keep : List Char → Bool) :
    stripOptions keep (textOf parts) = parts.flatMap (Part.retained keep) := by
  have hsegments : segments (textOf parts) = parts.map Part.segment := segmentsFrom_textOf h
  rw [stripOptions, hsegments, List.flatMap_map]
  exact List.flatMap_congr fun p _ => retain_segment keep p

/-- The semicolon and the bracket in literals end neither the statement nor the list. -/
theorem stripOptions_textOf_delimitersInLiterals :
    ∃ parts : List Part, FitAfter [] parts ∧
      textOf parts = "//o\noption (x)\";\";[(x)\"],\",y];".toList ∧
      stripOptions (fun _ => false) (textOf parts) = "//o\n[y];".toList := by
  let x : Extension :=
    ⟨[], false, ['x'], [], by simp, by simp, List.forall_mem_singleton.2 rfl, by simp, by simp⟩
  let semicolon : StringLiteral :=
    ⟨'"', [';'], rfl, .plain (by decide) (by decide) (by decide) .nil⟩
  let bracket : StringLiteral :=
    ⟨'"', [']', ','], rfl, .plain (by decide) (by decide) (by decide)
      (.plain (by decide) (by decide) (by decide) .nil)⟩
  let statement : OptionStatement :=
    ⟨[' '], x, semicolon.chars ++ [], List.forall_mem_singleton.2 rfl, .literal semicolon .nil⟩
  let rejected : OptionEntry := .extension [] x (bracket.chars ++ []) (by simp)
    (.opener (by decide) (.plain rfl (by decide) (by decide) (by decide) (by decide)
      (.closer (by decide) (.literal bracket .nil))))
  have hplain : ¬ BeginsExtension ['y'] := by
    rintro ⟨lead, x, rest, hlead, hy⟩
    cases lead with
    | nil => simp [Extension.chars] at hy
    | cons d lead =>
      obtain ⟨rfl, -⟩ := List.cons.inj hy
      exact absurd (hlead 'y' (by simp)) (by decide)
  let kept : OptionEntry :=
    .other ['y'] hplain (.plain rfl (by decide) (by decide) (by decide) (by decide) .nil)
  have hoption : ∀ c rest, c ≠ 'o' → ¬ BeginsOption (c :: rest) := by
    rintro c rest hc ⟨tail, htail, -⟩
    exact hc (List.cons.inj htail).1
  have hfit : FitAfter [] [.comment (.line ['o'] (by decide)), .char '\n', .statement statement,
      .optionList rejected [kept], .char ';'] :=
    ⟨Or.inr rfl,
      ⟨rfl, by decide, by simp [BeginsComment], fun h => absurd h (hoption _ _ (by decide))⟩,
      Bool.false_ne_true, trivial,
      ⟨rfl, by decide, by simp [BeginsComment], fun h => absurd h (hoption _ _ (by decide))⟩,
      trivial⟩
  exact ⟨_, hfit, rfl, (stripOptions_textOf hfit _).trans rfl⟩

end TypedFetch.Proto.Source
