import TypedFetch.Proofs.Source.OptionRemoval

/-!
# Options with comments in their heads

The name of an extension is looked for right after the keyword of a statement, or at the start of
an entry, and only blanks are passed over on the way.  A comment in front of the parenthesis, or
inside of the parentheses, hides the extension: the entry or statement stays, whatever its name is.
The main statement is `rejected_left_iff_commented`: removal leaves a rejected extension behind
exactly if a comment stands in the head of its option.  Comments anywhere else do not matter.

A text with such options has parts (`MarkedPart`), each of which the removal sees as one or several
parts of the kinds that it knows (`MarkedPart.seen`).
-/

namespace TypedFetch.Proto.Source

open TypedFetch.Text

/-! ## Names with comments -/

/-- The text of a comment, with the line feed that ends a line comment. -/
def Comment.closed : Comment → List Char
  | .line body oneLine => (Comment.line body oneLine).chars ++ ['\n']
  | .block body unended => (Comment.block body unended).chars

/-- A piece of a name with comments. -/
inductive NamePiece where
  | char (c : Char)
  | comment (k : Comment)

/-- The text of a piece. -/
def NamePiece.chars : NamePiece → List Char
  | .char c => [c]
  | .comment k => k.closed

/-- The text of a piece without comments. -/
def NamePiece.plain : NamePiece → List Char
  | .char c => [c]
  | .comment _ => []

/-- The piece is a comment. -/
def NamePiece.isComment : NamePiece → Bool
  | .char _ => false
  | .comment _ => true

/-- The name of an extension in parentheses after blanks, with comments wherever one can stand in
front of the closing parenthesis. -/
structure CommentedName where
  lead : List Char
  extension : Extension
  pieces : List NamePiece
  lead_blank : ∀ c ∈ lead, isBlank c = true
  plain_pieces : pieces.flatMap NamePiece.plain ++ [')'] = lead ++ extension.chars

namespace CommentedName

/-- The text of the name up to its closing parenthesis, which has no comment behind it. -/
def chars (n : CommentedName) : List Char :=
  n.pieces.flatMap NamePiece.chars ++ [')']

/-- A comment stands in the name or in front of it. -/
def isCommented (n : CommentedName) : Bool :=
  n.pieces.any NamePiece.isComment

end CommentedName

lemma Comment.closed_cons (k : Comment) : ∃ rest, k.closed = '/' :: rest := by
  cases k <;> exact ⟨_, rfl⟩

lemma chars_eq_plain {pieces : List NamePiece} (h : pieces.any NamePiece.isComment = false) :
    pieces.flatMap NamePiece.chars = pieces.flatMap NamePiece.plain := by
  refine List.flatMap_congr fun piece hpiece => ?_
  cases piece with
  | char c => rfl
  | comment k => simpa [NamePiece.isComment] using List.any_eq_false.1 h _ hpiece

/-- Up to the first comment, or up to the closing parenthesis, the text of pieces has characters of
the name only. -/
lemma exists_split (pieces : List NamePiece) (rest : List Char) :
    ∃ front back, pieces.flatMap NamePiece.chars ++ ')' :: rest =
        front ++ (if pieces.any NamePiece.isComment then '/' else ')') :: back ∧
      ∀ c ∈ front, c ∈ pieces.flatMap NamePiece.plain := by
  induction pieces with
  | nil => exact ⟨[], rest, rfl, by simp⟩
  | cons piece pieces ih =>
    cases piece with
    | char c =>
      obtain ⟨front, back, hsplit, hfront⟩ := ih
      refine ⟨c :: front, back, ?_, ?_⟩
      · simpa [NamePiece.chars, NamePiece.isComment] using hsplit
      · simpa [NamePiece.plain] using fun d hd => Or.inr (hfront d hd)
    | comment k =>
      obtain ⟨tail, htail⟩ := k.closed_cons
      exact ⟨[], _, by simp [NamePiece.chars, NamePiece.isComment, htail]; rfl, by simp⟩

/-- A text has one split at the first of two characters. -/
lemma first_eq_first {front front' back back' : List Char} {c d : Char}
    (h : front ++ c :: back = front' ++ d :: back') (hc : c ∉ front') (hd : d ∉ front) : c = d := by
  induction front generalizing front' with
  | nil =>
    cases front' with
    | nil => exact (List.cons.inj h).1
    | cons e front' => exact absurd (List.mem_cons.2 (Or.inl (List.cons.inj h).1)) hc
  | cons e front ih =>
    cases front' with
    | nil => exact absurd (List.mem_cons.2 (Or.inl (List.cons.inj h).1.symm)) hd
    | cons e' front' =>
      exact ih (List.cons.inj h).2 (fun hmem => hc (List.mem_cons_of_mem _ hmem))
        fun hmem => hd (List.mem_cons_of_mem _ hmem)

/-- A character of a name in parentheses, which is no mark of another kind. -/
def IsNameChar (c : Char) : Prop :=
  isBlank c = true ∨ c = '(' ∨ isPackageChar c = true

lemma IsNameChar.ne {c d : Char} (h : IsNameChar c) (hblank : isBlank d = false)
    (hpackage : isPackageChar d = false) (hopen : d ≠ '(') : c ≠ d := by
  rintro rfl
  rcases h with h | h | h <;> simp_all

/-- The text of an extension up to its closing parenthesis. -/
def Extension.inside (x : Extension) : List Char :=
  x.before ++ (x.dot ++ (x.name ++ x.after))

lemma Extension.chars_eq (x : Extension) : x.chars = '(' :: (x.inside ++ [')']) := by
  simp [Extension.chars, Extension.inside]

lemma Extension.mem_inside (x : Extension) {c : Char} (h : c ∈ x.inside) :
    isBlank c = true ∨ isPackageChar c = true := by
  simp only [Extension.inside, List.mem_append] at h
  rcases h with h | h | h | h
  · exact Or.inl (x.before_blank c h)
  · rw [Extension.dot] at h
    split at h
    · obtain rfl : c = '.' := by simpa using h
      exact Or.inr (by decide)
    · exact absurd h List.not_mem_nil
  · exact Or.inr (x.name_chars c h)
  · exact Or.inl (x.after_blank c h)

namespace CommentedName

variable (n : CommentedName)

lemma plain_eq : n.pieces.flatMap NamePiece.plain = n.lead ++ '(' :: n.extension.inside := by
  have hplain := n.plain_pieces
  rw [Extension.chars_eq, ← List.cons_append, ← List.append_assoc] at hplain
  exact List.append_cancel_right hplain

lemma isNameChar_of_mem {c : Char} (h : c ∈ n.pieces.flatMap NamePiece.plain) : IsNameChar c := by
  rw [plain_eq, List.mem_append, List.mem_cons] at h
  rcases h with h | h | h
  · exact Or.inl (n.lead_blank c h)
  · exact Or.inr (Or.inl h)
  · rcases n.extension.mem_inside h with h | h
    · exact Or.inl h
    · exact Or.inr (Or.inr h)

/-- Without comments the name is read. -/
lemma chars_of_not_commented (h : n.isCommented = false) :
    n.chars = n.lead ++ n.extension.chars := by
  rw [chars, chars_eq_plain h, n.plain_pieces]

/-- With a comment no name is read: the comment begins before the closing parenthesis. -/
lemma not_beginsExtension (h : n.isCommented = true) (rest : List Char) :
    ¬ BeginsExtension (n.chars ++ rest) := by
  rintro ⟨lead, x, tail, hlead, htext⟩
  obtain ⟨front, back, hsplit, hfront⟩ := exists_split n.pieces rest
  have hcomment : n.pieces.any NamePiece.isComment = true := h
  rw [hcomment, if_pos rfl] at hsplit
  have hread : front ++ '/' :: back = (lead ++ '(' :: x.inside) ++ ')' :: tail := by
    rw [← hsplit]
    simpa [chars, Extension.chars_eq] using htext
  refine absurd (first_eq_first hread ?_ ?_) (by decide)
  · intro hslash
    rcases List.mem_append.1 hslash with hslash | hslash
    · exact absurd (hlead _ hslash) (by decide)
    · rcases List.mem_cons.1 hslash with hslash | hslash
      · exact absurd hslash (by decide)
      · exact absurd (x.mem_inside hslash) (by decide)
  · intro hclose
    exact (n.isNameChar_of_mem (hfront _ hclose)).ne (by decide) (by decide) (by decide) rfl

end CommentedName

/-! ## Heads of statements with comments -/

/-- The parts of a piece as the removal sees them. -/
def NamePiece.parts : NamePiece → List Part
  | .char c => [.char c]
  | .comment (.line body oneLine) => [.comment (.line body oneLine), .char '\n']
  | .comment (.block body unended) => [.comment (.block body unended)]

lemma textOf_append (ps qs : List Part) : textOf (ps ++ qs) = textOf ps ++ textOf qs :=
  List.flatMap_append

lemma textOf_pieces (pieces : List NamePiece) :
    textOf (pieces.flatMap NamePiece.parts) = pieces.flatMap NamePiece.chars := by
  rw [textOf, List.flatMap_assoc]
  refine List.flatMap_congr fun piece _ => ?_
  rcases piece with c | ⟨body, oneLine⟩ | ⟨body, unended⟩ <;>
    simp [NamePiece.parts, NamePiece.chars, Comment.closed, Part.chars]

lemma not_beginsOption_of_ne {c : Char} (hc : c ≠ 'o') (rest : List Char) :
    ¬ BeginsOption (c :: rest) := by
  rintro ⟨tail, htail, -⟩
  exact hc (List.cons.inj htail).1

/-- In a name, an `o` is not in front of the opening parenthesis. -/
def NamesNoOption (plain : List Char) : Prop :=
  ∃ front back, plain = front ++ back ∧ 'o' ∉ front ∧ '(' ∉ back

lemma NamesNoOption.tail {c : Char} {plain : List Char} (h : NamesNoOption (c :: plain)) :
    NamesNoOption plain := by
  obtain ⟨front, back, hplain, hfront, hback⟩ := h
  cases front with
  | nil =>
    rw [List.nil_append] at hplain
    exact ⟨[], plain, rfl, by simp, fun h => hback (hplain ▸ List.mem_cons_of_mem _ h)⟩
  | cons d front =>
    exact ⟨front, back, (List.cons.inj hplain).2, fun h => hfront (List.mem_cons_of_mem _ h), hback⟩

lemma NamesNoOption.not_mem {plain : List Char} (h : NamesNoOption ('o' :: plain)) :
    '(' ∉ plain := by
  obtain ⟨front, back, hplain, hfront, hback⟩ := h
  cases front with
  | nil =>
    rw [List.nil_append] at hplain
    exact fun h => hback (hplain ▸ List.mem_cons_of_mem _ h)
  | cons d front => exact absurd (List.mem_cons.2 (Or.inl (List.cons.inj hplain).1)) hfront

lemma CommentedName.namesNoOption (n : CommentedName) :
    NamesNoOption (n.pieces.flatMap NamePiece.plain) := by
  refine ⟨n.lead ++ ['('], n.extension.inside, by simp [n.plain_eq], ?_, ?_⟩
  · intro h
    rcases List.mem_append.1 h with h | h
    · exact absurd (n.lead_blank _ h) (by decide)
    · exact absurd h (by decide)
  · intro h
    exact absurd (n.extension.mem_inside h) (by decide)

/-- No statement begins in a name: a closing parenthesis or a comment comes before the next opening
one. -/
lemma not_beginsOption_of_namesNoOption {c : Char} {pieces : List NamePiece}
    (h : NamesNoOption (c :: pieces.flatMap NamePiece.plain)) (rest : List Char) :
    ¬ BeginsOption (c :: (pieces.flatMap NamePiece.chars ++ ')' :: rest)) := by
  rintro ⟨tail, htext, lead, x, back, hlead, rfl⟩
  obtain rfl : c = 'o' := (List.cons.inj htext).1
  obtain ⟨front, behind, hsplit, hfront⟩ := exists_split pieces rest
  generalize hmark : (if pieces.any NamePiece.isComment then '/' else ')') = mark at hsplit
  have hmark : mark = '/' ∨ mark = ')' := by
    rw [← hmark]
    split <;> simp
  have hread : ('o' :: front) ++ mark :: behind =
      (optionKeyword ++ lead) ++ '(' :: (x.inside ++ ')' :: back) := by
    rw [List.cons_append, ← hsplit, htext]
    simp [Extension.chars_eq]
  -- the mark and the parenthesis would both be the first of their kind
  have hopen : '(' ∉ 'o' :: front := by
    intro hmem
    rcases List.mem_cons.1 hmem with hmem | hmem
    · exact absurd hmem (by decide)
    · exact h.not_mem (hfront _ hmem)
  have hfirst : mark ∉ optionKeyword ++ lead := by
    intro hmem
    rcases List.mem_append.1 hmem with hmem | hmem
    · rcases hmark with rfl | rfl <;> exact absurd hmem (by decide)
    · have hblank := hlead _ hmem
      rcases hmark with rfl | rfl <;> exact absurd hblank (by decide)
  have hsame := first_eq_first hread hfirst hopen
  rcases hmark with rfl | rfl <;> exact absurd hsame (by decide)

/-- A character that begins no part of its own. -/
lemma fits_char {c : Char} {before after : List Char}
    (h : isQuote c = false ∧ c ≠ '[' ∧ c ≠ '/') (hoption : ¬ BeginsOption (c :: after)) :
    (Part.char c).Fits before after :=
  ⟨h.1, h.2.1, by simp [BeginsComment, h.2.2.symm], fun hbegins => absurd hbegins hoption⟩

lemma IsNameChar.plain {c : Char} (h : IsNameChar c) : isQuote c = false ∧ c ≠ '[' ∧ c ≠ '/' := by
  refine ⟨?_, h.ne (by decide) (by decide) (by decide), h.ne (by decide) (by decide) (by decide)⟩
  rw [Bool.eq_false_iff, ne_eq, isQuote_iff, not_or]
  exact ⟨h.ne (by decide) (by decide) (by decide), h.ne (by decide) (by decide) (by decide)⟩

/-- The pieces of a name fit in front of its closing parenthesis.  The induction is on the pieces;
what is left of the name begins no statement. -/
lemma fitAfter_pieces {pieces : List NamePiece} {before tail : List Char} {after : List Part}
    (hclose : textOf after = ')' :: tail)
    (hchars : ∀ c ∈ pieces.flatMap NamePiece.plain, IsNameChar c)
    (hname : NamesNoOption (pieces.flatMap NamePiece.plain))
    (hafter : FitAfter (before ++ pieces.flatMap NamePiece.chars) after) :
    FitAfter before (pieces.flatMap NamePiece.parts ++ after) := by
  induction pieces generalizing before with
  | nil => simpa using hafter
  | cons piece pieces ih =>
    rw [List.flatMap_cons, ← List.append_assoc] at hafter
    rw [List.flatMap_cons] at hchars hname
    rcases piece with c | ⟨body, oneLine⟩ | ⟨body, unended⟩
    · have hc : IsNameChar c := hchars c (by simp [NamePiece.plain])
      have hoption : ¬ BeginsOption (c :: textOf (pieces.flatMap NamePiece.parts ++ after)) := by
        rw [textOf_append, textOf_pieces, hclose]
        exact not_beginsOption_of_namesNoOption hname tail
      exact ⟨fits_char hc.plain hoption,
        ih (fun d hd => hchars d (List.mem_append_right _ hd)) hname.tail hafter⟩
    · refine ⟨Or.inr (by simp [textOf, Part.chars, Comment.EndsBefore]),
        fits_char (by decide) (not_beginsOption_of_ne (by decide) _), ih hchars hname ?_⟩
      simpa [NamePiece.chars, Comment.closed, Part.chars] using hafter
    · exact ⟨Or.inr trivial, ih hchars hname hafter⟩

lemma fitAfter_keyword {before : List Char} {after : List Part}
    (hoption : ¬ BeginsOption (optionKeyword ++ textOf after))
    (hafter : FitAfter (before ++ optionKeyword) after) :
    FitAfter before (optionKeyword.map Part.char ++ after) := by
  have hletter : ∀ {c : Char} {front rest : List Char}, isQuote c = false ∧ c ≠ '[' ∧ c ≠ '/' →
      EndsInIdentifier front → (Part.char c).Fits front rest := by
    intro c front rest hc hword
    exact ⟨hc.1, hc.2.1, by simp [BeginsComment, hc.2.2.symm], fun _ => hword⟩
  refine ⟨fits_char (by decide) hoption, ?_⟩
  refine ⟨hletter (by decide) ?_, hletter (by decide) ?_, hletter (by decide) ?_,
    hletter (by decide) ?_, hletter (by decide) ?_, ?_⟩
  · simp [EndsInIdentifier, Part.chars, isIdentifierChar]
  · simp [EndsInIdentifier, Part.chars, isIdentifierChar]
  · simp [EndsInIdentifier, Part.chars, isIdentifierChar]
  · simp [EndsInIdentifier, Part.chars, isIdentifierChar]
  · simp [EndsInIdentifier, Part.chars, isIdentifierChar]
  · simpa [Part.chars, optionKeyword] using hafter

/-- The parts of the head of a statement, character by character. -/
def CommentedName.headParts (n : CommentedName) : List Part :=
  optionKeyword.map Part.char ++ (n.pieces.flatMap NamePiece.parts ++ [.char ')'])

/-- The text of the head of a statement. -/
def CommentedName.headChars (n : CommentedName) : List Char :=
  optionKeyword ++ n.chars

lemma CommentedName.textOf_headParts (n : CommentedName) : textOf n.headParts = n.headChars := by
  have hkeyword : textOf (optionKeyword.map Part.char) = optionKeyword := rfl
  have hclose : textOf [Part.char ')'] = [')'] := rfl
  rw [headParts, textOf_append, textOf_append, textOf_pieces, hkeyword, hclose, headChars, chars]

/-- A head with a comment is no statement, but text. -/
lemma CommentedName.fitAfter_headParts {n : CommentedName} (h : n.isCommented = true)
    {before : List Char} {after : List Part} (hafter : FitAfter (before ++ n.headChars) after) :
    FitAfter before (n.headParts ++ after) := by
  have hend : FitAfter (before ++ optionKeyword ++ n.pieces.flatMap NamePiece.chars)
      (.char ')' :: after) := by
    refine ⟨fits_char (by decide) (not_beginsOption_of_ne (by decide) _), ?_⟩
    simpa [headChars, chars, Part.chars] using hafter
  have hclose : textOf (.char ')' :: after) = ')' :: textOf after := rfl
  have hpieces := fitAfter_pieces hclose (fun _ => n.isNameChar_of_mem) n.namesNoOption hend
  have hoption : ¬ BeginsOption (optionKeyword ++
      textOf (n.pieces.flatMap NamePiece.parts ++ .char ')' :: after)) := by
    rintro ⟨rest, hrest, hbegins⟩
    have hname := n.not_beginsExtension h (textOf after)
    rw [← List.append_cancel_left hrest, textOf_append, textOf_pieces] at hbegins
    exact hname (by simpa [chars, textOf, Part.chars] using hbegins)
  simpa [headParts] using fitAfter_keyword hoption hpieces

/-! ## Parts with comments in the heads of options -/

/-- The text begins with the name of an extension, after blanks and comments. -/
def BeginsCommented (cs : List Char) : Prop :=
  ∃ n : CommentedName, n.chars <+: cs

/-- A name without comments. -/
def CommentedName.ofExtension (lead : List Char) (lead_blank : ∀ c ∈ lead, isBlank c = true)
    (x : Extension) : CommentedName where
  lead := lead
  extension := x
  pieces := (lead ++ '(' :: x.inside).map NamePiece.char
  lead_blank := lead_blank
  plain_pieces := by
    rw [List.flatMap_map]
    simp [NamePiece.plain, Extension.chars_eq]

lemma BeginsExtension.beginsCommented {cs : List Char} (h : BeginsExtension cs) :
    BeginsCommented cs := by
  obtain ⟨lead, x, rest, hlead, rfl⟩ := h
  refine ⟨.ofExtension lead hlead x, rest, ?_⟩
  have hplain : (CommentedName.ofExtension lead hlead x).isCommented = false := by
    simp [CommentedName.ofExtension, CommentedName.isCommented, NamePiece.isComment]
  rw [CommentedName.chars_of_not_commented _ hplain, List.append_assoc]
  rfl

/-- An entry of an option list, which sets an extension, with comments in its name or not, or sets
none. -/
inductive MarkedEntry where
  | extension (n : CommentedName) (value : List Char) (nested : NestedText ',' 0 (n.chars ++ value))
  | other (chars : List Char) (noExtension : ¬ BeginsCommented chars)
      (nested : NestedText ',' 0 chars)

namespace MarkedEntry

/-- The text of an entry. -/
def chars : MarkedEntry → List Char
  | .extension n value _ => n.chars ++ value
  | .other chars _ _ => chars

/-- The extension that an entry sets. -/
def name? : MarkedEntry → Option (List Char)
  | .extension n _ _ => some n.extension.name
  | .other _ _ _ => none

/-- A comment stands in the name of the entry or in front of it. -/
def isCommented : MarkedEntry → Bool
  | .extension n _ _ => n.isCommented
  | .other _ _ _ => false

/-- The entry stays when the extensions go that `keep` rejects. -/
def stays (keep : List Char → Bool) (e : MarkedEntry) : Bool :=
  e.isCommented || e.name?.all keep

/-- The entry as the removal sees it. -/
def seen : MarkedEntry → OptionEntry
  | .extension n value nested =>
    if h : n.isCommented = true then
      .other (n.chars ++ value) (n.not_beginsExtension h value) nested
    else .extension n.lead n.extension value n.lead_blank (by
      rw [← List.append_assoc, ← n.chars_of_not_commented (Bool.eq_false_iff.2 h)]
      exact nested)
  | .other chars noExtension nested =>
    .other chars (fun h => noExtension h.beginsCommented) nested

lemma chars_seen (e : MarkedEntry) : e.seen.chars = e.chars := by
  cases e with
  | extension n value nested =>
    by_cases h : n.isCommented = true
    · simp [seen, h, chars, OptionEntry.chars]
    · have hchars := n.chars_of_not_commented (Bool.eq_false_iff.2 h)
      simp [seen, h, chars, OptionEntry.chars, hchars]
  | other text noExtension nested => rfl

lemma stays_seen (keep : List Char → Bool) (e : MarkedEntry) :
    e.seen.stays keep = e.stays keep := by
  cases e with
  | extension n value nested =>
    by_cases h : n.isCommented = true
    · simp [seen, h, stays, isCommented, OptionEntry.stays]
    · simp [seen, h, stays, isCommented, name?, OptionEntry.stays]
  | other text noExtension nested => rfl

end MarkedEntry

/-- A part of a source text, with comments in the heads of options told apart. -/
inductive MarkedPart where
  | comment (k : Comment)
  | literal (l : StringLiteral)
  | optionList (first : MarkedEntry) (others : List MarkedEntry)
  /-- A statement without comments in its head. -/
  | statement (s : OptionStatement)
  /-- The head of a statement with comments in it. -/
  | commentedHead (n : CommentedName) (commented : n.isCommented = true)
  | char (c : Char)

namespace MarkedPart

/-- The parts that the removal sees. -/
def seen : MarkedPart → List Part
  | .comment k => [.comment k]
  | .literal l => [.literal l]
  | .optionList first others => [.optionList first.seen (others.map MarkedEntry.seen)]
  | .statement s => [.statement s]
  | .commentedHead n _ => n.headParts
  | .char c => [.char c]

/-- The text of a part. -/
def chars : MarkedPart → List Char
  | .comment k => k.chars
  | .literal l => l.chars
  | .optionList first others => bracketed ((first :: others).map MarkedEntry.chars) true
  | .statement s => s.chars
  | .commentedHead n _ => n.headChars
  | .char c => [c]

/-- The part is a part of its own between the texts before and after it. -/
def Fits (before after : List Char) : MarkedPart → Prop
  | .commentedHead _ _ => ¬ EndsInIdentifier before
  | p => ∀ q ∈ p.seen, q.Fits before after

/-- The extensions that a part sets, in order. -/
def names : MarkedPart → List (List Char)
  | .optionList first others => (first :: others).filterMap MarkedEntry.name?
  | .statement s => [s.extension.name]
  | .commentedHead n _ => [n.extension.name]
  | _ => []

/-- The extensions that a part sets with comments in the heads of their options. -/
def commentedNames : MarkedPart → List (List Char)
  | .optionList first others =>
    ((first :: others).filter MarkedEntry.isCommented).filterMap MarkedEntry.name?
  | .commentedHead n _ => [n.extension.name]
  | _ => []

/-- What is left of a part when rejected extensions are removed. -/
def left (keep : List Char → Bool) : MarkedPart → List MarkedPart
  | .optionList first others =>
    match (first :: others).filter (MarkedEntry.stays keep) with
    | [] => []
    | e :: kept => [.optionList e kept]
  | .statement s => if keep s.extension.name then [.statement s] else []
  | p => [p]

end MarkedPart

/-- The text of parts in a row. -/
def markedText (parts : List MarkedPart) : List Char :=
  parts.flatMap MarkedPart.chars

/-- All parts fit, after the text before the first of them. -/
def MarkedFit : List Char → List MarkedPart → Prop
  | _, [] => True
  | before, p :: ps => p.Fits before (markedText ps) ∧ MarkedFit (before ++ p.chars) ps

lemma MarkedPart.textOf_seen (p : MarkedPart) : textOf p.seen = p.chars := by
  cases p with
  | commentedHead n commented => exact n.textOf_headParts
  | optionList first others =>
    have hchars : OptionEntry.chars ∘ MarkedEntry.seen = MarkedEntry.chars :=
      funext MarkedEntry.chars_seen
    simp [seen, chars, textOf, Part.chars, listChars, bracketed, hchars, MarkedEntry.chars_seen]
  | comment k => simp [seen, chars, textOf, Part.chars]
  | literal l => simp [seen, chars, textOf, Part.chars]
  | statement s => simp [seen, chars, textOf, Part.chars]
  | char c => rfl

lemma textOf_flatMap_seen (parts : List MarkedPart) :
    textOf (parts.flatMap MarkedPart.seen) = markedText parts := by
  rw [textOf, List.flatMap_assoc]
  exact List.flatMap_congr fun p _ => p.textOf_seen

/-- What fits with its comments fits as the removal sees it. -/
lemma fitAfter_seen {before : List Char} {parts : List MarkedPart} (h : MarkedFit before parts) :
    FitAfter before (parts.flatMap MarkedPart.seen) := by
  induction parts generalizing before with
  | nil => trivial
  | cons p parts ih =>
    obtain ⟨hfits, hrest⟩ := h
    have ih := ih hrest
    rw [← p.textOf_seen] at ih
    -- all parts but a name with comments are seen as the one part that they are
    have hsingle : ∀ q : Part, p.seen = [q] → q.Fits before (markedText parts) →
        FitAfter before (p.seen ++ parts.flatMap MarkedPart.seen) := by
      intro q hseen hq
      have hafter : q.Fits before (textOf (parts.flatMap MarkedPart.seen)) := by
        rwa [textOf_flatMap_seen]
      rw [hseen] at ih ⊢
      exact ⟨hafter, by simpa [textOf] using ih⟩
    rw [List.flatMap_cons]
    cases p with
    | commentedHead n commented =>
      refine n.fitAfter_headParts commented ?_
      rw [← n.textOf_headParts]
      exact ih
    | comment k => exact hsingle _ rfl (hfits _ (List.mem_singleton.2 rfl))
    | literal l => exact hsingle _ rfl (hfits _ (List.mem_singleton.2 rfl))
    | optionList first others => exact hsingle _ rfl (hfits _ (List.mem_singleton.2 rfl))
    | statement s => exact hsingle _ rfl (hfits _ (List.mem_singleton.2 rfl))
    | char c => exact hsingle _ rfl (hfits _ (List.mem_singleton.2 rfl))

/-! ## What is left -/

lemma CommentedName.retained_headParts (keep : List Char → Bool) (n : CommentedName) :
    n.headParts.flatMap (Part.retained keep) = n.headChars := by
  rw [← n.textOf_headParts]
  refine List.flatMap_congr fun q hq => ?_
  simp only [headParts, List.mem_append, List.mem_map, List.mem_flatMap, List.mem_singleton] at hq
  rcases hq with ⟨c, -, rfl⟩ | ⟨piece, -, hq⟩ | rfl
  · rfl
  · rcases piece with c | ⟨body, oneLine⟩ | ⟨body, unended⟩
    · obtain rfl : q = .char c := by simpa [NamePiece.parts] using hq
      rfl
    · rcases (by simpa [NamePiece.parts] using hq) with rfl | rfl <;> rfl
    · obtain rfl : q = .comment (.block body unended) := by simpa [NamePiece.parts] using hq
      rfl
  · rfl

lemma filter_stays_seen (keep : List Char → Bool) (entries : List MarkedEntry) :
    (entries.map MarkedEntry.seen).filter (OptionEntry.stays keep) =
      (entries.filter (MarkedEntry.stays keep)).map MarkedEntry.seen := by
  rw [List.filter_map]
  exact congrArg (List.map _) (List.filter_congr fun e _ => e.stays_seen keep)

/-- What the removal retains of the parts that it sees is the text of what is left. -/
lemma retained_seen (keep : List Char → Bool) (p : MarkedPart) :
    p.seen.flatMap (Part.retained keep) = markedText (p.left keep) := by
  cases p with
  | commentedHead n commented =>
    simpa [MarkedPart.seen, MarkedPart.left, markedText, MarkedPart.chars] using
      n.retained_headParts keep
  | optionList first others =>
    have hkept := filter_stays_seen keep (first :: others)
    rw [List.map_cons] at hkept
    simp only [MarkedPart.seen, List.flatMap_singleton, Part.retained, hkept, MarkedPart.left]
    cases (first :: others).filter (MarkedEntry.stays keep) with
    | nil => rfl
    | cons e kept =>
      have hlist := (MarkedPart.optionList e kept).textOf_seen
      simpa [MarkedPart.seen, textOf, Part.chars, markedText] using hlist
  | statement s =>
    simp only [MarkedPart.seen, List.flatMap_singleton, Part.retained, MarkedPart.left]
    split
    · simp [markedText, MarkedPart.chars]
    · rfl
  | comment k => rfl
  | literal l => rfl
  | char c => rfl

lemma names_left_optionList (keep : List Char → Bool) (first : MarkedEntry)
    (others : List MarkedEntry) :
    ((MarkedPart.optionList first others).left keep).flatMap MarkedPart.names =
      ((first :: others).filter (MarkedEntry.stays keep)).filterMap MarkedEntry.name? := by
  rw [MarkedPart.left]
  cases (first :: others).filter (MarkedEntry.stays keep) with
  | nil => rfl
  | cons e kept => simp [MarkedPart.names]

/-- An extension that is left is kept, or a comment stands in the head of its option. -/
lemma mem_names_left {keep : List Char → Bool} {p : MarkedPart} {name : List Char}
    (h : name ∈ (p.left keep).flatMap MarkedPart.names) :
    keep name = true ∨ name ∈ p.commentedNames := by
  cases p with
  | optionList first others =>
    rw [names_left_optionList] at h
    obtain ⟨e, he, hname⟩ := List.mem_filterMap.1 h
    obtain ⟨hmem, hstays⟩ := List.mem_filter.1 he
    rw [MarkedEntry.stays, hname, Option.all_some, Bool.or_eq_true] at hstays
    rcases hstays with hcommented | hkeep
    · exact Or.inr (List.mem_filterMap.2 ⟨e, List.mem_filter.2 ⟨hmem, hcommented⟩, hname⟩)
    · exact Or.inl hkeep
  | statement s =>
    rw [MarkedPart.left] at h
    split at h
    · next hkeep =>
      obtain rfl : name = s.extension.name := by simpa [MarkedPart.names] using h
      exact Or.inl hkeep
    · exact absurd h List.not_mem_nil
  | commentedHead n commented =>
    refine Or.inr ?_
    simpa [MarkedPart.left, MarkedPart.names, MarkedPart.commentedNames] using h
  | comment k => exact absurd h (by simp [MarkedPart.left, MarkedPart.names])
  | literal l => exact absurd h (by simp [MarkedPart.left, MarkedPart.names])
  | char c => exact absurd h (by simp [MarkedPart.left, MarkedPart.names])

/-- An option with a comment in its head is left. -/
lemma mem_names_left_of_commented {p : MarkedPart} {name : List Char}
    (h : name ∈ p.commentedNames) (keep : List Char → Bool) :
    name ∈ (p.left keep).flatMap MarkedPart.names := by
  cases p with
  | optionList first others =>
    rw [names_left_optionList]
    obtain ⟨e, he, hname⟩ := List.mem_filterMap.1 h
    obtain ⟨hmem, hcommented⟩ := List.mem_filter.1 he
    refine List.mem_filterMap.2 ⟨e, List.mem_filter.2 ⟨hmem, ?_⟩, hname⟩
    rw [MarkedEntry.stays, hcommented, Bool.true_or]
  | commentedHead n commented =>
    simpa [MarkedPart.left, MarkedPart.names, MarkedPart.commentedNames] using h
  | statement s => exact absurd h List.not_mem_nil
  | comment k => exact absurd h List.not_mem_nil
  | literal l => exact absurd h List.not_mem_nil
  | char c => exact absurd h List.not_mem_nil

/-- The extensions that parts set, in order. -/
def namesOf (parts : List MarkedPart) : List (List Char) :=
  parts.flatMap MarkedPart.names

/-- **Commented options stay.**  Removal leaves a rejected extension behind exactly if a comment
stands in the head of an option that sets a rejected extension: in front of the name of the
extension, or inside of its parentheses. -/
theorem rejected_left_iff_commented {parts : List MarkedPart} (h : MarkedFit [] parts)
    (keep : List Char → Bool) :
    stripOptions keep (markedText parts) = markedText (parts.flatMap (MarkedPart.left keep)) ∧
      ((∃ name ∈ namesOf (parts.flatMap (MarkedPart.left keep)), keep name = false) ↔
        ∃ name ∈ parts.flatMap MarkedPart.commentedNames, keep name = false) := by
  constructor
  · have hsegments : segments (textOf (parts.flatMap MarkedPart.seen)) =
        (parts.flatMap MarkedPart.seen).map Part.segment := segmentsFrom_textOf (fitAfter_seen h)
    rw [textOf_flatMap_seen] at hsegments
    rw [stripOptions, hsegments, List.flatMap_map, markedText, List.flatMap_assoc,
      List.flatMap_assoc]
    refine List.flatMap_congr fun p _ => ?_
    rw [← markedText, ← retained_seen]
    exact List.flatMap_congr fun q _ => retain_segment keep q
  · rw [namesOf, List.flatMap_assoc]
    constructor
    · rintro ⟨name, hleft, hkeep⟩
      obtain ⟨p, hp, hname⟩ := List.mem_flatMap.1 hleft
      rcases mem_names_left hname with hkept | hcommented
      · exact absurd hkept (by simp [hkeep])
      · exact ⟨name, List.mem_flatMap.2 ⟨p, hp, hcommented⟩, hkeep⟩
    · rintro ⟨name, hcommented, hkeep⟩
      obtain ⟨p, hp, hname⟩ := List.mem_flatMap.1 hcommented
      exact ⟨name, List.mem_flatMap.2 ⟨p, hp, mem_names_left_of_commented hname keep⟩, hkeep⟩

/-- A list whose first entry has a comment in front of it, and a statement with a comment behind its
keyword. -/
theorem rejected_left_iff_commented_twoOptions :
    ∃ parts : List MarkedPart, MarkedFit [] parts ∧
      markedText parts = "[//c\n(a),(a)];option/**/(b);".toList ∧
      stripOptions (fun _ => false) (markedText parts) = "[//c\n(a)];option/**/(b);".toList ∧
      ∃ name ∈ namesOf (parts.flatMap (MarkedPart.left fun _ => false)),
        (fun _ => false) name = false := by
  let a : Extension :=
    ⟨[], false, ['a'], [], by simp, by simp, List.forall_mem_singleton.2 rfl, by simp,
    by simp⟩
  let b : Extension :=
    ⟨[], false, ['b'], [], by simp, by simp, List.forall_mem_singleton.2 rfl, by simp,
    by simp⟩
  let note : Comment := .line ['c'] (by decide)
  let empty : Comment := .block [] (by decide)
  let plainName : CommentedName := ⟨[], a, [.char '(', .char 'a'], by simp, rfl⟩
  let notedName : CommentedName :=
    ⟨[], a, [.comment note, .char '(', .char 'a'], by simp, rfl⟩
  let head : CommentedName := ⟨[], b, [.comment empty, .char '(', .char 'b'], by simp, rfl⟩
  have hname : NestedText ',' 0 ['(', 'a', ')'] :=
    .opener (by decide) (.plain rfl (by decide) (by decide) (by decide) (by decide)
      (.closer (by decide) .nil))
  have hnoted : NestedText ',' 0 (note.chars ++ '\n' :: ['(', 'a', ')']) :=
    .comment note rfl (.plain rfl (by decide) (by decide) (by decide) (by decide) hname)
  let noted : MarkedEntry := .extension notedName [] hnoted
  let plain : MarkedEntry := .extension plainName [] hname
  have hfit : MarkedFit [] [.optionList noted [plain], .char ';', .commentedHead head rfl,
      .char ';'] := by
    have hchar : ∀ before after, (MarkedPart.char ';').Fits before after := by
      intro before after q hq
      obtain rfl : q = .char ';' := by simpa [MarkedPart.seen] using hq
      exact fits_char (by decide) (not_beginsOption_of_ne (by decide) _)
    have hlist : ∀ before after, (MarkedPart.optionList noted [plain]).Fits before after := by
      intro before after q hq
      obtain rfl : q = .optionList noted.seen [plain.seen] := by simpa [MarkedPart.seen] using hq
      trivial
    exact ⟨hlist _ _, hchar _ _, Bool.false_ne_true, hchar _ _, trivial⟩
  have hcommented : ['b'] ∈ [['a'], ['b']] := by decide
  have hresult := rejected_left_iff_commented hfit (fun _ => false)
  exact ⟨_, hfit, rfl, hresult.1.trans rfl, hresult.2.2 ⟨['b'], hcommented, rfl⟩⟩

end TypedFetch.Proto.Source
