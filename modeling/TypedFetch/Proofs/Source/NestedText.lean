import Mathlib.Data.List.Infix
import TypedFetch.Proto.Source.Options

/-!
# Nested text

A text is nested up to a delimiter if its comments and string literals end, its brackets are
balanced outside of them, and the delimiter does not occur outside of all brackets.  The search for
the delimiter passes over such a text as a whole (`scanFrom_nested`), and cutting at commas takes
nested texts that are joined by commas apart again (`splitTopLevel_intercalate`).
-/

namespace TypedFetch.Proto.Source

/-! ## Comments -/

/-- The text begins with a comment. -/
def BeginsComment (cs : List Char) : Prop :=
  ['/', '/'] <+: cs ∨ ['/', '*'] <+: cs

instance (cs : List Char) : Decidable (BeginsComment cs) :=
  inferInstanceAs (Decidable (_ ∨ _))

/-- A comment that ends: at the end of its line, or with the first `*/`. -/
inductive Comment where
  | line (body : List Char) (oneLine : '\n' ∉ body)
  | block (body : List Char) (unended : ¬ ['*', '/'] <:+: body)

/-- The text of a comment, without the line feed after a line comment. -/
def Comment.chars : Comment → List Char
  | .line body _ => '/' :: '/' :: body
  | .block body _ => '/' :: '*' :: body ++ ['*', '/']

/-- The comment ends before `rest`. -/
def Comment.EndsBefore : Comment → List Char → Prop
  | .line _ _, rest => rest.head? = some '\n'
  | .block _ _, _ => True

lemma Comment.EndsBefore.append {c : Comment} {chars : List Char} (h : c.EndsBefore chars)
    (rest : List Char) : c.EndsBefore (chars ++ rest) := by
  cases c with
  | line body oneLine => simpa [Comment.EndsBefore] using Or.inl h
  | block body unended => trivial

lemma lineLength_append {body rest : List Char} (hbody : '\n' ∉ body)
    (hrest : rest = [] ∨ rest.head? = some '\n') : lineLength (body ++ rest) = body.length := by
  have hall : ∀ c ∈ body, (c != '\n') = true := by
    intro c hc
    simpa using fun h : c = '\n' => hbody (h ▸ hc)
  have hstop : rest.takeWhile (· != '\n') = [] := by
    rcases hrest with rfl | hrest
    · rfl
    · obtain ⟨tail, rfl⟩ := List.head?_eq_some_iff.1 hrest
      simp
  rw [lineLength, List.takeWhile_append_of_pos hall, hstop, List.append_nil]

lemma blockLength_cons {c : Char} {rest : List Char} (h : ¬ ['*', '/'] <+: c :: rest) :
    blockLength (c :: rest) = blockLength rest + 1 := by
  rw [blockLength]
  rintro tail rfl rfl
  exact h ⟨tail, rfl⟩

lemma blockLength_append {body : List Char} (hbody : ¬ ['*', '/'] <:+: body) (rest : List Char) :
    blockLength (body ++ '*' :: '/' :: rest) = body.length + 2 := by
  induction body with
  | nil => rfl
  | cons c body ih =>
    have hhere : ¬ ['*', '/'] <+: c :: (body ++ '*' :: '/' :: rest) := by
      rintro ⟨tail, htail⟩
      cases body with
      | nil => simp at htail
      | cons d body =>
        obtain ⟨rfl, rfl, -⟩ : '*' = c ∧ '/' = d ∧ _ := by simpa using htail
        exact hbody ⟨[], body, rfl⟩
    have htail : ¬ ['*', '/'] <:+: body := fun h => hbody (List.infix_cons h)
    rw [List.cons_append, blockLength_cons hhere, ih htail, List.length_cons]

lemma commentLength?_eq_none_iff (cs : List Char) :
    commentLength? cs = none ↔ ¬ BeginsComment cs := by
  rw [commentLength?.eq_def]
  split
  · simp [BeginsComment]
  · simp [BeginsComment]
  · next hline hblock =>
    refine iff_of_true rfl ?_
    rintro (⟨tail, rfl⟩ | ⟨tail, rfl⟩)
    · exact hline tail rfl
    · exact hblock tail rfl

/-- A comment is passed over as a whole. -/
lemma opaqueLength?_comment (c : Comment) {rest : List Char}
    (h : rest = [] ∨ c.EndsBefore rest) :
    opaqueLength? (c.chars ++ rest) = some c.chars.length := by
  cases c with
  | line body oneLine =>
    have hlength := lineLength_append oneLine h
    simp [opaqueLength?, commentLength?, Comment.chars, hlength]
  | block body unended =>
    have hlength := blockLength_append unended rest
    simp [opaqueLength?, commentLength?, Comment.chars, hlength]

/-- Text does not begin a comment together with what follows it, unless that is a slash or a
star. -/
lemma not_beginsComment_append {c : Char} {chars rest : List Char}
    (h : ¬ BeginsComment (c :: chars)) (hslash : rest.head? ≠ some '/')
    (hstar : rest.head? ≠ some '*') : ¬ BeginsComment (c :: (chars ++ rest)) := by
  cases chars with
  | nil => cases rest <;> simp_all [BeginsComment, eq_comm]
  | cons d chars => simpa [BeginsComment] using h

/-! ## String literals -/

/-- The text between two quotes: the quote and line feeds stand after backslashes only. -/
inductive LiteralBody (quote : Char) : List Char → Prop
  | nil : LiteralBody quote []
  | escaped {rest : List Char} (c : Char) (hrest : LiteralBody quote rest) :
      LiteralBody quote ('\\' :: c :: rest)
  | plain {c : Char} {rest : List Char} (hquote : c ≠ quote) (hslash : c ≠ '\\')
      (hline : c ≠ '\n') (hrest : LiteralBody quote rest) : LiteralBody quote (c :: rest)

/-- A string literal that ends with the quote it begins with. -/
structure StringLiteral where
  quote : Char
  body : List Char
  isQuote : isQuote quote = true
  ends : LiteralBody quote body

/-- The text of a string literal. -/
def StringLiteral.chars (l : StringLiteral) : List Char :=
  l.quote :: l.body ++ [l.quote]

lemma stringLength_cons {c quote : Char} (h : c ≠ '\\') (rest : List Char) :
    stringLength quote (c :: rest) =
      if c == quote || c == '\n' then 1 else stringLength quote rest + 1 := by
  rw [stringLength]
  · exact fun hc => absurd hc h
  · exact fun _ _ hc => absurd hc h

lemma stringLength_append {quote : Char} {body : List Char} (h : LiteralBody quote body)
    (hquote : quote ≠ '\\') (rest : List Char) :
    stringLength quote (body ++ quote :: rest) = body.length + 1 := by
  induction h with
  | nil =>
    rw [List.nil_append, stringLength_cons hquote]
    simp
  | @escaped body c hbody ih =>
    rw [List.cons_append, List.cons_append, stringLength, ih]
    simp
  | @plain c body hc hslash hline hbody ih =>
    rw [List.cons_append, stringLength_cons hslash, ih]
    simp [hc, hline]

lemma isQuote_iff (c : Char) : isQuote c = true ↔ c = '"' ∨ c = '\'' := by
  simp [isQuote]

/-- A string literal is passed over as a whole. -/
lemma opaqueLength?_literal (l : StringLiteral) (rest : List Char) :
    opaqueLength? (l.chars ++ rest) = some l.chars.length := by
  have hquote := (isQuote_iff _).1 l.isQuote
  have hslash : l.quote ≠ '\\' := by rcases hquote with h | h <;> simp [h]
  have hcomment : commentLength? (l.chars ++ rest) = none := by
    rw [commentLength?_eq_none_iff, StringLiteral.chars]
    rcases hquote with h | h <;> simp [BeginsComment, h]
  have hlength := stringLength_append l.ends hslash rest
  rw [opaqueLength?.eq_def, hcomment]
  simp [StringLiteral.chars, l.isQuote, hlength]

/-- Other characters are looked at one by one. -/
lemma opaqueLength?_eq_none {c : Char} {rest : List Char} (hquote : isQuote c = false)
    (hcomment : ¬ BeginsComment (c :: rest)) : opaqueLength? (c :: rest) = none := by
  rw [opaqueLength?, (commentLength?_eq_none_iff _).2 hcomment]
  simp [hquote]

lemma opaqueLength?_of_ne {c : Char} (hquote : isQuote c = false) (hslash : c ≠ '/')
    (rest : List Char) : opaqueLength? (c :: rest) = none :=
  opaqueLength?_eq_none hquote (by simp [BeginsComment, hslash.symm])

/-- What begins here is a comment of either kind or a literal. -/
lemma opaqueLength?_cases {c : Char} {rest : List Char} {n : Nat}
    (h : opaqueLength? (c :: rest) = some n) :
    (c = '/' ∧ ∃ body, rest = '/' :: body ∧ n = lineLength body + 2) ∨
      (c = '/' ∧ ∃ body, rest = '*' :: body ∧ n = blockLength body + 2) ∨
      (isQuote c = true ∧ n = stringLength c rest + 1) := by
  rw [opaqueLength?.eq_def] at h
  cases hcomment : commentLength? (c :: rest) with
  | some m =>
    rw [hcomment] at h
    obtain rfl : m = n := Option.some.inj h
    rw [commentLength?.eq_def] at hcomment
    split at hcomment
    · next body heq =>
      obtain ⟨rfl, rfl⟩ := List.cons.inj heq
      exact Or.inl ⟨rfl, body, rfl, (Option.some.inj hcomment).symm⟩
    · next body heq =>
      obtain ⟨rfl, rfl⟩ := List.cons.inj heq
      exact Or.inr (Or.inl ⟨rfl, body, rfl, (Option.some.inj hcomment).symm⟩)
    · exact absurd hcomment (by simp)
  | none =>
    rw [hcomment] at h
    simp only at h
    split at h
    · next hquote => exact Or.inr (Or.inr ⟨hquote, (Option.some.inj h).symm⟩)
    · exact absurd h (by simp)

lemma opaqueLength?_pos {cs : List Char} {n : Nat} (h : opaqueLength? cs = some n) : 0 < n := by
  cases cs with
  | nil => exact absurd h (by simp [opaqueLength?, commentLength?])
  | cons c rest =>
    rcases opaqueLength?_cases h with ⟨-, body, -, rfl⟩ | ⟨-, body, -, rfl⟩ | ⟨-, rfl⟩ <;>
      exact Nat.succ_pos _

/-! ## Nested text -/

/-- An opening bracket of any kind. -/
def IsOpener (c : Char) : Prop :=
  c = '\x7b' ∨ c = '[' ∨ c = '('

/-- A closing bracket of any kind. -/
def IsCloser (c : Char) : Prop :=
  c = '\x7d' ∨ c = ']' ∨ c = ')'

instance (c : Char) : Decidable (IsOpener c) :=
  inferInstanceAs (Decidable (_ ∨ _))

instance (c : Char) : Decidable (IsCloser c) :=
  inferInstanceAs (Decidable (_ ∨ _))

/-- The text closes all brackets that it opens, and `depth` more, outside of its comments and string
literals, all of which end; `stop` stands in brackets only. -/
inductive NestedText (stop : Char) : Nat → List Char → Prop
  | nil : NestedText stop 0 []
  | comment {depth : Nat} {rest : List Char} (c : Comment) (hends : c.EndsBefore rest)
      (hrest : NestedText stop depth rest) : NestedText stop depth (c.chars ++ rest)
  | literal {depth : Nat} {rest : List Char} (l : StringLiteral)
      (hrest : NestedText stop depth rest) : NestedText stop depth (l.chars ++ rest)
  | opener {depth : Nat} {c : Char} {rest : List Char} (hc : IsOpener c)
      (hrest : NestedText stop (depth + 1) rest) : NestedText stop depth (c :: rest)
  | closer {depth : Nat} {c : Char} {rest : List Char} (hc : IsCloser c)
      (hrest : NestedText stop depth rest) : NestedText stop (depth + 1) (c :: rest)
  | plain {depth : Nat} {c : Char} {rest : List Char} (hquote : isQuote c = false)
      (hopener : ¬ IsOpener c) (hcloser : ¬ IsCloser c) (hcomment : ¬ BeginsComment (c :: rest))
      (hstop : depth = 0 → c ≠ stop) (hrest : NestedText stop depth rest) :
      NestedText stop depth (c :: rest)

/-- A closing bracket never stands outside of all brackets. -/
lemma NestedText.of_isCloser {stop closer : Char} {depth : Nat} {chars : List Char}
    (h : NestedText stop depth chars) (hcloser : IsCloser closer) :
    NestedText closer depth chars := by
  induction h with
  | nil => exact .nil
  | comment c hends hrest ih => exact .comment c hends ih
  | literal l hrest ih => exact .literal l ih
  | opener hc hrest ih => exact .opener hc ih
  | closer hc hrest ih => exact .closer hc ih
  | plain hquote hopener hc hcomment hstop hrest ih =>
    exact .plain hquote hopener hc hcomment (fun _ heq => hc (heq ▸ hcloser)) ih

/-- Nested texts in a row are nested, if they do not make a comment where they meet. -/
lemma NestedText.append {stop : Char} {depth : Nat} {chars rest : List Char}
    (h : NestedText stop depth chars) (hrest : NestedText stop 0 rest)
    (hslash : rest.head? ≠ some '/') (hstar : rest.head? ≠ some '*') :
    NestedText stop depth (chars ++ rest) := by
  induction h with
  | nil => exact hrest
  | @comment depth chars c hends _ ih =>
    rw [List.append_assoc]
    exact .comment c (hends.append rest) ih
  | literal l _ ih =>
    rw [List.append_assoc]
    exact .literal l ih
  | opener hc _ ih => exact .opener hc ih
  | closer hc _ ih => exact .closer hc ih
  | plain hquote hopener hcloser hcomment hstop _ ih =>
    exact .plain hquote hopener hcloser (not_beginsComment_append hcomment hslash hstar) hstop ih

/-! ## Searching for the delimiter -/

lemma scanFrom_skip (stop : Char) (depth : Int) (front rest : List Char) :
    scanFrom stop depth front.length (front ++ rest) =
      front.length + scanFrom stop depth 0 rest := by
  induction front with
  | nil => simp
  | cons c front ih =>
    rw [List.cons_append, List.length_cons, scanFrom, ih]
    omega

lemma scanFrom_opaque {front rest : List Char} (stop : Char) (depth : Int) (hfront : front ≠ [])
    (h : opaqueLength? (front ++ rest) = some front.length) :
    scanFrom stop depth 0 (front ++ rest) = front.length + scanFrom stop depth 0 rest := by
  obtain ⟨c, front, rfl⟩ := List.exists_cons_of_ne_nil hfront
  rw [List.cons_append] at h ⊢
  rw [scanFrom, h]
  simp only [List.length_cons, Nat.add_sub_cancel, scanFrom_skip]
  omega

lemma scanFrom_char {c stop : Char} {depth : Int} {rest : List Char}
    (h : opaqueLength? (c :: rest) = none) (hstop : depth = 0 → c ≠ stop) :
    scanFrom stop depth 0 (c :: rest) = scanFrom stop (depthAfter depth c) 0 rest + 1 := by
  have hgo : (depth == 0 && c == stop) = false := by
    rw [Bool.and_eq_false_imp]
    exact fun hdepth => beq_eq_false_iff_ne.2 (hstop (eq_of_beq hdepth))
  rw [scanFrom, h]
  simp [hgo]

lemma depthAfter_opener {c : Char} (h : IsOpener c) (depth : Nat) :
    depthAfter depth c = (depth + 1 : Nat) := by
  rcases h with rfl | rfl | rfl <;> simp [depthAfter]

lemma depthAfter_closer {c : Char} (h : IsCloser c) (depth : Nat) :
    depthAfter (depth + 1 : Nat) c = depth := by
  rcases h with rfl | rfl | rfl <;> simp [depthAfter]

lemma depthAfter_plain {c : Char} (hopener : ¬ IsOpener c) (hcloser : ¬ IsCloser c) (depth : Int) :
    depthAfter depth c = depth := by
  simp only [IsOpener, not_or] at hopener
  simp only [IsCloser, not_or] at hcloser
  simp [depthAfter, hopener, hcloser]

/-- No bracket begins a comment or a string literal. -/
lemma opaqueLength?_bracket {c : Char} (h : IsOpener c ∨ IsCloser c) (rest : List Char) :
    opaqueLength? (c :: rest) = none := by
  rcases h with (rfl | rfl | rfl) | (rfl | rfl | rfl) <;>
    exact opaqueLength?_of_ne rfl (by decide) rest

/-- The characters that end a piece. -/
def IsDelimiter (stop : Char) : Prop :=
  stop = ',' ∨ stop = ';' ∨ stop = ']'

/-- A delimiter begins no string literal, and neither begins a comment nor makes one of a slash. -/
lemma IsDelimiter.plain {stop : Char} (h : IsDelimiter stop) :
    isQuote stop = false ∧ stop ≠ '/' ∧ stop ≠ '*' := by
  rcases h with rfl | rfl | rfl <;> decide

lemma scanFrom_delimiter {stop : Char} (h : IsDelimiter stop) (rest : List Char) :
    scanFrom stop 0 0 (stop :: rest) = 0 := by
  rw [scanFrom, opaqueLength?_of_ne h.plain.1 h.plain.2.1]
  simp

/-- The search for the delimiter passes over nested text as a whole.  The induction is on the nested
text: the search counts the brackets that are still to be closed. -/
lemma scanFrom_nested {stop : Char} {depth : Nat} {chars rest : List Char}
    (h : NestedText stop depth chars) (hstop : IsDelimiter stop)
    (hrest : rest = [] ∨ rest.head? = some stop) :
    scanFrom stop depth 0 (chars ++ rest) = chars.length := by
  obtain ⟨-, hslash, hstar⟩ := hstop.plain
  have hslash : rest.head? ≠ some '/' := by rcases hrest with rfl | hhead <;> simp [*]
  have hstar : rest.head? ≠ some '*' := by rcases hrest with rfl | hhead <;> simp [*]
  induction h with
  | nil =>
    rcases hrest with rfl | hrest
    · rfl
    · obtain ⟨tail, rfl⟩ := List.head?_eq_some_iff.1 hrest
      exact scanFrom_delimiter hstop tail
  | @comment depth chars c hends _ ih =>
    have hopaque := opaqueLength?_comment c (Or.inr (hends.append rest))
    have hne : c.chars ≠ [] := by cases c <;> simp [Comment.chars]
    rw [List.append_assoc, scanFrom_opaque _ _ hne hopaque, ih, List.length_append]
  | @literal depth chars l _ ih =>
    have hne : l.chars ≠ [] := by simp [StringLiteral.chars]
    rw [List.append_assoc, scanFrom_opaque _ _ hne (opaqueLength?_literal l _), ih,
      List.length_append]
  | @opener depth c chars hc _ ih =>
    have hgo : (depth : Int) = 0 → c ≠ stop := by
      intro _
      rcases hc with rfl | rfl | rfl <;> rcases hstop with rfl | rfl | rfl <;> decide
    rw [List.cons_append, scanFrom_char (opaqueLength?_bracket (Or.inl hc) _) hgo,
      depthAfter_opener hc, ih, List.length_cons]
  | @closer depth c chars hc _ ih =>
    have hgo : ((depth + 1 : Nat) : Int) = 0 → c ≠ stop := fun h => absurd h (by omega)
    rw [List.cons_append, scanFrom_char (opaqueLength?_bracket (Or.inr hc) _) hgo,
      depthAfter_closer hc, ih, List.length_cons]
  | @plain depth c chars hquote hopener hcloser hcomment hplain _ ih =>
    have hopaque : opaqueLength? (c :: (chars ++ rest)) = none :=
      opaqueLength?_eq_none hquote (not_beginsComment_append hcomment hslash hstar)
    rw [List.cons_append, scanFrom_char hopaque (fun h => hplain (by omega)),
      depthAfter_plain hopener hcloser, ih, List.length_cons]

/-- The first delimiter outside of brackets is the one that follows the nested text. -/
lemma scanTo_nested {stop : Char} {chars rest : List Char} (h : NestedText stop 0 chars)
    (hstop : IsDelimiter stop) (hrest : rest = [] ∨ rest.head? = some stop) :
    scanTo stop (chars ++ rest) = chars.length :=
  scanFrom_nested h hstop hrest

/-! ## Cutting at commas -/

/-- The pieces of what follows a piece: nothing, or a comma and more pieces. -/
def piecesAfter : List Char → List (List Char)
  | [] => []
  | _ :: rest => splitTopLevel rest

/-- Cutting takes the text up to the first comma outside of brackets, again and again. -/
lemma splitFrom_eq_scanFrom (depth : Int) (skip : Nat) (cs : List Char) :
    splitFrom depth skip cs = cs.take (scanFrom ',' depth skip cs) ::
      piecesAfter (cs.drop (scanFrom ',' depth skip cs)) := by
  induction cs generalizing depth skip with
  | nil => simp [splitFrom, scanFrom, piecesAfter]
  | cons c cs ih =>
    cases skip with
    | succ skip =>
      rw [splitFrom, scanFrom, ih]
      rfl
    | zero =>
      rw [splitFrom, scanFrom]
      cases opaqueLength? (c :: cs) with
      | some n =>
        simp only [ih]
        rfl
      | none =>
        by_cases hstop : (depth == 0 && c == ',') = true
        · simp [hstop, piecesAfter, splitTopLevel]
        · simp only [hstop, ih]
          rfl

lemma splitTopLevel_eq_scanTo (cs : List Char) :
    splitTopLevel cs = cs.take (scanTo ',' cs) :: piecesAfter (cs.drop (scanTo ',' cs)) :=
  splitFrom_eq_scanFrom 0 0 cs

/-- Cutting undoes joining by commas. -/
lemma splitTopLevel_intercalate {pieces : List (List Char)} (hne : pieces ≠ [])
    (h : ∀ piece ∈ pieces, NestedText ',' 0 piece) :
    splitTopLevel ([','].intercalate pieces) = pieces := by
  induction pieces with
  | nil => exact absurd rfl hne
  | cons piece pieces ih =>
    obtain ⟨hpiece, hpieces⟩ := List.forall_mem_cons.1 h
    cases pieces with
    | nil =>
      have hscan : scanTo ',' (piece ++ []) = piece.length :=
        scanTo_nested hpiece (Or.inl rfl) (Or.inl rfl)
      rw [List.append_nil] at hscan
      simp [List.intercalate, splitTopLevel_eq_scanTo, hscan, piecesAfter]
    | cons next pieces =>
      have hscan : scanTo ',' (piece ++ ',' :: [','].intercalate (next :: pieces)) =
          piece.length := scanTo_nested hpiece (Or.inl rfl) (Or.inr rfl)
      rw [List.intercalate_cons_cons, List.append_assoc, List.singleton_append,
        splitTopLevel_eq_scanTo, hscan]
      simp [piecesAfter, ih (by simp) hpieces]

/-- Nested texts that are joined by commas are nested in the brackets of a list. -/
lemma NestedText.intercalate {pieces : List (List Char)}
    (h : ∀ piece ∈ pieces, NestedText ',' 0 piece) :
    NestedText ']' 0 ([','].intercalate pieces) := by
  induction pieces with
  | nil => exact .nil
  | cons piece pieces ih =>
    obtain ⟨hpiece, hpieces⟩ := List.forall_mem_cons.1 h
    have hhere : NestedText ']' 0 piece := hpiece.of_isCloser (Or.inr (Or.inl rfl))
    cases pieces with
    | nil => simpa [List.intercalate] using hhere
    | cons next pieces =>
      rw [List.intercalate_cons_cons, List.append_assoc, List.singleton_append]
      have hcomma : NestedText ']' 0 (',' :: [','].intercalate (next :: pieces)) :=
        .plain rfl (by simp [IsOpener]) (by simp [IsCloser]) (by simp [BeginsComment])
          (fun _ => by decide) (ih hpieces)
      exact hhere.append hcomma (by simp) (by simp)

end TypedFetch.Proto.Source
