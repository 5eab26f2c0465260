import Mathlib.Data.List.TakeWhile
import TypedFetch.Http.PathTemplate
import TypedFetch.Proofs.Text.Cut
import TypedFetch.Proofs.Text.Identifier

/-!
# Placeholders and escapes

The placeholders of a path are found twice: in the path itself, for the fields that are taken out of
the request, and in the path with its escapes, for the template literal.  Escapes neither open nor
close a placeholder and leave the field path of a placeholder as it is, so both times the same
placeholders are found, and the template literal can be described by the pieces of the path alone.
-/

namespace TypedFetch.Http

open TypedFetch.TypeScript (templateChars)

/-! ## Pieces -/

lemma piecesFrom_eq_drop (skip : Nat) (cs : List Char) :
    piecesFrom skip cs = pieces (cs.drop skip) := by
  induction cs generalizing skip with
  | nil => cases skip <;> rfl
  | cons c cs ih =>
    cases skip with
    | zero => rfl
    | succ skip => rw [piecesFrom, ih, List.drop_succ_cons]

lemma pieces_literal {c : Char} (h : c ≠ '\x7b') (cs : List Char) :
    pieces (c :: cs) = .literal c :: pieces cs := by
  simp [pieces, piecesFrom, h]

lemma placeholderInner?_of_not_mem {cs : List Char} (h : '\x7d' ∉ cs) :
    placeholderInner? cs = none := by
  have hall : cs.takeWhile (· != '\x7d') = cs := by
    rw [List.takeWhile_eq_self_iff]
    intro c hc
    simpa using fun hc' : c = '\x7d' => h (hc' ▸ hc)
  simp [placeholderInner?, hall]

lemma placeholderInner?_append {inner : List Char} (h : '\x7d' ∉ inner) (tail : List Char) :
    placeholderInner? (inner ++ '\x7d' :: tail) = if inner.isEmpty then none else some inner := by
  have htake : (inner ++ '\x7d' :: tail).takeWhile (· != '\x7d') = inner := by
    rw [List.takeWhile_append_of_pos fun c hc => by
      simpa using fun hc' : c = '\x7d' => h (hc' ▸ hc)]
    simp
  have hlength : (inner.length == (inner ++ '\x7d' :: tail).length) = false := by
    simp
  simp only [placeholderInner?, htake, hlength, Bool.or_false]

/-- A brace that is never closed is literal text. -/
lemma pieces_unclosed {cs : List Char} (h : '\x7d' ∉ cs) :
    pieces ('\x7b' :: cs) = .literal '\x7b' :: pieces cs := by
  simp [pieces, piecesFrom, placeholderInner?_of_not_mem h]

/-- Braces with nothing between them are literal text. -/
lemma pieces_empty (cs : List Char) :
    pieces ('\x7b' :: '\x7d' :: cs) = .literal '\x7b' :: pieces ('\x7d' :: cs) := by
  have h : placeholderInner? ('\x7d' :: cs) = none :=
    placeholderInner?_append List.not_mem_nil cs
  simp [pieces, piecesFrom, h]

lemma pieces_placeholder {inner : List Char} (hne : inner ≠ []) (h : '\x7d' ∉ inner)
    (tail : List Char) :
    pieces ('\x7b' :: (inner ++ '\x7d' :: tail)) = .placeholder inner :: pieces tail := by
  have hinner : placeholderInner? (inner ++ '\x7d' :: tail) = some inner := by
    rw [placeholderInner?_append h]
    simp [hne]
  have hdrop : (inner ++ '\x7d' :: tail).drop (inner.length + 1) = tail := by
    simp [List.drop_append]
  have hfirst : pieces ('\x7b' :: (inner ++ '\x7d' :: tail)) =
      .placeholder inner :: piecesFrom (inner.length + 1) (inner ++ '\x7d' :: tail) := by
    simp [pieces, piecesFrom, hinner]
  rw [hfirst, piecesFrom_eq_drop, hdrop]

/-- Induction over the pieces of a text. -/
lemma pieces_induction {P : List Char → Prop} (nil : P [])
    (literal : ∀ c cs, c ≠ '\x7b' → P cs → P (c :: cs))
    (unclosed : ∀ cs, '\x7d' ∉ cs → P cs → P ('\x7b' :: cs))
    (empty : ∀ cs, P ('\x7d' :: cs) → P ('\x7b' :: '\x7d' :: cs))
    (placeholder : ∀ inner tail, inner ≠ [] → '\x7d' ∉ inner → P tail →
      P ('\x7b' :: (inner ++ '\x7d' :: tail))) : ∀ cs, P cs := by
  intro cs
  -- a placeholder is passed over at once, so the induction is on the length
  induction hn : cs.length using Nat.strongRecOn generalizing cs with
  | _ n ih =>
    subst hn
    cases cs with
    | nil => exact nil
    | cons c cs =>
      by_cases hc : c = '\x7b'
      · subst hc
        by_cases hclose : '\x7d' ∈ cs
        · obtain ⟨inner, tail, rfl, hinner⟩ := List.eq_append_cons_of_mem hclose
          cases inner with
          | nil => exact empty tail (ih _ (by simp) _ rfl)
          | cons d inner =>
            exact placeholder _ tail (by simp) hinner (ih _ (by simp; omega) _ rfl)
        · exact unclosed cs hclose (ih _ (by simp) _ rfl)
      · exact literal c cs hc (ih _ (by simp) _ rfl)

/-- The pieces of a text are the text, taken apart. -/
lemma flatMap_chars_pieces (cs : List Char) : (pieces cs).flatMap Piece.chars = cs := by
  induction cs using pieces_induction with
  | nil => rfl
  | literal c cs hc ih => simp [pieces_literal hc, Piece.chars, ih]
  | unclosed cs hcs ih => simp [pieces_unclosed hcs, Piece.chars, ih]
  | empty cs ih => simp [pieces_empty, Piece.chars, ih]
  | placeholder inner tail hne h ih => simp [pieces_placeholder hne h, Piece.chars, ih]

lemma mem_of_literal_mem_pieces {c : Char} {cs : List Char} (h : .literal c ∈ pieces cs) :
    c ∈ cs := by
  rw [← flatMap_chars_pieces cs]
  exact List.mem_flatMap.2 ⟨.literal c, h, by simp [Piece.chars]⟩

/-! ## Escapes -/

/-- The pieces start with an opening brace. -/
def startsOpen : List Piece → Bool
  | [] => false
  | .literal c :: _ => c == '\x7b'
  | .placeholder _ :: _ => true

lemma startsOpen_pieces (cs : List Char) : startsOpen (pieces cs) = (cs.head? == some '\x7b') := by
  induction cs using pieces_induction with
  | nil => rfl
  | literal c cs hc _ => simp [pieces_literal hc, startsOpen]
  | unclosed cs hcs _ => simp [pieces_unclosed hcs, startsOpen]
  | empty cs _ => simp [pieces_empty, startsOpen]
  | placeholder inner tail hne h _ => simp [pieces_placeholder hne h, startsOpen]

/-- A literal character with its escape, before the following pieces. -/
def escapedLiteral (c : Char) (next : List Piece) : List Char :=
  if c == '\\' || c == '\x60' || (c == '$' && startsOpen next) then ['\\', c] else [c]

@[simp] lemma templateChars_literalPiece (c : Char) : (Piece.literal c).templateChars = [c] := rfl

/-- The substitution of a field path. -/
def substitution (field : List Char) : List Char :=
  "$\x7brequest.".toList ++ accessChars field ++ ['\x7d']

@[simp] lemma templateChars_placeholderPiece (inner : List Char) :
    (Piece.placeholder inner).templateChars = substitution (fieldPath inner) := rfl

/-- The template literal of a path, by the pieces of the path. -/
def templateOf : List Piece → List Char
  | [] => []
  | .literal c :: rest => escapedLiteral c rest ++ templateOf rest
  | .placeholder inner :: rest => substitution (fieldPath inner) ++ templateOf rest

lemma templateChars_literal (c : Char) (cs : List Char) :
    templateChars (c :: cs) = escapedLiteral c (pieces cs) ++ templateChars cs := by
  -- a dollar sign is the only character whose escape depends on what follows
  by_cases hc : c = '$'
  · subst hc
    rw [escapedLiteral, startsOpen_pieces]
    cases cs with
    | nil => rfl
    | cons d cs =>
      by_cases hd : d = '\x7b'
      · subst hd
        rfl
      · have htemplate : templateChars ('$' :: d :: cs) = '$' :: templateChars (d :: cs) := by
          rw [templateChars]
          exact fun _ h => hd (List.cons.inj h).1
        rw [htemplate]
        simp [hd]
  · have htemplate : templateChars (c :: cs) =
        if c == '\\' || c == '\x60' then '\\' :: c :: templateChars cs
        else c :: templateChars cs := by
      rw [templateChars]
      exact fun h => absurd h hc
    rw [htemplate, escapedLiteral]
    simp only [beq_eq_false_iff_ne.2 hc, Bool.false_and, Bool.or_false]
    split <;> rfl

lemma templateChars_brace (cs : List Char) :
    templateChars ('\x7b' :: cs) = '\x7b' :: templateChars cs := by
  rw [templateChars_literal]
  rfl

lemma templateChars_close (cs : List Char) :
    templateChars ('\x7d' :: cs) = '\x7d' :: templateChars cs := by
  rw [templateChars_literal]
  rfl

lemma mem_templateChars {c : Char} {cs : List Char} (h : c ∈ templateChars cs) :
    c ∈ cs ∨ c = '\\' := by
  induction cs with
  | nil => exact absurd h (by simp [templateChars])
  | cons d cs ih =>
    rw [templateChars_literal] at h
    rcases List.mem_append.1 h with h | h
    · unfold escapedLiteral at h
      split at h
      · rcases List.mem_cons.1 h with rfl | h
        · exact Or.inr rfl
        · exact Or.inl (by simp [List.mem_singleton.1 h])
      · exact Or.inl (by simp [List.mem_singleton.1 h])
    · exact (ih h).imp_left (List.mem_cons_of_mem _)

/-- Escapes close no placeholder. -/
lemma close_not_mem_templateChars {cs : List Char} (h : '\x7d' ∉ cs) :
    '\x7d' ∉ templateChars cs := by
  intro hmem
  rcases mem_templateChars hmem with hmem | hmem
  · exact h hmem
  · exact absurd hmem (by decide)

lemma templateChars_ne_nil {cs : List Char} (h : cs ≠ []) : templateChars cs ≠ [] := by
  cases cs with
  | nil => exact absurd rfl h
  | cons c cs =>
    rw [templateChars_literal, escapedLiteral]
    split <;> simp

/-- Escapes look one character ahead, and that only for an opening brace. -/
lemma templateChars_append {c : Char} (hc : c ≠ '\x7b') (xs ys : List Char) :
    templateChars (xs ++ c :: ys) = templateChars xs ++ templateChars (c :: ys) := by
  induction xs with
  | nil => rfl
  | cons x xs ih =>
    have hstart : startsOpen (pieces (xs ++ c :: ys)) = startsOpen (pieces xs) := by
      rw [startsOpen_pieces, startsOpen_pieces]
      cases xs <;> simp [hc]
    rw [List.cons_append, templateChars_literal, templateChars_literal x xs, ih, List.append_assoc]
    simp only [escapedLiteral, hstart]

/-! ## Field paths -/

/-- A field path: identifiers with dots between them. -/
def isFieldPath (field : List Char) : Bool :=
  (Text.cutAt '.' field).all Naming.isIdentifier

lemma mem_fieldPath {field : List Char} (h : isFieldPath field = true) :
    ∀ c ∈ field, c = '.' ∨ c.isAlphanum = true ∨ c = '_' := by
  intro c hc
  refine (Text.mem_cutAt hc).imp_right ?_
  rintro ⟨part, hpart, hc⟩
  exact Naming.mem_identifier (List.all_eq_true.1 h part hpart) c hc

/-- Trimming removes characters of the class only. -/
lemma mem_trimWhile {p : Char → Bool} {c : Char} {cs : List Char} (h : c ∈ cs) :
    p c = true ∨ c ∈ Text.trimWhile p cs := by
  have hdrop : ∀ {ds : List Char}, c ∈ ds → p c = true ∨ c ∈ ds.dropWhile p := by
    intro ds hds
    rw [← List.takeWhile_append_dropWhile (p := p) (l := ds)] at hds
    rcases List.mem_append.1 hds with hds | hds
    · exact Or.inl (List.mem_takeWhile_imp hds)
    · exact Or.inr hds
  rcases hdrop h with hc | hc
  · exact Or.inl hc
  · refine (hdrop (List.mem_reverse.2 hc)).imp_right ?_
    exact fun hc => List.mem_reverse.2 hc

/-- A character that stands for itself in a template literal, whatever follows it. -/
def isPlain (c : Char) : Bool := c != '\\' && c != '\x60' && c != '$'

lemma templateChars_plain {xs : List Char} (h : ∀ c ∈ xs, isPlain c = true) (ys : List Char) :
    templateChars (xs ++ ys) = xs ++ templateChars ys := by
  induction xs with
  | nil => rfl
  | cons x xs ih =>
    have hx : x ≠ '\\' ∧ x ≠ '\x60' ∧ x ≠ '$' := by
      simpa [isPlain, and_assoc] using h x (by simp)
    rw [List.cons_append, templateChars_literal, ih fun c hc => h c (by simp [hc])]
    simp [escapedLiteral, hx]

lemma isPlain_of_isBlank {c : Char} (h : Text.isBlank c = true) : isPlain c = true := by
  simp only [isPlain, Bool.and_eq_true, bne_iff_ne]
  refine ⟨⟨?_, ?_⟩, ?_⟩ <;> rintro rfl <;> exact absurd h (by decide)

lemma isPlain_of_mem_fieldPath {c : Char} (h : c = '.' ∨ c.isAlphanum = true ∨ c = '_') :
    isPlain c = true := by
  simp only [isPlain, Bool.and_eq_true, bne_iff_ne]
  refine ⟨⟨?_, ?_⟩, ?_⟩ <;> rintro rfl <;> exact absurd h (by decide)

lemma cutFirst_fst (sep : Char) (cs : List Char) :
    (Text.cutFirst sep cs).1 = cs.takeWhile (· != sep) := by
  unfold Text.cutFirst
  split
  · next h =>
    have happend := List.takeWhile_append_dropWhile (p := (· != sep)) (l := cs)
    rw [h, List.append_nil] at happend
    exact happend.symm
  · rfl

/-- Escapes leave the field path of a placeholder as it is. -/
lemma fieldPath_templateChars {inner : List Char} (h : isFieldPath (fieldPath inner) = true) :
    fieldPath (templateChars inner) = fieldPath inner := by
  -- before the equals sign there are blanks and the characters of the field path only
  have hplain : ∀ c ∈ inner.takeWhile (· != '='), isPlain c = true := by
    intro c hc
    rcases mem_trimWhile (p := Text.isBlank) hc with hblank | hmem
    · exact isPlain_of_isBlank hblank
    · rw [fieldPath, cutFirst_fst] at h
      exact isPlain_of_mem_fieldPath (mem_fieldPath h c hmem)
  have htake : (templateChars inner).takeWhile (· != '=') = inner.takeWhile (· != '=') := by
    conv_lhs => rw [← List.takeWhile_append_dropWhile (p := (· != '=')) (l := inner)]
    have hbefore : ∀ c ∈ inner.takeWhile (· != '='), (c != '=') = true :=
      fun c hc => List.mem_takeWhile_imp (p := (· != '=')) hc
    rw [templateChars_plain hplain, List.takeWhile_append_of_pos hbefore]
    rcases hrest : inner.dropWhile (· != '=') with _ | ⟨d, rest⟩
    · simp [templateChars]
    · have hd : d = '=' := by
        have := List.head_dropWhile_not (· != '=') (l := inner) (by simp [hrest])
        simpa [hrest] using this
      subst hd
      rw [templateChars_literal]
      simp [escapedLiteral]
  rw [fieldPath, fieldPath, cutFirst_fst, cutFirst_fst, htake]

/-! ## The template literal -/

/-- Placeholders are found in the escaped path where they are found in the path. -/
lemma pieces_templateChars {cs : List Char}
    (h : ∀ inner, .placeholder inner ∈ pieces cs →
      fieldPath (templateChars inner) = fieldPath inner) :
    (pieces (templateChars cs)).flatMap Piece.templateChars = templateOf (pieces cs) := by
  induction cs using pieces_induction with
  | nil => rfl
  | literal c cs hc ih =>
    have ih := ih fun inner hinner => h inner (by simp [pieces_literal hc, hinner])
    rw [templateChars_literal, pieces_literal hc, templateOf, escapedLiteral]
    split
    · -- the backslash of an escape is a literal piece like the character after it
      rw [List.cons_append, pieces_literal (by decide), List.singleton_append, pieces_literal hc]
      simp [ih]
    · rw [List.singleton_append, pieces_literal hc]
      simp [ih]
  | unclosed cs hcs ih =>
    have ih := ih fun inner hinner => h inner (by simp [pieces_unclosed hcs, hinner])
    rw [templateChars_brace, pieces_unclosed (close_not_mem_templateChars hcs), pieces_unclosed hcs,
      templateOf]
    simp [ih, escapedLiteral]
  | empty cs ih =>
    have ih := ih fun inner hinner => h inner (by simp [pieces_empty, hinner])
    rw [templateChars_brace, templateChars_close, pieces_empty, pieces_empty, templateOf,
      ← templateChars_close]
    simp [ih, escapedLiteral]
  | placeholder inner tail hne hinner ih =>
    have ih := ih fun inner' hinner' => h inner' (by simp [pieces_placeholder hne hinner, hinner'])
    have hfield := h inner (by simp [pieces_placeholder hne hinner])
    -- the text between the braces may have escapes now, but its field path is the same
    rw [templateChars_brace, templateChars_append (by decide), templateChars_close,
      pieces_placeholder (templateChars_ne_nil hne) (close_not_mem_templateChars hinner),
      pieces_placeholder hne hinner, templateOf]
    simp [ih, hfield]

/-- A path has placeholders if it has them with its escapes. -/
lemma exists_placeholder_templateChars (cs : List Char) :
    (∃ inner, .placeholder inner ∈ pieces (templateChars cs)) ↔
      ∃ inner, .placeholder inner ∈ pieces cs := by
  induction cs using pieces_induction with
  | nil => rfl
  | literal c cs hc ih =>
    rw [templateChars_literal, pieces_literal hc, escapedLiteral]
    split
    · rw [List.cons_append, pieces_literal (by decide), List.singleton_append, pieces_literal hc]
      simpa using ih
    · rw [List.singleton_append, pieces_literal hc]
      simpa using ih
  | unclosed cs hcs ih =>
    rw [templateChars_brace, pieces_unclosed (close_not_mem_templateChars hcs), pieces_unclosed hcs]
    simpa using ih
  | empty cs ih =>
    rw [templateChars_brace, templateChars_close, pieces_empty, pieces_empty, ← templateChars_close]
    simpa using ih
  | placeholder inner tail hne hinner ih =>
    rw [templateChars_brace, templateChars_append (by decide), templateChars_close,
      pieces_placeholder (templateChars_ne_nil hne) (close_not_mem_templateChars hinner),
      pieces_placeholder hne hinner]
    exact ⟨fun _ => ⟨inner, by simp⟩, fun _ => ⟨templateChars inner, by simp⟩⟩

lemma pathParams_ne_nil_iff (path : String) :
    pathParams path ≠ [] ↔ ∃ inner, .placeholder inner ∈ pieces path.toList := by
  rw [pathParams, fieldPaths, ne_eq, List.map_eq_nil_iff, List.filterMap_eq_nil_iff]
  constructor
  · intro h
    simp only [not_forall] at h
    obtain ⟨piece, hpiece, hfield⟩ := h
    cases piece with
    | literal c => exact absurd rfl hfield
    | placeholder inner => exact ⟨inner, hpiece⟩
  · rintro ⟨inner, hinner⟩ h
    exact absurd (h _ hinner) (by simp)

lemma mem_fieldPaths {path inner : List Char} (h : .placeholder inner ∈ pieces path) :
    fieldPath inner ∈ fieldPaths path :=
  List.mem_filterMap.2 ⟨.placeholder inner, h, rfl⟩

/-- The template literal of a path whose placeholders have field paths. -/
theorem pathTemplate_eq {path : String}
    (h : ∀ field ∈ fieldPaths path.toList, isFieldPath field = true) :
    pathTemplate path = String.ofList (templateOf (pieces path.toList)) := by
  rw [pathTemplate, pieces_templateChars]
  exact fun inner hinner => fieldPath_templateChars (h _ (mem_fieldPaths hinner))

end TypedFetch.Http
