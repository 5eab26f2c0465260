import Mathlib.Tactic.IntervalCases
import TypedFetch.Proofs.Http.PathTemplate
import TypedFetch.Proofs.Script.Scanner
import TypedFetch.Proofs.TypeScript.Quoting

/-!
# Literals that read back

A text written as a single-quoted literal is read as that text, whatever characters it has.  The
template literal of a path is read as its literal characters and one substitution for each
placeholder, if the path has no carriage return, which a template literal would read as a line feed.
-/

namespace TypedFetch.Script

open TypedFetch.TypeScript (literalChar literalChars literalChars_eq controlEscape)

/-! ## Single-quoted literals -/

/-- The escape of a control character is read as the character. -/
lemma scan_controlEscape (cs : List Char) {c : Char} (h : c.toNat < 32) :
    scan (.text cs) (controlEscape c) = some (.text (cs ++ [c]), []) := by
  have hall : ∀ n, n < 32 →
      scan (.text cs) (controlEscape (Char.ofNat n)) = some (.text (cs ++ [Char.ofNat n]), []) := by
    intro n hn
    -- some have escapes of their own and the others a character code
    interval_cases n <;> rfl
  simpa using hall c.toNat h

lemma scan_literalChar (cs : List Char) (c : Char) :
    scan (.text cs) (literalChar c) = some (.text (cs ++ [c]), []) := by
  by_cases hquote : c = '\\' ∨ c = '\''
  · rcases hquote with rfl | rfl <;> rfl
  · by_cases hcontrol : c.toNat < 32
    · have hchar : literalChar c = controlEscape c := by
        simp [literalChar, hquote, hcontrol]
      rw [hchar]
      exact scan_controlEscape cs hcontrol
    · have hchar : literalChar c = [c] := by simp [literalChar, hquote, hcontrol]
      have hline : ¬ (c = '\n' ∨ c = '\r') := by
        rintro (rfl | rfl) <;> exact absurd hcontrol (by decide)
      have hstep : step (.text cs) c = some (.text (cs ++ [c]), []) := by
        simp only [not_or] at hquote hline
        simp [step, hquote, hline]
      rw [hchar, scan_move hstep]
      rfl

/-- A single-quoted literal is read as the text that it was made from. -/
theorem scan_literalChars (cs : List Char) :
    scan .between (literalChars cs) = some (.between, [.text cs]) := by
  -- the characters that were read before are part of the state of the scanner
  have hbody : ∀ ds, scan (.text ds) (cs.flatMap literalChar) = some (.text (ds ++ cs), []) := by
    induction cs with
    | nil => simp
    | cons c cs ih =>
      intro ds
      have hrest := scan_append_eq (scan_literalChar ds c) (ih (ds ++ [c]))
      simpa using hrest
  have hopen : step .between '\'' = some (.text [], []) := rfl
  rw [literalChars_eq, List.cons_append, scan_move hopen, scan_append (hbody [])]
  rfl

/-! ## Template literals -/

open TypedFetch.Http (Piece pieces fieldPath accessChars isFieldPath substitution templateOf
  escapedLiteral startsOpen)

lemma isNameChar_of_isAlphanum {c : Char} (h : c.isAlphanum = true) : isNameChar c = true := by
  simp [isNameChar, h]

lemma isName_of_isPlainName {x : Name} (h : Naming.isPlainName x = true) : isName x = true := by
  cases x with
  | nil => exact absurd h (by simp [Naming.isPlainName])
  | cons c x =>
    obtain ⟨hc, hx⟩ : c.isLower = true ∧ ∀ d ∈ x, d.isAlphanum = true := by
      simpa [Naming.isPlainName] using h
    simp only [isName, isNameStart, Text.isAlpha_of_isLower hc, Bool.true_or, Bool.true_and,
      List.all_eq_true]
    exact fun d hd => isNameChar_of_isAlphanum (hx d hd)

lemma isAlphanum_of_isPlainName {x : Name} (h : Naming.isPlainName x = true) :
    ∀ c ∈ x, c.isAlphanum = true := by
  cases x with
  | nil => simp
  | cons c x =>
    obtain ⟨hc, hx⟩ : c.isLower = true ∧ ∀ d ∈ x, d.isAlphanum = true := by
      simpa [Naming.isPlainName] using h
    intro d hd
    rcases List.mem_cons.1 hd with rfl | hd
    · simp [Char.isAlphanum, Text.isAlpha_of_isLower hc]
    · exact hx d hd

section FieldPath

variable {field : List Char} (h : isFieldPath field = true)
include h

/-- The names of a field path in camel case are plain. -/
lemma isPlainName_of_isFieldPath :
    ∀ x ∈ (Text.cutAt '.' field).map Naming.camelChars, Naming.isPlainName x = true := by
  intro x hx
  obtain ⟨part, hpart, rfl⟩ := List.mem_map.1 hx
  exact Naming.isPlainName_camelChars (List.all_eq_true.1 h part hpart)

lemma not_mem_dot : ∀ x ∈ (Text.cutAt '.' field).map Naming.camelChars, '.' ∉ x := by
  intro x hx hdot
  have := isAlphanum_of_isPlainName (isPlainName_of_isFieldPath h x hx) '.' hdot
  exact absurd this (by decide)

/-- The names of the access of a field path. -/
lemma cutAt_accessChars :
    Text.cutAt '.' (accessChars field) = (Text.cutAt '.' field).map Naming.camelChars :=
  Text.cutAt_intercalate (by simpa using Text.cutAt_ne_nil '.' field) (not_mem_dot h)

lemma mem_accessChars : ∀ c ∈ accessChars field, isNameChar c = true ∨ c = '.' := by
  intro c hc
  have hcut : c = '.' ∨ ∃ part ∈ Text.cutAt '.' (accessChars field), c ∈ part :=
    Text.mem_cutAt hc
  rcases hcut with rfl | ⟨part, hpart, hc⟩
  · exact Or.inr rfl
  · rw [cutAt_accessChars h] at hpart
    exact Or.inl (isNameChar_of_isAlphanum
      (isAlphanum_of_isPlainName (isPlainName_of_isFieldPath h part hpart) c hc))

end FieldPath

/-- The variable that holds the request. -/
def requestName : Name := ['r', 'e', 'q', 'u', 'e', 's', 't']

/-- The part of a template literal that stands for a piece of a path. -/
def partOf : Piece → Part
  | .literal c => .char c
  | .placeholder inner =>
    .access (requestName :: Text.cutAt '.' (accessChars (fieldPath inner)))

lemma accessPath?_request {field : List Char} (h : isFieldPath field = true) :
    accessPath? (requestName ++ '.' :: accessChars field) =
      some (requestName :: Text.cutAt '.' (accessChars field)) := by
  have hcut : Text.cutAt '.' (requestName ++ '.' :: accessChars field) =
      requestName :: Text.cutAt '.' (accessChars field) := Text.cutAt_append (by decide) _
  have hall : (requestName :: Text.cutAt '.' (accessChars field)).all isName = true := by
    rw [cutAt_accessChars h, List.all_cons, List.all_eq_true.2 fun x hx =>
      isName_of_isPlainName (isPlainName_of_isFieldPath h x hx)]
    decide
  simp only [accessPath?, hcut, hall, if_true]

lemma scan_hole (ps : List Part) (cs : List Char) {ds : List Char}
    (h : ∀ c ∈ ds, isNameChar c = true ∨ c = '.') :
    scan (.hole ps cs) ds = some (.hole ps (cs ++ ds), []) := by
  induction ds generalizing cs with
  | nil => simp
  | cons d ds ih =>
    have hd := h d (by simp)
    have hclose : d ≠ '\x7d' := by
      rintro rfl
      exact absurd hd (by decide)
    have hpath : (isNameChar d || d == '.') = true := by simpa using hd
    have hstep : step (.hole ps cs) d = some (.hole ps (cs ++ [d]), []) := by
      simp [step, hclose, hpath]
    rw [scan_move hstep, ih _ fun c hc => h c (by simp [hc])]
    simp

/-- The substitution of a field path is read as an access to the request. -/
lemma scan_substitution (ps : List Part) {field : List Char} (h : isFieldPath field = true) :
    scan (.template ps) (substitution field) =
      some (.template (ps ++ [Part.access (requestName :: Text.cutAt '.' (accessChars field))]),
        []) := by
  have hopen : scan (.template ps) "$\x7brequest.".toList =
      some (.hole ps (requestName ++ ['.']), []) := rfl
  have hhole := scan_append_eq hopen (scan_hole ps _ (mem_accessChars h))
  have hclose : scan (.hole ps (requestName ++ ['.'] ++ accessChars field)) ['\x7d'] =
      some (.template (ps ++ [Part.access (requestName :: Text.cutAt '.' (accessChars field))]),
        []) := by
    have hpath : accessPath? (requestName ++ ['.'] ++ accessChars field) =
        some (requestName :: Text.cutAt '.' (accessChars field)) := by
      simpa using accessPath?_request h
    simp only [scan, step, hpath]
    rfl
  exact scan_append_eq hhole hclose

/-- After a dollar sign that opens no substitution the template literal goes on. -/
lemma scan_dollar (ps : List Part) {c : Char} (hc : c ≠ '\x7b') (cs : List Char) :
    scan (.dollar ps) (c :: cs) = scan (.template (ps ++ [Part.char '$'])) (c :: cs) := by
  have hstep : step (.dollar ps) c = step (.template (ps ++ [Part.char '$'])) c := by
    simp [step, hc]
  rw [scan, scan, hstep]

/-- The template literal of pieces that start with no brace starts with none. -/
lemma head_templateOf {ps : List Piece} (h : startsOpen ps = false) :
    ∃ c cs, templateOf ps ++ ['\x60'] = c :: cs ∧ c ≠ '\x7b' := by
  cases ps with
  | nil => exact ⟨'\x60', [], rfl, by decide⟩
  | cons p ps =>
    cases p with
    | literal c =>
      have hc : c ≠ '\x7b' := by simpa [startsOpen] using h
      rw [templateOf, escapedLiteral]
      split
      · exact ⟨'\\', _, rfl, by decide⟩
      · exact ⟨c, _, rfl, hc⟩
    | placeholder inner => exact absurd h (by simp [startsOpen])

lemma scan_escapedLiteral (qs : List Part) {c : Char} (hc : c ≠ '\r') (ps : List Piece) :
    scan (.template qs) (escapedLiteral c ps ++ (templateOf ps ++ ['\x60'])) =
      scan (.template (qs ++ [Part.char c])) (templateOf ps ++ ['\x60']) := by
  by_cases hescape : c = '\\' ∨ c = '\x60' ∨ (c = '$' ∧ startsOpen ps = true)
  · have hchars : escapedLiteral c ps = ['\\', c] := by
      rcases hescape with rfl | rfl | ⟨rfl, hopen⟩
      · rfl
      · rfl
      · simp [escapedLiteral, hopen]
    have hscan : scan (.template qs) ['\\', c] = some (.template (qs ++ [Part.char c]), []) := by
      rcases hescape with rfl | rfl | ⟨rfl, -⟩ <;> rfl
    rw [hchars, scan_append hscan, after_nil, Option.map_id, id]
  · simp only [not_or, not_and, Bool.not_eq_true] at hescape
    obtain ⟨hslash, hquote, hdollar⟩ := hescape
    have hchars : escapedLiteral c ps = [c] := by
      by_cases h : c = '$'
      · simp [escapedLiteral, h, hdollar h]
      · simp [escapedLiteral, h, hslash, hquote]
    rw [hchars, List.singleton_append]
    by_cases h : c = '$'
    · -- the dollar sign is held back until the next character shows that it opens nothing
      subst h
      have hstep : step (.template qs) '$' = some (.dollar qs, []) := rfl
      obtain ⟨d, ds, hhead, hd⟩ := head_templateOf (hdollar rfl)
      rw [scan_move hstep, hhead, scan_dollar qs hd]
    · have hstep : step (.template qs) c = some (.template (qs ++ [Part.char c]), []) := by
        simp [step, inTemplate, hslash, hquote, h, hc]
      rw [scan_move hstep]

/-- The template literal of a path is read as the parts of its pieces. -/
theorem scan_templateOf {ps : List Piece} (hcarriage : .literal '\r' ∉ ps)
    (hfields : ∀ inner, .placeholder inner ∈ ps → isFieldPath (fieldPath inner) = true) :
    scan .between ('\x60' :: templateOf ps ++ ['\x60']) =
      some (.between, [.template (ps.map partOf)]) := by
  -- as before, with the parts of the template that were read
  have hbody : ∀ qs : List Part, scan (.template qs) (templateOf ps ++ ['\x60']) =
      some (.between, [.template (qs ++ ps.map partOf)]) := by
    induction ps with
    | nil =>
      intro qs
      simp only [templateOf, List.map_nil, List.append_nil]
      rfl
    | cons p ps ih =>
      intro qs
      have ih := ih (fun h => hcarriage (by simp [h])) fun inner h => hfields inner (by simp [h])
      cases p with
      | literal c =>
        have hc : c ≠ '\r' := by
          rintro rfl
          exact hcarriage (by simp)
        rw [templateOf, List.append_assoc, scan_escapedLiteral qs hc, ih]
        simp [partOf]
      | placeholder inner =>
        rw [templateOf, List.append_assoc,
          scan_append (scan_substitution qs (hfields inner (by simp))), ih]
        simp [partOf]
  have hopen : step .between '\x60' = some (.template [], []) := rfl
  rw [List.cons_append, scan_move hopen, hbody []]
  rfl

end TypedFetch.Script
