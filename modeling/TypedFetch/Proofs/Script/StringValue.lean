import TypedFetch.Proofs.Script.Scanner
import TypedFetch.Proofs.TypeScript.Quoting

/-!
# The value of a string literal

A script text is a sequence of 16-bit code units, and a literal is read by the rules of the
language, edition of 2019: line and paragraph separators may stand in a literal as they are,
character codes have two or four digits or stand in braces, a backslash before the end of a line
takes it away, and a digit other than a lone zero may not follow a backslash.

The main statement is `stringLiteral_faithful`.  The value is read by a machine that looks at one
character after the other (`read_append`), and one escaped character brings it back to where it was
(`read_literalChar`).
-/

namespace TypedFetch.Script

open TypedFetch.TypeScript (literalChar literalChars_eq controlEscape controlEscape_eq
  ne_of_isAlphanum stringLiteral)

/-! ## Code units -/

/-- The code units of a code point. -/
def unitsOf (n : Nat) : List Nat :=
  if n < 0x10000 then [n]
  else [0xD800 + (n - 0x10000) / 0x400, 0xDC00 + (n - 0x10000) % 0x400]

/-- The code units of a character. -/
def codeUnits (c : Char) : List Nat :=
  unitsOf c.toNat

/-- The code units of a text. -/
def textUnits (cs : List Char) : List Nat :=
  cs.flatMap codeUnits

/-! ## Reading a literal -/

/-- Where the reader of a literal stands. -/
inductive Place where
  /-- Among the characters of the literal. -/
  | body
  /-- After a backslash. -/
  | escape
  /-- After the escape of the character zero, which no digit may follow. -/
  | zero
  /-- After a backslash and a carriage return, which a line feed may follow. -/
  | carriage
  /-- In a character code, of which some digits are to come after the next one. -/
  | digits (left code : Nat)
  /-- After the letter of a code of four digits or in braces. -/
  | code
  /-- In a code in braces, of which some digits may have been read. -/
  | braced (code : Option Nat)
  /-- After the closing quote. -/
  | closed
deriving DecidableEq

/-- Reads a character of the literal. -/
def readBody (c : Char) : Option (Place × List Nat) :=
  if c == '\'' then some (.closed, [])
  else if c == '\\' then some (.escape, [])
  else if c == '\n' || c == '\r' then none
  else some (.body, codeUnits c)

/-- Reads the character after a backslash. -/
def readEscape (c : Char) : Option (Place × List Nat) :=
  match c with
  | 'b' => some (.body, [8])
  | 't' => some (.body, [9])
  | 'n' => some (.body, [10])
  | 'v' => some (.body, [11])
  | 'f' => some (.body, [12])
  | 'r' => some (.body, [13])
  | '0' => some (.zero, [0])
  | 'x' => some (.digits 1 0, [])
  | 'u' => some (.code, [])
  | '\r' => some (.carriage, [])
  | '\n' | '\u2028' | '\u2029' => some (.body, [])
  | _ => if c.isDigit then none else some (.body, codeUnits c)

/-- Reads a digit of a character code. -/
def readDigit (left code : Nat) (c : Char) : Option (Place × List Nat) :=
  (hexValue? c).map fun d =>
    match left with
    | 0 => (.body, [16 * code + d])
    | left + 1 => (.digits left (16 * code + d), [])

/-- Reads a digit of a code in braces, which is a code point, or the closing brace. -/
def readBraced (code : Option Nat) (c : Char) : Option (Place × List Nat) :=
  if c == '\x7d' then code.map fun n => (.body, unitsOf n)
  else
    (hexValue? c).bind fun d =>
      let n := 16 * code.getD 0 + d
      if n ≤ 0x10FFFF then some (.braced (some n), []) else none

/-- Reads a character. -/
def readChar : Place → Char → Option (Place × List Nat)
  | .body, c => readBody c
  | .escape, c => readEscape c
  | .zero, c => if c.isDigit then none else readBody c
  | .carriage, c => if c == '\n' then some (.body, []) else readBody c
  | .digits left code, c => readDigit left code c
  | .code, c => if c == '\x7b' then some (.braced none, []) else readDigit 3 0 c
  | .braced code, c => readBraced code c
  | .closed, _ => none

/-- Reads a text from a place on, with the code units that it stands for. -/
def read : Place → List Char → Option (Place × List Nat)
  | p, [] => some (p, [])
  | p, c :: cs => (readChar p c).bind fun r => (read r.1 cs).map fun t => (t.1, r.2 ++ t.2)

/-- The code units that a single-quoted literal stands for. -/
def literalValue? : List Char → Option (List Nat)
  | '\'' :: cs =>
    match read .body cs with
    | some (.closed, units) => some units
    | _ => none
  | _ => none

/-- Two parts of a literal, one after the other. -/
lemma read_append {p p₁ p₂ : Place} {cs ds : List Char} {units units' : List Nat}
    (h : read p cs = some (p₁, units)) (h' : read p₁ ds = some (p₂, units')) :
    read p (cs ++ ds) = some (p₂, units ++ units') := by
  induction cs generalizing p units with
  | nil =>
    obtain ⟨rfl, rfl⟩ : p = p₁ ∧ [] = units := by simpa [read] using h
    simpa using h'
  | cons c cs ih =>
    rw [read] at h
    obtain ⟨r, hr, hmap⟩ := Option.bind_eq_some_iff.1 h
    obtain ⟨t, ht, heq⟩ := Option.map_eq_some_iff.1 hmap
    obtain ⟨rfl, rfl⟩ : t.1 = p₁ ∧ r.2 ++ t.2 = units := by simpa using heq
    rw [List.cons_append, read, hr, Option.bind_some, ih ht, List.append_assoc]
    rfl

/-! ## The interior of a literal -/

/-- Characters that can stand between single quotes: no line feed and no carriage return, and a
quote only after a backslash. -/
inductive Interior : List Char → Prop
  | nil : Interior []
  | plain {c : Char} {cs : List Char} (hquote : c ≠ '\'') (hslash : c ≠ '\\') (hfeed : c ≠ '\n')
      (hreturn : c ≠ '\r') (h : Interior cs) : Interior (c :: cs)
  | escaped {c : Char} {cs : List Char} (hfeed : c ≠ '\n') (hreturn : c ≠ '\r')
      (h : Interior cs) : Interior ('\\' :: c :: cs)

lemma interior_of_isAlphanum {cs : List Char} (h : ∀ c ∈ cs, c.isAlphanum = true) :
    Interior cs := by
  induction cs with
  | nil => exact .nil
  | cons c cs ih =>
    have hc := h c List.mem_cons_self
    exact .plain (ne_of_isAlphanum hc (by decide)) (ne_of_isAlphanum hc (by decide))
      (ne_of_isAlphanum hc (by decide)) (ne_of_isAlphanum hc (by decide))
      (ih fun d hd => h d (List.mem_cons_of_mem c hd))

lemma Interior.append {cs ds : List Char} (h : Interior cs) (h' : Interior ds) :
    Interior (cs ++ ds) := by
  induction h with
  | nil => exact h'
  | plain hquote hslash hfeed hreturn _ ih => exact .plain hquote hslash hfeed hreturn ih
  | escaped hfeed hreturn _ ih => exact .escaped hfeed hreturn ih

/-! ## One character -/

/-- A character by the way it is written in a literal. -/
lemma literalChar_cases (c : Char) :
    (c = '\\' ∨ c = '\'') ∧ literalChar c = ['\\', c] ∨
      c.toNat < 32 ∧ literalChar c = controlEscape c ∨
      (c ≠ '\\' ∧ c ≠ '\'' ∧ 32 ≤ c.toNat) ∧ literalChar c = [c] := by
  by_cases hmark : c = '\\' ∨ c = '\''
  · exact Or.inl ⟨hmark, by simp [literalChar, hmark]⟩
  · by_cases hcontrol : c.toNat < 32
    · exact Or.inr (Or.inl ⟨hcontrol, by simp [literalChar, hmark, hcontrol]⟩)
    · rw [not_or] at hmark
      exact Or.inr (Or.inr ⟨⟨hmark.1, hmark.2, by omega⟩, by simp [literalChar, hmark, hcontrol]⟩)

lemma ne_of_le_toNat {c d : Char} (h : 32 ≤ c.toNat) (hd : d.toNat < 32) : c ≠ d := by
  rintro rfl
  omega

/-- A character as it is written in a literal is read as the character. -/
lemma read_literalChar (c : Char) : read .body (literalChar c) = some (.body, codeUnits c) := by
  rcases literalChar_cases c with ⟨rfl | rfl, heq⟩ | ⟨hcontrol, heq⟩ | ⟨⟨hslash, hquote, hle⟩, heq⟩
  · rfl
  · rfl
  · have hall : ∀ n, n < 32 →
        read .body (controlEscape (Char.ofNat n)) = some (.body, codeUnits (Char.ofNat n)) := by
      intro n hn
      -- five have a letter of their own and the others a code of four digits
      interval_cases n <;> rfl
    rw [heq]
    simpa using hall c.toNat hcontrol
  · have hfeed : c ≠ '\n' := ne_of_le_toNat hle (by decide)
    have hreturn : c ≠ '\r' := ne_of_le_toNat hle (by decide)
    simp [heq, read, readChar, readBody, hslash, hquote, hfeed, hreturn]

lemma interior_literalChar (c : Char) : Interior (literalChar c) := by
  rcases literalChar_cases c with ⟨rfl | rfl, heq⟩ | ⟨hcontrol, heq⟩ | ⟨⟨hslash, hquote, hle⟩, heq⟩
  · exact heq ▸ .escaped (by decide) (by decide) .nil
  · exact heq ▸ .escaped (by decide) (by decide) .nil
  · obtain ⟨d, ds, hescape, hplain⟩ := controlEscape_eq hcontrol
    have hd := hplain d List.mem_cons_self
    have hds : Interior ds :=
      interior_of_isAlphanum fun e he => hplain e (List.mem_cons_of_mem d he)
    rw [heq, hescape]
    exact .escaped (ne_of_isAlphanum hd (by decide)) (ne_of_isAlphanum hd (by decide)) hds
  · have hfeed : c ≠ '\n' := ne_of_le_toNat hle (by decide)
    have hreturn : c ≠ '\r' := ne_of_le_toNat hle (by decide)
    exact heq ▸ .plain hquote hslash hfeed hreturn .nil

/-! ## The code units of a text tell it apart -/

/-- The first code unit tells how many a character has, as no character is a surrogate. -/
lemma codeUnits_append_inj {c d : Char} {us vs : List Nat}
    (h : codeUnits c ++ us = codeUnits d ++ vs) : c = d ∧ us = vs := by
  have hc : c.toNat < 0xD800 ∨ 0xDFFF < c.toNat ∧ c.toNat < 0x110000 := c.valid
  have hd : d.toNat < 0xD800 ∨ 0xDFFF < d.toNat ∧ d.toNat < 0x110000 := d.valid
  have hnum : c.toNat = d.toNat ∧ us = vs := by
    unfold codeUnits unitsOf at h
    -- one unit against a pair would make one of the characters a surrogate
    split at h <;> split at h <;>
      simp only [List.cons_append, List.nil_append, List.cons.injEq] at h
    · exact h
    · omega
    · omega
    · exact ⟨by omega, h.2.2⟩
  exact ⟨Char.toNat_inj.1 hnum.1, hnum.2⟩

lemma codeUnits_ne_nil (c : Char) : codeUnits c ≠ [] := by
  unfold codeUnits unitsOf
  split <;> simp

/-- Texts with the same code units are the same. -/
theorem textUnits_injective : Function.Injective textUnits := by
  intro cs ds h
  induction cs generalizing ds with
  | nil =>
    cases ds with
    | nil => rfl
    | cons d ds => exact absurd h.symm (by simp [textUnits, codeUnits_ne_nil])
  | cons c cs ih =>
    cases ds with
    | nil => exact absurd h (by simp [textUnits, codeUnits_ne_nil])
    | cons d ds =>
      obtain ⟨rfl, hrest⟩ : c = d ∧ textUnits cs = textUnits ds :=
        codeUnits_append_inj (by simpa [textUnits] using h)
      rw [ih hrest]

/-! ## The whole literal -/

lemma read_flatMap_literalChar (cs : List Char) :
    read .body (cs.flatMap literalChar) = some (.body, textUnits cs) := by
  induction cs with
  | nil => rfl
  | cons c cs ih => exact read_append (read_literalChar c) ih

lemma interior_flatMap_literalChar (cs : List Char) : Interior (cs.flatMap literalChar) := by
  induction cs with
  | nil => exact .nil
  | cons c cs ih => exact (interior_literalChar c).append ih

lemma toList_stringLiteral (s : String) :
    (stringLiteral s).toList = '\'' :: s.toList.flatMap literalChar ++ ['\''] := by
  rw [stringLiteral, String.toList_ofList, literalChars_eq]

/-- A literal is read as the text that it was made from. -/
lemma literalValue?_stringLiteral (s : String) :
    literalValue? (stringLiteral s).toList = some (textUnits s.toList) := by
  have hclose : read .body ['\''] = some (.closed, []) := rfl
  rw [toList_stringLiteral, List.cons_append, literalValue?,
    read_append (read_flatMap_literalChar s.toList) hclose, List.append_nil]

/-- **Values of literals.**  The literal of a text stands between single quotes, has no line feed,
no carriage return and no bare quote between them, and its value is the text; so no two texts have
the same literal. -/
theorem stringLiteral_faithful (s : String) :
    (∃ body, (stringLiteral s).toList = '\'' :: body ++ ['\''] ∧ Interior body) ∧
      literalValue? (stringLiteral s).toList = some (textUnits s.toList) ∧
      ∀ t, stringLiteral t = stringLiteral s → t = s := by
  refine ⟨⟨s.toList.flatMap literalChar, toList_stringLiteral s,
    interior_flatMap_literalChar s.toList⟩, literalValue?_stringLiteral s, fun t ht => ?_⟩
  have hunits : some (textUnits t.toList) = some (textUnits s.toList) := by
    rw [← literalValue?_stringLiteral t, ht, literalValue?_stringLiteral s]
  exact String.toList_injective (textUnits_injective (Option.some.inj hunits))

example : stringLiteral "\\\"'" = "'\\\\\"\\''" := by decide

end TypedFetch.Script
