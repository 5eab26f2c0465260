import Mathlib.Data.List.Flatten
import Mathlib.Tactic.IntervalCases
import TypedFetch.Proofs.Text.Replace
import TypedFetch.TypeScript.Literal

/-!
# Single-quoted literals, character by character

A literal is a JSON string that is rewritten twice: the escapes of double quotes are taken back, and
single quotes are escaped.  The main statement is `literalChars_eq`: the two passes change each
character on its own, so that no quote is ever paired with a backslash that belongs to another
character.
-/

namespace TypedFetch.TypeScript

open TypedFetch.Text

/-- One character of a single-quoted literal. -/
def literalChar (c : Char) : List Char :=
  if c == '\\' || c == '\'' then ['\\', c]
  else if c.toNat < 32 then controlEscape c
  else [c]

/-- What taking back the escapes of double quotes leaves of a character. -/
def bareChar (c : Char) : List Char :=
  if c == '"' then ['"'] else jsonChar c

/-- The escape of a control character is a backslash with letters and digits after it. -/
lemma controlEscape_eq {c : Char} (h : c.toNat < 32) :
    ∃ d ds, controlEscape c = '\\' :: d :: ds ∧ ∀ e ∈ d :: ds, e.isAlphanum = true := by
  have hall : ∀ n, n < 32 → ∃ d ds, controlEscape (Char.ofNat n) = '\\' :: d :: ds ∧
      (d :: ds).all Char.isAlphanum = true := by
    intro n hn
    interval_cases n <;> exact ⟨_, _, rfl, rfl⟩
  simpa only [Char.ofNat_toNat, List.all_eq_true] using hall c.toNat h

lemma ne_of_isAlphanum {c d : Char} (h : c.isAlphanum = true) (hd : d.isAlphanum = false) :
    c ≠ d := by
  rintro rfl
  simp [hd] at h

/-! ## The first pass -/

lemma head?_jsonChar (c : Char) (cs : List Char) : (jsonChar c ++ cs).head? ≠ some '"' := by
  by_cases hmark : c = '"' ∨ c = '\\'
  · simp [jsonChar, hmark]
  · by_cases hcontrol : c.toNat < 32
    · obtain ⟨d, ds, heq, -⟩ := controlEscape_eq hcontrol
      simp [jsonChar, hmark, hcontrol, heq]
    · simpa [jsonChar, hmark, hcontrol] using fun h => hmark (Or.inl h)

lemma head?_flatMap_jsonChar (cs : List Char) : (cs.flatMap jsonChar).head? ≠ some '"' := by
  cases cs with
  | nil => simp
  | cons c cs => exact head?_jsonChar c (cs.flatMap jsonChar)

section FirstPass

variable {rest : List Char}

/-- A character that is no backslash stays. -/
lemma replaceAll_quote_cons {c : Char} (h : c ≠ '\\') :
    replaceAll ['\\', '"'] ['"'] (c :: rest) = c :: replaceAll ['\\', '"'] ['"'] rest :=
  replaceAll_cons _ fun hprefix => h (List.cons_prefix_cons.1 hprefix).1.symm

/-- A backslash that no double quote follows stays. -/
lemma replaceAll_quote_backslash (h : rest.head? ≠ some '"') :
    replaceAll ['\\', '"'] ['"'] ('\\' :: rest) =
      '\\' :: replaceAll ['\\', '"'] ['"'] rest := by
  refine replaceAll_cons _ fun hprefix => h ?_
  obtain ⟨tail, rfl⟩ := (List.cons_prefix_cons.1 hprefix).2
  rfl

lemma replaceAll_quote_append {cs : List Char} (h : '\\' ∉ cs) :
    replaceAll ['\\', '"'] ['"'] (cs ++ rest) = cs ++ replaceAll ['\\', '"'] ['"'] rest := by
  induction cs with
  | nil => rfl
  | cons c cs ih =>
    have hc : c ≠ '\\' := by
      rintro rfl
      exact h List.mem_cons_self
    rw [List.cons_append, replaceAll_quote_cons hc, ih fun hcs => h (List.mem_cons_of_mem c hcs),
      List.cons_append]

/-- The escape of a character is rewritten on its own where the rest does not start with a double
quote. -/
lemma replaceAll_jsonChar (c : Char) (h : rest.head? ≠ some '"') :
    replaceAll ['\\', '"'] ['"'] (jsonChar c ++ rest) =
      bareChar c ++ replaceAll ['\\', '"'] ['"'] rest := by
  by_cases hquote : c = '"'
  · subst hquote
    exact replaceAll_append ['"'] (by decide) rest
  · have hbare : bareChar c = jsonChar c := by simp [bareChar, hquote]
    rw [hbare]
    by_cases hslash : c = '\\'
    · -- neither of the two backslashes stands before a double quote
      subst hslash
      have hfirst : ('\\' :: rest).head? ≠ some '"' := by simp
      change replaceAll _ _ ('\\' :: '\\' :: rest) = '\\' :: '\\' :: replaceAll _ _ rest
      rw [replaceAll_quote_backslash hfirst, replaceAll_quote_backslash h]
    · by_cases hcontrol : c.toNat < 32
      · obtain ⟨d, ds, heq, hplain⟩ := controlEscape_eq hcontrol
        have hjson : jsonChar c = '\\' :: d :: ds := by
          simp [jsonChar, hquote, hslash, hcontrol, heq]
        have hfirst : (d :: ds ++ rest).head? ≠ some '"' := by
          simpa using ne_of_isAlphanum (hplain d List.mem_cons_self) (by decide)
        have hrest : '\\' ∉ d :: ds := fun hmem =>
          ne_of_isAlphanum (hplain '\\' hmem) (by decide) rfl
        rw [hjson, List.cons_append, replaceAll_quote_backslash hfirst,
          replaceAll_quote_append hrest]
        rfl
      · have hjson : jsonChar c = [c] := by simp [jsonChar, hquote, hslash, hcontrol]
        rw [hjson]
        exact replaceAll_quote_cons hslash

end FirstPass

lemma replaceAll_flatMap_jsonChar (cs : List Char) :
    replaceAll ['\\', '"'] ['"'] (cs.flatMap jsonChar) = cs.flatMap bareChar := by
  induction cs with
  | nil => rfl
  | cons c cs ih =>
    rw [List.flatMap_cons, replaceAll_jsonChar c (head?_flatMap_jsonChar cs), ih, List.flatMap_cons]

/-! ## Both passes -/

lemma flatMap_bareChar (c : Char) :
    ((bareChar c).flatMap fun d => if d = '\'' then ['\\', '\''] else [d]) = literalChar c := by
  by_cases hmark : c = '"' ∨ c = '\\' ∨ c = '\''
  · rcases hmark with rfl | rfl | rfl <;> rfl
  · simp only [not_or] at hmark
    by_cases hcontrol : c.toNat < 32
    · obtain ⟨d, ds, heq, hplain⟩ := controlEscape_eq hcontrol
      have hkeep : ∀ e ∈ d :: ds, (if e = '\'' then ['\\', '\''] else [e]) = [e] :=
        fun e he => if_neg (ne_of_isAlphanum (hplain e he) (by decide))
      have hbare : bareChar c = '\\' :: d :: ds := by
        simp [bareChar, jsonChar, hmark, hcontrol, heq]
      have hliteral : literalChar c = '\\' :: d :: ds := by
        simp [literalChar, hmark, hcontrol, heq]
      rw [hbare, hliteral, List.flatMap_cons, List.flatMap_congr hkeep, List.flatMap_singleton']
      rfl
    · simp [bareChar, jsonChar, literalChar, hmark, hcontrol]

/-- A single-quoted literal holds its characters one after the other, each escaped on its own. -/
theorem literalChars_eq (cs : List Char) :
    literalChars cs = '\'' :: cs.flatMap literalChar ++ ['\''] := by
  have hbody : replaceAll ['\''] ['\\', '\''] (replaceAll ['\\', '"'] ['"'] (cs.flatMap jsonChar)) =
      cs.flatMap literalChar := by
    rw [replaceAll_flatMap_jsonChar, replaceAll_singleton, List.flatMap_assoc]
    exact List.flatMap_congr fun c _ => flatMap_bareChar c
  rw [literalChars, hbody]

end TypedFetch.TypeScript
