import Mathlib.Data.List.Basic
import TypedFetch.Text.Search

/-!
# Texts cut at a character

The parts of a text that is cut at a separator have no separator in them, and they hold all other
characters of the text.  Cutting undoes joining.
-/

namespace TypedFetch.Text

lemma cutAt_ne_nil (sep : Char) (cs : List Char) : cutAt sep cs ≠ [] := by
  cases cs with
  | nil => simp [cutAt]
  | cons c cs =>
    rw [cutAt]
    split
    · simp
    · split <;> simp

@[simp] lemma cutAt_cons_self (sep : Char) (cs : List Char) :
    cutAt sep (sep :: cs) = [] :: cutAt sep cs :=
  if_pos (beq_self_eq_true sep)

/-- A character that is no separator goes to the first part. -/
lemma cutAt_cons_of_ne {sep c : Char} {cs first : List Char} {others : List (List Char)}
    (hc : c ≠ sep) (hcut : cutAt sep cs = first :: others) :
    cutAt sep (c :: cs) = (c :: first) :: others := by
  rw [cutAt, hcut, if_neg (by simpa using hc)]

/-- A character of a text is the separator or in one of the parts. -/
lemma mem_cutAt {sep c : Char} {cs : List Char} (h : c ∈ cs) :
    c = sep ∨ ∃ part ∈ cutAt sep cs, c ∈ part := by
  induction cs with
  | nil => exact absurd h (by simp)
  | cons d cs ih =>
    by_cases hd : d = sep
    · subst hd
      rcases List.mem_cons.1 h with rfl | h
      · exact Or.inl rfl
      · refine (ih h).imp_right ?_
        rintro ⟨part, hpart, hc⟩
        exact ⟨part, by simp [hpart], hc⟩
    · obtain ⟨first, others, hcut⟩ := List.exists_cons_of_ne_nil (cutAt_ne_nil sep cs)
      rw [cutAt_cons_of_ne hd hcut]
      rcases List.mem_cons.1 h with rfl | h
      · exact Or.inr ⟨c :: first, by simp, by simp⟩
      · rcases ih h with hc | ⟨part, hpart, hc⟩
        · exact Or.inl hc
        · rw [hcut] at hpart
          rcases List.mem_cons.1 hpart with rfl | hpart
          · exact Or.inr ⟨d :: part, by simp, by simp [hc]⟩
          · exact Or.inr ⟨part, by simp [hpart], hc⟩

lemma cutAt_of_not_mem {sep : Char} {x : List Char} (h : sep ∉ x) : cutAt sep x = [x] := by
  induction x with
  | nil => rfl
  | cons c x ih =>
    obtain ⟨hc, hx⟩ : sep ≠ c ∧ sep ∉ x := by simpa using h
    exact cutAt_cons_of_ne hc.symm (ih hx)

lemma cutAt_append {sep : Char} {x : List Char} (h : sep ∉ x) (rest : List Char) :
    cutAt sep (x ++ sep :: rest) = x :: cutAt sep rest := by
  induction x with
  | nil => exact cutAt_cons_self sep rest
  | cons c x ih =>
    obtain ⟨hc, hx⟩ : sep ≠ c ∧ sep ∉ x := by simpa using h
    exact cutAt_cons_of_ne hc.symm (ih hx)

/-- What stands before the first separator stays at the start of the first part. -/
lemma cutAt_append_of_not_mem {sep : Char} {x : List Char} (h : sep ∉ x) (ys : List Char) :
    ∃ first others, cutAt sep (x ++ ys) = (x ++ first) :: others := by
  induction x with
  | nil =>
    obtain ⟨first, others, hcut⟩ := List.exists_cons_of_ne_nil (cutAt_ne_nil sep ys)
    exact ⟨first, others, hcut⟩
  | cons c x ih =>
    obtain ⟨hc, hx⟩ : sep ≠ c ∧ sep ∉ x := by simpa using h
    obtain ⟨first, others, hcut⟩ := ih hx
    exact ⟨first, others, cutAt_cons_of_ne hc.symm hcut⟩

/-- Cutting undoes joining. -/
lemma cutAt_intercalate {sep : Char} {parts : List (List Char)} (hne : parts ≠ [])
    (h : ∀ x ∈ parts, sep ∉ x) : cutAt sep (List.intercalate [sep] parts) = parts := by
  induction parts with
  | nil => exact absurd rfl hne
  | cons x parts ih =>
    have hx := h x (by simp)
    cases parts with
    | nil => simpa [List.intercalate] using cutAt_of_not_mem hx
    | cons y parts =>
      have hrest := ih (by simp) fun z hz => h z (by simp [hz])
      have hjoin : List.intercalate [sep] (x :: y :: parts) =
          x ++ sep :: List.intercalate [sep] (y :: parts) := by
        simp [List.intercalate]
      rw [hjoin, cutAt_append hx, hrest]

/-- Joining undoes cutting. -/
lemma intercalate_cutAt (sep : Char) (cs : List Char) :
    List.intercalate [sep] (cutAt sep cs) = cs := by
  induction cs with
  | nil => rfl
  | cons c cs ih =>
    obtain ⟨first, others, hcut⟩ := List.exists_cons_of_ne_nil (cutAt_ne_nil sep cs)
    by_cases hc : c = sep
    · subst hc
      rw [cutAt_cons_self]
      rw [hcut] at ih ⊢
      rw [List.intercalate_cons_cons, ih, List.nil_append, List.singleton_append]
    · rw [cutAt_cons_of_ne hc hcut]
      rw [hcut] at ih
      cases others with
      | nil => simpa [List.intercalate] using ih
      | cons second others =>
        rw [List.intercalate_cons_cons] at ih
        rw [List.intercalate_cons_cons, List.cons_append, List.cons_append, ih]

/-- The parts have no separator in them. -/
lemma not_mem_of_mem_cutAt {sep : Char} {cs : List Char} :
    ∀ part ∈ cutAt sep cs, sep ∉ part := by
  induction cs with
  | nil => exact List.forall_mem_singleton.2 List.not_mem_nil
  | cons c cs ih =>
    by_cases hc : c = sep
    · subst hc
      simpa using ih
    · obtain ⟨first, others, hcut⟩ := List.exists_cons_of_ne_nil (cutAt_ne_nil sep cs)
      rw [hcut] at ih
      simpa [cutAt_cons_of_ne hc hcut, Ne.symm hc] using ih

/-- A text without separators that a longer text begins with stands before its first separator. -/
lemma isPrefix_of_append_cons {sep : Char} {part x rest : List Char} (hpart : sep ∉ part)
    (h : part <+: x ++ sep :: rest) : part <+: x := by
  obtain ⟨tail, htail⟩ := h
  rcases List.append_eq_append_iff.1 htail with ⟨middle, hx, -⟩ | ⟨middle, hsplit, hmiddle⟩
  · exact ⟨middle, hx.symm⟩
  · cases middle with
    | nil => exact ⟨[], by rw [hsplit, List.append_nil, List.append_nil]⟩
    | cons c middle =>
      obtain ⟨rfl, -⟩ := List.cons.inj hmiddle
      exact absurd (by simp [hsplit]) hpart

end TypedFetch.Text
