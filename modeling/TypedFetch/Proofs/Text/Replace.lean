import Mathlib.Data.List.Basic
import Mathlib.Data.List.Infix
import TypedFetch.Text.Search

/-!
# Texts with replaced parts

Equations for the replacement of every occurrence of a part: nothing is left of an occurrence at the
start of a text, and a character at which no occurrence starts stays (`replaceAll_append`,
`replaceAll_cons`).  A text is taken apart by the same steps (`replaceAll_induction`).

The places at which a part stands in a text are counted by `occurrences`; where there are none,
nothing is replaced.
-/

namespace TypedFetch.Text

/-! ## The search from left to right -/

lemma replaceFrom_nil (old new : List Char) (limit skip : Nat) :
    replaceFrom old new limit skip [] = [] := by
  cases limit <;> cases skip <;> rfl

lemma replaceFrom_succ (old new : List Char) (limit skip : Nat) (c : Char) (cs : List Char) :
    replaceFrom old new limit (skip + 1) (c :: cs) = replaceFrom old new limit skip cs := by
  cases limit <;> rfl

lemma replaceFrom_zero (old new : List Char) (limit : Nat) (c : Char) (cs : List Char) :
    replaceFrom old new (limit + 1) 0 (c :: cs) =
      if old.isPrefixOf (c :: cs) then new ++ replaceFrom old new limit (old.length - 1) cs
      else c :: replaceFrom old new (limit + 1) 0 cs :=
  rfl

/-- A limit that is not below the length of the text is no limit. -/
lemma replaceFrom_limit (old new : List Char) {cs : List Char} (skip : Nat) {limit limit' : Nat}
    (h : cs.length ≤ limit) (h' : cs.length ≤ limit') :
    replaceFrom old new limit skip cs = replaceFrom old new limit' skip cs := by
  induction cs generalizing skip limit limit' with
  | nil => rw [replaceFrom_nil, replaceFrom_nil]
  | cons c cs ih =>
    cases skip with
    | succ skip =>
      rw [replaceFrom_succ, replaceFrom_succ]
      exact ih skip (Nat.le_of_succ_le h) (Nat.le_of_succ_le h')
    | zero =>
      obtain ⟨limit, rfl⟩ := Nat.exists_eq_add_of_le' (Nat.le_of_add_left_le h)
      obtain ⟨limit', rfl⟩ := Nat.exists_eq_add_of_le' (Nat.le_of_add_left_le h')
      have hcs : cs.length ≤ limit := Nat.le_of_succ_le_succ h
      have hcs' : cs.length ≤ limit' := Nat.le_of_succ_le_succ h'
      rw [replaceFrom_zero, replaceFrom_zero, ih (old.length - 1) hcs hcs',
        ih 0 (Nat.le_succ_of_le hcs) (Nat.le_succ_of_le hcs')]

lemma replaceFrom_skip (old new : List Char) (limit : Nat) (front cs : List Char) :
    replaceFrom old new limit front.length (front ++ cs) = replaceFrom old new limit 0 cs := by
  induction front with
  | nil => rfl
  | cons c front ih => rw [List.length_cons, List.cons_append, replaceFrom_succ, ih]

section Equations

variable {old : List Char} (new : List Char)

@[simp] lemma replaceAll_nil : replaceAll old new [] = [] := rfl

/-- An occurrence at the start of the text is replaced. -/
lemma replaceAll_append (hold : old ≠ []) (cs : List Char) :
    replaceAll old new (old ++ cs) = new ++ replaceAll old new cs := by
  obtain ⟨c, front, rfl⟩ := List.exists_cons_of_ne_nil hold
  have hprefix : (c :: front).isPrefixOf (c :: (front ++ cs)) = true := by simp
  rw [replaceAll, List.cons_append, replaceFrom_zero, if_pos hprefix]
  have hskip := replaceFrom_skip (c :: front) new (c :: (front ++ cs)).length front cs
  simp only [List.length_cons, Nat.add_sub_cancel] at hskip ⊢
  rw [hskip, replaceAll]
  exact congrArg _ (replaceFrom_limit _ _ 0 (by simp; omega) (by omega))

/-- A character at which no occurrence starts stays. -/
lemma replaceAll_cons {c : Char} {cs : List Char} (h : ¬ old <+: c :: cs) :
    replaceAll old new (c :: cs) = c :: replaceAll old new cs := by
  have hprefix : old.isPrefixOf (c :: cs) = false := by
    simpa [List.isPrefixOf_iff_prefix, ← Bool.not_eq_true] using h
  have hlimit : replaceFrom old new ((c :: cs).length + 1) 0 cs = replaceAll old new cs :=
    replaceFrom_limit old new 0 (by simp; omega) (by omega)
  rw [replaceAll, replaceFrom_zero, hprefix, if_neg Bool.false_ne_true, ← hlimit]

end Equations

/-- Texts by the steps in which they are searched: an occurrence, or a character at which none
starts. -/
theorem replaceAll_induction {old : List Char} (hold : old ≠ []) {P : List Char → Prop}
    (nil : P []) (occurrence : ∀ cs, P cs → P (old ++ cs))
    (character : ∀ c cs, ¬ old <+: c :: cs → P cs → P (c :: cs)) (cs : List Char) : P cs := by
  induction hlength : cs.length using Nat.strong_induction_on generalizing cs with
  | _ n ih =>
    cases cs with
    | nil => exact nil
    | cons c cs =>
      by_cases h : old <+: c :: cs
      · obtain ⟨rest, hrest⟩ := h
        have hpos : 0 < old.length := List.length_pos_of_ne_nil hold
        have hsum : old.length + rest.length = n := by rw [← hlength, ← hrest, List.length_append]
        exact hrest ▸ occurrence rest (ih rest.length (by omega) rest rfl)
      · exact character c cs h (ih cs.length (by simp at hlength; omega) cs rfl)

/-! ## Consequences -/

/-- A character of the new text stood in the old one or in the part that is put in. -/
lemma mem_replaceAll {old new cs : List Char} (hold : old ≠ []) {c : Char}
    (h : c ∈ replaceAll old new cs) : c ∈ cs ∨ c ∈ new := by
  induction cs using replaceAll_induction hold with
  | nil => simp at h
  | occurrence cs ih =>
    rw [replaceAll_append new hold, List.mem_append] at h
    rcases h with h | h
    · exact Or.inr h
    · exact (ih h).imp_left fun h => List.mem_append_right old h
  | character d cs hnone ih =>
    rw [replaceAll_cons new hnone, List.mem_cons] at h
    rcases h with rfl | h
    · exact Or.inl List.mem_cons_self
    · exact (ih h).imp_left (List.mem_cons_of_mem d)

/-- A single character is replaced wherever it stands. -/
lemma replaceAll_singleton (c : Char) (new cs : List Char) :
    replaceAll [c] new cs = cs.flatMap fun d => if d = c then new else [d] := by
  induction cs using replaceAll_induction (List.cons_ne_nil c []) with
  | nil => rfl
  | occurrence cs ih =>
    rw [replaceAll_append new (List.cons_ne_nil c []), ih]
    simp
  | character d cs hnone ih =>
    have hd : d ≠ c := by
      rintro rfl
      exact hnone (by simp)
    simp [replaceAll_cons new hnone, ih, hd]

/-- Nothing changes where the new part is the old one. -/
lemma replaceAll_self {old : List Char} (hold : old ≠ []) (cs : List Char) :
    replaceAll old old cs = cs := by
  induction cs using replaceAll_induction hold with
  | nil => rfl
  | occurrence cs ih => rw [replaceAll_append old hold, ih]
  | character c cs hnone ih => rw [replaceAll_cons old hnone, ih]

/-! ## Counting occurrences -/

/-- The number of places at which a part stands in a text. -/
def occurrences (part : List Char) : List Char → Nat
  | [] => 0
  | c :: rest => (if part.isPrefixOf (c :: rest) then 1 else 0) + occurrences part rest

@[simp] lemma occurrences_nil (part : List Char) : occurrences part [] = 0 := rfl

lemma occurrences_cons {part cs : List Char} {c : Char} (h : ¬ part <+: c :: cs) :
    occurrences part (c :: cs) = occurrences part cs := by
  rw [occurrences, if_neg (by rwa [List.isPrefixOf_iff_prefix]), Nat.zero_add]

lemma occurrences_cons_of_isPrefix {part cs : List Char} {c : Char} (h : part <+: c :: cs) :
    occurrences part (c :: cs) = 1 + occurrences part cs := by
  rw [occurrences, if_pos (by rwa [List.isPrefixOf_iff_prefix])]

/-- An occurrence in one of two texts is one in the texts together. -/
lemma add_occurrences_le (part xs ys : List Char) :
    occurrences part xs + occurrences part ys ≤ occurrences part (xs ++ ys) := by
  induction xs with
  | nil => rw [occurrences_nil, Nat.zero_add, List.nil_append]
  | cons c xs ih =>
    rw [List.cons_append]
    by_cases hhere : part <+: c :: xs
    · have hthere : part <+: c :: (xs ++ ys) := hhere.trans (List.prefix_append (c :: xs) ys)
      rw [occurrences_cons_of_isPrefix hhere, occurrences_cons_of_isPrefix hthere]
      omega
    · rw [occurrences_cons hhere, occurrences]
      omega

lemma replaceAll_of_occurrences {old cs : List Char} (new : List Char)
    (h : occurrences old cs = 0) : replaceAll old new cs = cs := by
  induction cs with
  | nil => rfl
  | cons c cs ih =>
    by_cases hhere : old <+: c :: cs
    · rw [occurrences_cons_of_isPrefix hhere] at h
      omega
    · rw [occurrences_cons hhere] at h
      rw [replaceAll_cons new hhere, ih h]

end TypedFetch.Text
