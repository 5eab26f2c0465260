import Mathlib.Data.List.Basic
import TypedFetch.Text.Search

/-!
# The front of a text

What is taken or dropped from the front of a text up to a character that stops it, and which words
stand at its front.
-/

namespace TypedFetch.Text

/-! ## Up to a character -/

lemma takeWhile_append_of_stop {p : Char → Bool} {front rest : List Char}
    (hfront : ∀ c ∈ front, p c = true) (hrest : ∀ c ∈ rest.head?, p c = false) :
    (front ++ rest).takeWhile p = front := by
  rw [List.takeWhile_append_of_pos hfront]
  cases rest with
  | nil => simp
  | cons c rest => simp [hrest c rfl]

lemma dropWhile_append_of_stop {p : Char → Bool} {front rest : List Char}
    (hfront : ∀ c ∈ front, p c = true) (hrest : ∀ c ∈ rest.head?, p c = false) :
    (front ++ rest).dropWhile p = rest := by
  rw [List.dropWhile_append_of_pos hfront]
  cases rest with
  | nil => simp
  | cons c rest => simp [hrest c rfl]

lemma dropWhile_append_of_neg {p : Char → Bool} {x : Char} (hx : p x = false)
    (cs rest : List Char) :
    (cs ++ x :: rest).dropWhile p = cs.dropWhile p ++ x :: rest := by
  rw [List.dropWhile_append]
  split
  · next hempty => rw [List.isEmpty_iff.1 hempty, List.dropWhile_cons_of_neg (by simp [hx])]; rfl
  · rfl

lemma takeWhile_append_of_neg {p : Char → Bool} {x : Char} (hx : p x = false)
    (cs rest : List Char) :
    (cs ++ x :: rest).takeWhile p = cs.takeWhile p := by
  rw [List.takeWhile_append]
  split
  · next hall =>
    rw [List.takeWhile_cons_of_neg (by simp [hx]), List.append_nil,
      (List.takeWhile_prefix p).eq_of_length hall]
  · rfl

lemma drop_length_takeWhile (p : Char → Bool) (cs : List Char) :
    cs.drop (cs.takeWhile p).length = cs.dropWhile p := by
  have hleft : (cs.takeWhile p ++ cs.dropWhile p).drop (cs.takeWhile p).length = cs.dropWhile p :=
    List.drop_left
  rwa [List.takeWhile_append_dropWhile] at hleft

/-! ## Words -/

lemma dropPrefix?_append (head rest : List Char) : dropPrefix? head (head ++ rest) = some rest := by
  simp [dropPrefix?]

lemma dropPrefix?_eq_some {head cs rest : List Char} (h : dropPrefix? head cs = some rest) :
    cs = head ++ rest := by
  rw [dropPrefix?] at h
  split at h
  · next hprefix =>
    obtain ⟨tail, rfl⟩ := List.isPrefixOf_iff_prefix.1 hprefix
    simpa using h
  · exact absurd h (by simp)

lemma dropPrefix?_eq_none {word cs : List Char} (h : ¬ word <+: cs) :
    dropPrefix? word cs = none := by
  rw [dropPrefix?, if_neg (by rwa [List.isPrefixOf_iff_prefix])]

end TypedFetch.Text
