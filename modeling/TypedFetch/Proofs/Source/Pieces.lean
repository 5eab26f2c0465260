import TypedFetch.Proofs.Source.Deletion
import TypedFetch.Proofs.Source.Lexemes

/-!
# Pieces of a text

A text is cut at its first comma outside of brackets, comments and literals, and what follows the
comma is cut in the same way (`splitTopLevel_induction`).

The main statement is `splitTopLevel_exact`.  It holds of any text, however its brackets, comments
and literals are left.  The pieces hold no comma at which they would be cut again, although a search
in a piece alone no longer sees what follows it: no comment or literal is open where the search in
the text has stopped, so those that begin in a piece end in it (`scanFrom_front`).
-/

namespace TypedFetch.Proto.Source

/-! ## The search in a front part -/

/-- The characters that are passed over first are passed over. -/
lemma le_scanFrom (stop : Char) (depth : Int) (skip : Nat) (cs : List Char) :
    skip ≤ scanFrom stop depth skip cs ∨ scanFrom stop depth skip cs = cs.length := by
  induction cs generalizing skip with
  | nil => exact Or.inr (by cases skip <;> rfl)
  | cons c cs ih =>
    cases skip with
    | zero => exact Or.inl (Nat.zero_le _)
    | succ skip =>
      rw [scanFrom, List.length_cons]
      exact (ih skip).imp Nat.succ_le_succ (congrArg Nat.succ)

lemma scanFrom_le (stop : Char) (depth : Int) (skip : Nat) (cs : List Char) :
    scanFrom stop depth skip cs ≤ cs.length := by
  induction cs generalizing depth skip with
  | nil => cases skip <;> exact Nat.le_refl 0
  | cons c cs ih =>
    cases skip with
    | succ skip =>
      rw [scanFrom]
      exact Nat.succ_le_succ (ih depth skip)
    | zero =>
      rw [scanFrom]
      cases opaqueLength? (c :: cs) with
      | some n => exact Nat.succ_le_succ (ih depth (n - 1))
      | none =>
        simp only
        split
        · exact Nat.zero_le _
        · exact Nat.succ_le_succ (ih (depthAfter depth c) 0)

/-- A comment or literal that ends in a front part is the same there alone. -/
lemma opaqueLength?_front {c : Char} {front back : List Char} {n : Nat}
    (h : opaqueLength? (c :: (front ++ back)) = some n) (hn : n ≤ front.length + 1) :
    opaqueLength? (c :: front) = some n := by
  have hpos := opaqueLength?_pos h
  obtain ⟨whole, after, rfl, rfl⟩ :
      ∃ whole after, front = whole ++ after ∧ n = whole.length + 1 := by
    refine ⟨front.take (n - 1), front.drop (n - 1), (List.take_append_drop _ _).symm, ?_⟩
    rw [List.length_take]
    omega
  rw [List.append_assoc] at h
  refine opaqueLength?_local (fun hnil => (List.append_eq_nil_iff.1 hnil).1) (fun _ => ?_) h
  cases after with
  | nil => exact Or.inl rfl
  | cons d after => exact Or.inr rfl

/-- What begins no comment or literal begins none in a front part. -/
lemma opaqueLength?_front_none {c : Char} {front back : List Char}
    (h : opaqueLength? (c :: (front ++ back)) = none) : opaqueLength? (c :: front) = none := by
  rw [opaqueLength?_eq_none_iff, beginsComment_cons_iff] at h ⊢
  refine ⟨h.1, fun hcomment => h.2 ⟨hcomment.1, ?_⟩⟩
  cases front with
  | nil => exact absurd hcomment.2 (by simp)
  | cons d front => exact hcomment.2

/-- A search that ends behind a front part goes through that part alone.  The induction is on the
front part; the search is in the same state at each of its characters, with or without the rest. -/
lemma scanFrom_front {stop : Char} {depth : Int} {skip : Nat} {front back : List Char}
    (h : scanFrom stop depth skip (front ++ back) = front.length) :
    scanFrom stop depth skip front = front.length := by
  induction front generalizing depth skip with
  | nil => cases skip <;> rfl
  | cons c front ih =>
    cases skip with
    | succ skip =>
      rw [List.cons_append, scanFrom] at h
      rw [scanFrom, ih (Nat.succ.inj h), List.length_cons]
    | zero =>
      rw [List.cons_append, scanFrom] at h
      cases hwhole : opaqueLength? (c :: (front ++ back)) with
      | some n =>
        simp only [hwhole, List.length_cons, Nat.add_right_cancel_iff] at h
        -- a comment or literal ends with the front part, or the search would end later
        have hn : n ≤ front.length + 1 := by
          have hle := opaqueLength?_le hwhole
          have hskip := le_scanFrom stop depth (n - 1) (front ++ back)
          rw [h] at hskip
          omega
        rw [scanFrom, opaqueLength?_front hwhole hn]
        simp only [ih h, List.length_cons]
      | none =>
        simp only [hwhole] at h
        by_cases hstop : (depth == 0 && c == stop) = true
        · exact absurd h (by simp [hstop])
        · rw [if_neg hstop, List.length_cons] at h
          rw [scanFrom, opaqueLength?_front_none hwhole]
          simp only [if_neg hstop, ih (Nat.succ.inj h), List.length_cons]

/-! ## Cutting step by step -/

/-- A text with a delimiter outside of brackets, taken apart there. -/
lemma exists_of_scanTo_lt {stop : Char} {text : List Char} (h : scanTo stop text < text.length) :
    ∃ piece rest, text = piece ++ stop :: rest ∧ scanTo stop text = piece.length := by
  obtain ⟨rest, hrest⟩ := drop_scanFrom h
  refine ⟨text.take (scanTo stop text), rest, ?_, ?_⟩
  · rw [← hrest]
    exact (List.take_append_drop _ _).symm
  · rw [List.length_take]
    omega

/-- What holds of a last piece, and of a piece in front of a comma and other pieces if it holds of
these, holds of all pieces of a text. -/
theorem splitTopLevel_induction {P : List Char → List (List Char) → Prop}
    (hlast : ∀ piece, scanTo ',' piece = piece.length → P piece [piece])
    (hcut : ∀ piece rest, scanTo ',' (piece ++ ',' :: rest) = piece.length →
      P rest (splitTopLevel rest) → P (piece ++ ',' :: rest) (piece :: splitTopLevel rest))
    (text : List Char) : P text (splitTopLevel text) := by
  induction hlength : text.length using Nat.strong_induction_on generalizing text with
  | _ n ih =>
    subst hlength
    rcases (scanFrom_le ',' 0 0 text).lt_or_eq with hcomma | hend
    · obtain ⟨piece, rest, rfl, hscan⟩ := exists_of_scanTo_lt hcomma
      have hpieces : splitTopLevel (piece ++ ',' :: rest) = piece :: splitTopLevel rest := by
        rw [splitTopLevel_eq_scanTo, hscan, List.take_left, List.drop_left, piecesAfter]
      rw [hpieces]
      exact hcut piece rest hscan (ih rest.length (by simp; omega) rest rfl)
    · have hpieces : splitTopLevel text = [text] := by
        rw [splitTopLevel_eq_scanTo, scanTo, hend, List.take_length, List.drop_length, piecesAfter]
      rw [hpieces]
      exact hlast text hend

/-- No piece holds a comma at which it would be cut. -/
lemma scanTo_of_mem_splitTopLevel (text : List Char) :
    ∀ piece ∈ splitTopLevel text, scanTo ',' piece = piece.length := by
  refine splitTopLevel_induction
    (P := fun _ pieces => ∀ piece ∈ pieces, scanTo ',' piece = piece.length) ?_ ?_ text
  · intro piece hend
    simpa using hend
  · intro piece rest hcomma hrest
    exact List.forall_mem_cons.2 ⟨scanFrom_front hcomma, hrest⟩

/-- Each piece ends at the first comma at which what is left of the text is to be cut, the last
piece at its end. -/
lemma scanTo_of_suffix_splitTopLevel (text : List Char) :
    ∀ piece rest, piece :: rest <:+ splitTopLevel text →
      scanTo ',' ([','].intercalate (piece :: rest)) = piece.length := by
  refine splitTopLevel_induction (P := fun _ pieces => ∀ piece rest, piece :: rest <:+ pieces →
    scanTo ',' ([','].intercalate (piece :: rest)) = piece.length) ?_ ?_ text
  · intro last hend piece rest hsuffix
    rcases List.suffix_cons_iff.1 hsuffix with hwhole | hnone
    · obtain ⟨rfl, rfl⟩ := List.cons.inj hwhole
      simpa using hend
    · exact absurd hnone (by simp)
  · intro first others hcomma hothers piece rest hsuffix
    rcases List.suffix_cons_iff.1 hsuffix with hwhole | hlater
    · obtain ⟨rfl, rfl⟩ := List.cons.inj hwhole
      obtain ⟨next, pieces, hpieces⟩ := List.exists_cons_of_ne_nil (splitFrom_ne_nil 0 0 others)
      have hjoin : [','].intercalate (piece :: splitTopLevel others) = piece ++ ',' :: others := by
        have hrest := intercalate_splitTopLevel others
        rw [splitTopLevel, hpieces] at hrest ⊢
        rw [List.intercalate_cons_cons, hrest, List.append_assoc, List.singleton_append]
      rw [hjoin, hcomma]
    · exact hothers piece rest hlater

/-- **Cutting is exact.**  The pieces of any text, joined by commas, are the text.  In none of them
a comma is found at which it would be cut further; and each of them ends at the first comma at which
the rest of the text is to be cut, so nothing is cut at other commas. -/
theorem splitTopLevel_exact (text : List Char) :
    [','].intercalate (splitTopLevel text) = text ∧
    (∀ piece ∈ splitTopLevel text, scanTo ',' piece = piece.length) ∧
    ∀ piece rest, piece :: rest <:+ splitTopLevel text →
      scanTo ',' ([','].intercalate (piece :: rest)) = piece.length :=
  ⟨intercalate_splitTopLevel text, scanTo_of_mem_splitTopLevel text,
    scanTo_of_suffix_splitTopLevel text⟩

end TypedFetch.Proto.Source
