import Mathlib.Data.List.Infix
import TypedFetch.Proofs.Text.Lines
import TypedFetch.Proofs.Text.Replace
import TypedFetch.TypeScript.Declaration

/-!
# Text in comments

A documentation comment ends at the first end mark in it, and one line of it ends at the first line
boundary.  The lines of a description have neither (`isCommentText_docLines`): breaking up the end
marks makes no new one, as what is put in keeps the star away from the slash and starts like what it
replaces.  A comment of such lines ends at its own end mark only (`endsOnce_docComment`).
-/

namespace TypedFetch.TypeScript

open TypedFetch.Text

/-- The mark at which a documentation comment ends. -/
def endMark : List Char := ['*', '/']

/-- A text that leaves a comment open, and the line of the comment that it stands in. -/
structure IsCommentText (cs : List Char) : Prop where
  /-- The comment does not end in the text. -/
  noEnd : ¬ endMark <:+: cs
  /-- The line does not end in the text. -/
  oneLine : ∀ c ∈ cs, isLineBoundary c = false

instance (cs : List Char) : Decidable (IsCommentText cs) :=
  decidable_of_iff (¬ endMark <:+: cs ∧ (cs.all fun c => !isLineBoundary c) = true)
    ⟨fun h => ⟨h.1, by simpa using h.2⟩, fun h => ⟨h.noEnd, by simpa using h.oneLine⟩⟩

/-- The text of a comment ends at the first end mark in it: only a line feed is left. -/
def EndsOnce (comment : List Char) : Prop :=
  ∀ front back, comment = front ++ endMark ++ back → back = ['\n']

/-! ## Where an end mark stands -/

/-- A part without a character stands in front of the character or behind it. -/
lemma split_of_notMem {part front back xs ys : List Char} {c : Char} (hc : c ∉ part)
    (h : xs ++ c :: ys = front ++ part ++ back) :
    part <:+: xs ∨ ∃ zs, ys = zs ++ part ++ back := by
  -- the character stands behind the part, in it, which cannot be, or in front of it
  rcases List.append_eq_append_iff.1 h with ⟨zs, hfront, hback⟩ | ⟨zs, hxs, -⟩
  · cases zs with
    | nil => exact Or.inl ⟨front, [], by simpa using hfront⟩
    | cons d zs =>
      obtain ⟨rfl, rfl⟩ : c = d ∧ ys = zs ++ back := by simpa using hback
      rcases List.append_eq_append_iff.1 hfront with ⟨ws, -, rfl⟩ | ⟨ws, -, hws⟩
      · simp at hc
      · cases ws with
        | nil =>
          obtain rfl : c :: zs = part := hws
          simp at hc
        | cons d ws =>
          obtain ⟨-, rfl⟩ : c = d ∧ zs = ws ++ part := by simpa using hws
          exact Or.inr ⟨ws, rfl⟩
  · exact Or.inl ⟨front, zs, hxs.symm⟩

lemma infix_append_cons_iff {part xs ys : List Char} {c : Char} (hc : c ∉ part) :
    part <:+: xs ++ c :: ys ↔ part <:+: xs ∨ part <:+: ys := by
  constructor
  · rintro ⟨front, back, h⟩
    exact (split_of_notMem hc h.symm).imp_right fun ⟨zs, hys⟩ => ⟨zs, back, hys.symm⟩
  · rintro (h | h)
    · exact h.trans (List.prefix_append xs (c :: ys)).isInfix
    · exact h.trans ((List.suffix_cons c ys).trans (List.suffix_append xs (c :: ys))).isInfix

lemma not_endMark_infix_of_notMem {cs : List Char} (h : '/' ∉ cs) : ¬ endMark <:+: cs :=
  fun hmark => h (hmark.subset (by decide))

/-- An end mark does not start where no star is. -/
lemma endMark_infix_of_append {xs ys : List Char} (h : '*' ∉ xs) (hmark : endMark <:+: xs ++ ys) :
    endMark <:+: ys := by
  induction xs with
  | nil => exact hmark
  | cons x xs ih =>
    rw [List.mem_cons, not_or] at h
    rcases List.infix_cons_iff.1 hmark with hprefix | hrest
    · exact absurd (List.cons_prefix_cons.1 hprefix).1 h.1
    · exact ih h.2 hrest

namespace IsCommentText

lemma nil : IsCommentText [] := ⟨not_endMark_infix_of_notMem (by simp), by simp⟩

/-- A separator that is no part of an end mark divides a text into parts that can be checked on
their own. -/
lemma append_cons_iff {xs ys : List Char} {c : Char} (hc : c ∉ endMark)
    (hline : isLineBoundary c = false) :
    IsCommentText (xs ++ c :: ys) ↔ IsCommentText xs ∧ IsCommentText ys := by
  constructor
  · rintro ⟨hmark, hall⟩
    rw [infix_append_cons_iff hc, not_or] at hmark
    exact ⟨⟨hmark.1, fun d hd => hall d (List.mem_append_left _ hd)⟩,
      ⟨hmark.2, fun d hd => hall d (List.mem_append_right _ (List.mem_cons_of_mem c hd))⟩⟩
  · rintro ⟨hxs, hys⟩
    refine ⟨fun hmark => ?_, fun d hd => ?_⟩
    · rcases (infix_append_cons_iff hc).1 hmark with h | h
      · exact hxs.noEnd h
      · exact hys.noEnd h
    · rcases List.mem_append.1 hd with hd | hd
      · exact hxs.oneLine d hd
      · rcases List.mem_cons.1 hd with rfl | hd
        · exact hline
        · exact hys.oneLine d hd

end IsCommentText

/-! ## Lines of descriptions -/

/-- Breaking up the end marks of a text keeps its first character. -/
lemma head?_docLine (cs : List Char) : (docLine cs).head? = cs.head? := by
  rw [docLine]
  induction cs using replaceAll_induction (List.cons_ne_nil '*' ['/']) with
  | nil => rfl
  | occurrence cs _ => rw [replaceAll_append _ (List.cons_ne_nil '*' ['/'])]; rfl
  | character c cs hnone _ => rw [replaceAll_cons _ hnone]; rfl

/-- No end mark is left, and breaking up end marks makes no new one. -/
lemma not_endMark_infix_docLine (cs : List Char) : ¬ endMark <:+: docLine cs := by
  induction cs using replaceAll_induction (List.cons_ne_nil '*' ['/']) with
  | nil => exact not_endMark_infix_of_notMem (by simp [docLine])
  | occurrence cs ih =>
    have hchars : docLine (['*', '/'] ++ cs) = ['*'] ++ '\\' :: '/' :: docLine cs :=
      replaceAll_append _ (by decide) cs
    have hslash : ¬ endMark <+: '/' :: docLine cs := fun h => by
      simp [endMark] at h
    rw [hchars]
    intro hmark
    rcases (infix_append_cons_iff (by decide)).1 hmark with hstar | hrest
    · exact absurd hstar (by decide)
    · exact (List.infix_cons_iff.1 hrest).elim hslash ih
  | character c cs hnone ih =>
    have hchars : docLine (c :: cs) = c :: docLine cs := replaceAll_cons _ hnone
    rw [hchars, List.infix_cons_iff, not_or]
    refine ⟨fun hprefix => hnone ?_, ih⟩
    -- a slash behind the star would be the first character of the rest, now and before
    obtain ⟨rfl, rest, hrest⟩ := List.cons_prefix_cons.1 hprefix
    have hhead : cs.head? = some '/' := by rw [← head?_docLine, ← hrest]; rfl
    obtain ⟨tail, rfl⟩ : ∃ tail, cs = '/' :: tail := ⟨_, List.eq_cons_of_mem_head? hhead⟩
    exact ⟨tail, rfl⟩

/-- The lines of a description leave a comment open. -/
lemma isCommentText_docLines (description : Option String) :
    ∀ line ∈ docLines description, IsCommentText line.toList := by
  intro line hline
  obtain ⟨cs, hcs, rfl⟩ := List.mem_map.1 hline
  have hlines : cs ∈ lines (description.getD "").toList := (List.mem_filter.1 hcs).1
  rw [String.toList_ofList]
  refine ⟨not_endMark_infix_docLine cs, fun c hc => ?_⟩
  rcases mem_replaceAll (by decide) hc with hold | hnew
  · exact not_isLineBoundary_of_mem_lines hlines c hold
  · have hnone : IsCommentText ['*', '\\', '/'] := by decide
    exact hnone.oneLine c hnew

/-! ## Whole comments -/

/-- A line of a comment. -/
def commentLine (indent : List Char) (line : String) : List Char :=
  indent ++ [' ', '*'] ++ ' ' :: (line.toList ++ ['\n'])

section Comment

variable {indent : String} {lines : List String}

lemma toList_docComment (h : lines ≠ []) :
    (docComment indent lines).toList =
      indent.toList ++ ['/', '*', '*'] ++ '\n' ::
        (lines.flatMap (commentLine indent.toList) ++ indent.toList) ++
        ' ' :: (endMark ++ ['\n']) := by
  have hline : ∀ line : String,
      (indent ++ " * " ++ line ++ "\n").toList = commentLine indent.toList line := by
    simp [commentLine]
  have hjoin : (String.join (lines.map fun line => indent ++ " * " ++ line ++ "\n")).toList =
      lines.flatMap (commentLine indent.toList) := by
    simp only [String.toList_join, List.map_map, List.flatMap_def, Function.comp_def, hline]
  rw [docComment, if_neg (by simpa using h)]
  simp [hjoin, endMark]

variable (hindent : ∀ c ∈ indent.toList, c = ' ')
include hindent

/-- An end mark in front of further text stands in the text of the line. -/
lemma endMark_infix_of_commentLine {line : String} {rest : List Char}
    (h : endMark <:+: commentLine indent.toList line ++ rest) :
    endMark <:+: line.toList ∨ endMark <:+: rest := by
  have hslash : '/' ∉ indent.toList := fun hmem => absurd (hindent '/' hmem) (by decide)
  have hchars : commentLine indent.toList line ++ rest =
      indent.toList ++ [' ', '*'] ++ ' ' :: (line.toList ++ '\n' :: rest) := by
    simp [commentLine]
  rw [hchars] at h
  rcases (infix_append_cons_iff (by decide)).1 h with hstart | htext
  · exact absurd hstart (not_endMark_infix_of_notMem (by simpa using hslash))
  · exact (infix_append_cons_iff (by decide)).1 htext

variable (hlines : ∀ line ∈ lines, ¬ endMark <:+: line.toList)
include hlines

lemma not_endMark_infix_lines :
    ¬ endMark <:+: lines.flatMap (commentLine indent.toList) ++ indent.toList := by
  induction lines with
  | nil =>
    have hslash : '/' ∉ indent.toList := fun hmem => absurd (hindent '/' hmem) (by decide)
    exact not_endMark_infix_of_notMem (by simpa using hslash)
  | cons line lines ih =>
    rw [List.flatMap_cons, List.append_assoc]
    intro hmark
    rcases endMark_infix_of_commentLine hindent hmark with htext | hrest
    · exact hlines line List.mem_cons_self htext
    · exact ih (fun l hl => hlines l (List.mem_cons_of_mem line hl)) hrest

/-- A comment whose lines leave it open ends at its own end mark. -/
theorem endsOnce_docComment : EndsOnce (docComment indent lines).toList := by
  intro front back hsplit
  by_cases hempty : lines = []
  · simp [hempty, docComment, endMark] at hsplit
  · rw [toList_docComment hempty] at hsplit
    rcases split_of_notMem (by decide) hsplit with hbefore | ⟨zs, hrest⟩
    · have hstar : '*' ∉ indent.toList := fun hmem => absurd (hindent '*' hmem) (by decide)
      rcases (infix_append_cons_iff (by decide)).1 hbefore with hmark | hmark
      · exact absurd (endMark_infix_of_append hstar hmark) (by decide)
      · exact absurd hmark (not_endMark_infix_lines hindent hlines)
    · cases zs with
      | nil => exact (List.append_cancel_left hrest).symm
      | cons z zs =>
        obtain ⟨-, hmark⟩ : '*' = z ∧ ['/', '\n'] = zs ++ endMark ++ back := by
          simpa [endMark] using hrest
        have hstar : '*' ∈ ['/', '\n'] := by simp [hmark, endMark]
        exact absurd hstar (by decide)

end Comment

end TypedFetch.TypeScript
