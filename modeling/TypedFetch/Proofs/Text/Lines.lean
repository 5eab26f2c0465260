import Mathlib.Data.List.Basic
import Mathlib.Data.List.TakeWhile
import TypedFetch.Text.Lines

/-!
# The lines of a text

Only the empty text has no lines (`linesOf_eq_nil`), and no line holds a line boundary
(`not_isLineBoundary_of_mem_lines`).  Since line boundaries are blank, a comment of which nothing is
left when it is cleaned held nothing but blanks (`cleanComment_eq_none_iff`).
-/

namespace TypedFetch.Text

lemma linesFrom_eq_nil {current cs : List Char} :
    linesFrom current cs = [] ↔ current = [] ∧ cs = [] := by
  fun_induction linesFrom current cs <;> simp_all

lemma linesOf_eq_nil {s : String} : linesOf s = [] ↔ s = "" := by
  rw [linesOf, List.map_eq_nil_iff, lines, linesFrom_eq_nil]
  simp

/-- The characters of a line do not end it. -/
lemma not_isLineBoundary_of_mem_linesFrom {current cs line : List Char}
    (hcurrent : ∀ c ∈ current, isLineBoundary c = false) (hline : line ∈ linesFrom current cs) :
    ∀ c ∈ line, isLineBoundary c = false := by
  fun_induction linesFrom current cs with
  | case1 current hempty => simp at hline
  | case2 current hopen =>
    obtain rfl : line = current.reverse := by simpa using hline
    simpa using hcurrent
  | case3 current rest ih =>
    rcases List.mem_cons.1 hline with rfl | hline
    · simpa using hcurrent
    · exact ih (by simp) hline
  | case4 current c rest _ hboundary ih =>
    rcases List.mem_cons.1 hline with rfl | hline
    · simpa using hcurrent
    · exact ih (by simp) hline
  | case5 current c rest _ hboundary ih =>
    refine ih (fun d hd => ?_) hline
    rcases List.mem_cons.1 hd with rfl | hd
    · simpa using hboundary
    · exact hcurrent d hd

lemma not_isLineBoundary_of_mem_lines {cs line : List Char} (h : line ∈ lines cs) :
    ∀ c ∈ line, isLineBoundary c = false :=
  not_isLineBoundary_of_mem_linesFrom (by simp) h

/-! ## Blank lines -/

lemma isBlank_of_isLineBoundary {c : Char} (h : isLineBoundary c = true) : isBlank c = true := by
  simp only [isLineBoundary, isBlank, Bool.or_eq_true, Bool.and_eq_true, decide_eq_true_eq,
    beq_iff_eq] at h ⊢
  omega

/-- The lines hold all characters of a text but the boundaries, and no others. -/
lemma forall_mem_linesFrom_iff {p : Char → Prop} {current cs : List Char}
    (hboundary : ∀ c, isLineBoundary c = true → p c) :
    (∀ line ∈ linesFrom current cs, ∀ c ∈ line, p c) ↔
      (∀ c ∈ current, p c) ∧ ∀ c ∈ cs, p c := by
  fun_induction linesFrom current cs with
  | case1 current hempty => simp_all
  | case2 current hopen => simp
  | case3 current rest ih =>
    have hreturn := hboundary '\r' (by decide)
    have hfeed := hboundary '\n' (by decide)
    simp [ih, hreturn, hfeed]
  | case4 current c rest _ hc ih =>
    have hpc := hboundary c hc
    simp [ih, hpc]
  | case5 current c rest _ hc ih =>
    rw [ih, List.forall_mem_cons, List.forall_mem_cons]
    tauto

/-- What is dropped in front of a text passes the test. -/
lemma forall_mem_dropWhile_iff {p : Char → Bool} {cs : List Char} :
    (∀ c ∈ cs.dropWhile p, p c = true) ↔ ∀ c ∈ cs, p c = true := by
  induction cs with
  | nil => simp
  | cons c cs ih =>
    rw [List.dropWhile_cons]
    split
    · next hc => simp [ih, hc]
    · exact Iff.rfl

lemma isBlank_of_mem_trim_iff {cs : List Char} :
    (∀ c ∈ trim cs, isBlank c = true) ↔ ∀ c ∈ cs, isBlank c = true := by
  rw [trim, trimWhile, dropEndWhile]
  simp only [List.mem_reverse, forall_mem_dropWhile_iff]

/-- Nothing is left of a text without its blanks at the ends exactly if it holds nothing else. -/
lemma trim_eq_nil_iff {cs : List Char} : trim cs = [] ↔ ∀ c ∈ cs, isBlank c = true := by
  constructor
  · intro h
    rw [← isBlank_of_mem_trim_iff, h]
    simp
  · intro h
    have hdrop : cs.dropWhile isBlank = [] := List.dropWhile_eq_nil_iff.2 h
    rw [trim, trimWhile, hdrop]
    rfl

/-- Nothing is left of a comment exactly if it holds nothing but blanks. -/
lemma cleanComment_eq_none_iff {s : String} :
    cleanComment s = none ↔ isBlankText s.toList = true := by
  have hlines : (∀ line ∈ linesFrom [] (trim s.toList), ∀ c ∈ line, isBlank c = true) ↔ _ :=
    forall_mem_linesFrom_iff fun c hc => isBlank_of_isLineBoundary hc
  rw [isBlankText, List.all_eq_true]
  calc cleanComment s = none
      ↔ ∀ line ∈ lines (trim s.toList), trim line = [] := by
        simp only [cleanComment, List.isEmpty_iff, ite_eq_left_iff, reduceCtorEq, imp_false,
          not_not, List.filter_eq_nil_iff, List.forall_mem_map, Bool.not_eq_true]
        simp
    _ ↔ ∀ line ∈ lines (trim s.toList), ∀ c ∈ line, isBlank c = true := by
        simp only [trim_eq_nil_iff]
    _ ↔ ∀ c ∈ s.toList, isBlank c = true := by
        rw [lines, hlines, isBlank_of_mem_trim_iff]
        simp

end TypedFetch.Text
