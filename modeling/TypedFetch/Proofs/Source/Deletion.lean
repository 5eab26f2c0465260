import Mathlib.Algebra.Order.BigOperators.Group.List
import Mathlib.Algebra.Order.Group.Nat
import Mathlib.Data.List.Flatten
import TypedFetch.Proofs.Source.ExtensionName
import TypedFetch.Proofs.Source.NestedText

/-!
# Removal of options only deletes

The main statement is `stripOptions_onlyDeletes`.  It holds of any text, however its brackets,
string literals and comments are left: the segments of a text make the text again
(`flatMap_chars_segments`), and what is retained of a segment is part of it.  The one character that
removal can add is the closing bracket of an option list that the text never closes; such a list is
the last segment of its text (`segments_cases`).
-/

namespace TypedFetch.Proto.Source

open TypedFetch.Text
open scoped List

/-! ## Cutting and joining -/

lemma intercalate_consFirst (c : Char) (pieces : List (List Char)) :
    [','].intercalate (consFirst c pieces) = c :: [','].intercalate pieces := by
  rcases pieces with _ | ⟨piece, _ | ⟨next, pieces⟩⟩
  · rfl
  · rfl
  · simp [consFirst, List.intercalate_cons_cons]

lemma splitFrom_ne_nil (depth : Int) (skip : Nat) (cs : List Char) :
    splitFrom depth skip cs ≠ [] := by
  rw [splitFrom_eq_scanFrom]
  exact List.cons_ne_nil _ _

/-- The pieces between commas, joined by commas, are the text. -/
lemma intercalate_splitFrom (depth : Int) (skip : Nat) (cs : List Char) :
    [','].intercalate (splitFrom depth skip cs) = cs := by
  induction cs generalizing depth skip with
  | nil => simp [splitFrom]
  | cons c cs ih =>
    cases skip with
    | succ skip => rw [splitFrom, intercalate_consFirst, ih]
    | zero =>
      rw [splitFrom]
      cases opaqueLength? (c :: cs) with
      | some n => simp only [intercalate_consFirst, ih]
      | none =>
        by_cases hcomma : (depth == 0 && c == ',') = true
        · obtain ⟨rfl, rfl⟩ : depth = 0 ∧ c = ',' := by simpa using hcomma
          obtain ⟨piece, pieces, hpieces⟩ :=
            List.exists_cons_of_ne_nil (splitFrom_ne_nil 0 0 cs)
          have hrest := ih 0 0
          rw [hpieces] at hrest
          simp [hpieces, hrest, List.intercalate_cons_cons]
        · simp only [hcomma, Bool.false_eq_true, if_false, intercalate_consFirst, ih]

lemma intercalate_splitTopLevel (cs : List Char) :
    [','].intercalate (splitTopLevel cs) = cs :=
  intercalate_splitFrom 0 0 cs

/-- A joined list keeps the order of what is left of its pieces. -/
lemma sublist_intercalate {kept pieces : List (List Char)} (h : kept <+ pieces) :
    [','].intercalate kept <+ [','].intercalate pieces := by
  induction h with
  | slnil => exact List.Sublist.refl _
  | @cons kept pieces piece _ ih =>
    refine ih.trans ?_
    cases pieces with
    | nil => simp
    | cons next pieces =>
      rw [List.intercalate_cons_cons]
      exact List.sublist_append_right _ _
  | @cons_cons kept pieces piece hrest ih =>
    cases kept with
    | nil =>
      cases pieces with
      | nil => exact List.Sublist.refl _
      | cons next pieces => simp [List.intercalate_cons_cons, List.append_assoc]
    | cons first kept =>
      have hpieces : pieces ≠ [] := by
        rintro rfl
        simp at hrest
      obtain ⟨next, pieces, rfl⟩ := List.exists_cons_of_ne_nil hpieces
      rw [List.intercalate_cons_cons, List.intercalate_cons_cons]
      exact ih.append_left _

/-! ## Where the search for a delimiter ends -/

/-- The search ends at the delimiter or at the end of the text. -/
lemma drop_scanFrom {stop : Char} {depth : Int} {skip : Nat} {cs : List Char}
    (h : scanFrom stop depth skip cs < cs.length) :
    ∃ rest, cs.drop (scanFrom stop depth skip cs) = stop :: rest := by
  induction cs generalizing depth skip with
  | nil => simp at h
  | cons c cs ih =>
    cases skip with
    | succ skip =>
      rw [scanFrom] at h ⊢
      exact ih (by simpa using h)
    | zero =>
      rw [scanFrom] at h ⊢
      cases hlength : opaqueLength? (c :: cs) with
      | some n =>
        simp only [hlength] at h ⊢
        exact ih (by simpa using h)
      | none =>
        simp only [hlength] at h ⊢
        by_cases hstop : (depth == 0 && c == stop) = true
        · obtain ⟨rfl, rfl⟩ : depth = 0 ∧ c = stop := by simpa using hstop
          simp
        · simp only [hstop, Bool.false_eq_true, if_false] at h ⊢
          exact ih (by simpa using h)

/-! ## Segments make their text -/

/-- The text of a segment. -/
def Segment.chars : Segment → List Char
  | .text chars => chars
  | .statement _ chars => chars
  | .optionList items closed => bracketed items closed

/-- The segment is an option list without a closing bracket. -/
def Segment.isOpen : Segment → Bool
  | .optionList _ closed => !closed
  | _ => false

section SegmentAt

variable (before : Option Char) (c : Char) (rest : List Char)

/-- A segment takes at least one character. -/
lemma segmentAt_pos : 0 < (segmentAt before c rest).2 := by
  rw [segmentAt]
  cases hlength : opaqueLength? (c :: rest) with
  | some n => exact opaqueLength?_pos hlength
  | none =>
    simp only
    split
    · simp only
      split <;> omega
    · split
      · split <;> simp
      · simp

/-- A segment has the characters that it takes. -/
lemma chars_segmentAt :
    (segmentAt before c rest).1.chars = (c :: rest).take (segmentAt before c rest).2 := by
  rw [segmentAt]
  cases hlength : opaqueLength? (c :: rest) with
  | some n => rfl
  | none =>
    simp only
    split
    · next hbracket =>
      obtain rfl : c = '[' := by simpa using hbracket
      simp only [Segment.chars, bracketed, intercalate_splitTopLevel]
      by_cases hclosed : scanTo ']' rest < rest.length
      · obtain ⟨after, hafter⟩ := drop_scanFrom hclosed
        have htake : rest.take (scanTo ']' rest + 1) = rest.take (scanTo ']' rest) ++ [']'] := by
          rw [List.take_add_one, ← List.head?_drop]
          exact congrArg _ (congrArg _ (congrArg _ hafter))
        simp [hclosed, htake]
      · simp [hclosed]
    · split
      · split <;> simp [Segment.chars]
      · simp [Segment.chars]

/-- An open option list takes all of the text. -/
lemma segmentAt_open (h : (segmentAt before c rest).1.isOpen = true) :
    rest.length ≤ (segmentAt before c rest).2 - 1 := by
  rw [segmentAt] at h ⊢
  cases hlength : opaqueLength? (c :: rest) with
  | some n => simp [hlength, Segment.isOpen] at h
  | none =>
    simp only [hlength] at h ⊢
    split at h
    · next hbracket =>
      have hopen : ¬ scanTo ']' rest < rest.length := by simpa [Segment.isOpen] using h
      simp only [hbracket, if_true, hopen, if_false]
      omega
    · split at h
      · split at h <;> simp [Segment.isOpen] at h
      · simp [Segment.isOpen] at h

end SegmentAt

lemma segmentsFrom_zero (before : Option Char) (c : Char) (rest : List Char) :
    segmentsFrom before 0 (c :: rest) = (segmentAt before c rest).1 ::
      segmentsFrom (some c) ((segmentAt before c rest).2 - 1) rest := rfl

lemma flatMap_chars_segmentsFrom (before : Option Char) (skip : Nat) (cs : List Char) :
    (segmentsFrom before skip cs).flatMap Segment.chars = cs.drop skip := by
  induction cs generalizing before skip with
  | nil => simp [segmentsFrom]
  | cons c rest ih =>
    cases skip with
    | succ skip => exact ih (some c) skip
    | zero =>
      obtain ⟨n, hn⟩ := Nat.exists_eq_add_one.2 (segmentAt_pos before c rest)
      rw [segmentsFrom_zero, List.flatMap_cons, chars_segmentAt, ih, hn]
      simp

/-- The segments of a text, one after the other, are the text. -/
lemma flatMap_chars_segments (text : List Char) :
    (segments text).flatMap Segment.chars = text :=
  flatMap_chars_segmentsFrom none 0 text

lemma segmentsFrom_eq_nil (before : Option Char) {skip : Nat} {cs : List Char}
    (h : cs.length ≤ skip) : segmentsFrom before skip cs = [] := by
  induction cs generalizing before skip with
  | nil => simp [segmentsFrom]
  | cons c rest ih =>
    obtain ⟨m, rfl⟩ := Nat.exists_eq_add_one.2 (Nat.zero_lt_of_lt h)
    exact ih (some c) (by simpa using h)

/-- No option list is open but the last segment. -/
lemma segmentsFrom_cases (before : Option Char) (skip : Nat) (cs : List Char) :
    (∀ s ∈ segmentsFrom before skip cs, s.isOpen = false) ∨
      ∃ front last, segmentsFrom before skip cs = front ++ [last] ∧ last.isOpen = true ∧
        ∀ s ∈ front, s.isOpen = false := by
  induction cs generalizing before skip with
  | nil => simp [segmentsFrom]
  | cons c rest ih =>
    cases skip with
    | succ skip => exact ih (some c) skip
    | zero =>
      rw [segmentsFrom_zero]
      by_cases hopen : (segmentAt before c rest).1.isOpen = true
      · rw [segmentsFrom_eq_nil _ (segmentAt_open before c rest hopen)]
        exact Or.inr ⟨[], _, rfl, hopen, by simp⟩
      · simp only [Bool.not_eq_true] at hopen
        rcases ih (some c) ((segmentAt before c rest).2 - 1) with
          hclosed | ⟨front, last, hsplit, hlast, hclosed⟩
        · exact Or.inl (List.forall_mem_cons.2 ⟨hopen, hclosed⟩)
        · exact Or.inr ⟨_ :: front, last, by rw [hsplit, List.cons_append], hlast,
            List.forall_mem_cons.2 ⟨hopen, hclosed⟩⟩

lemma segments_cases (text : List Char) :
    (∀ s ∈ segments text, s.isOpen = false) ∨
      ∃ front last, segments text = front ++ [last] ∧ last.isOpen = true ∧
        ∀ s ∈ front, s.isOpen = false :=
  segmentsFrom_cases none 0 text

/-- An option list is left open at the end of the text. -/
def LeavesListOpen (text : List Char) : Prop :=
  (segments text).getLast?.any Segment.isOpen = true

instance (text : List Char) : Decidable (LeavesListOpen text) :=
  inferInstanceAs (Decidable (_ = _))

/-! ## What is retained of a segment -/

lemma retain_eq_chars {keep : List Char → Bool} {s : Segment}
    (h : ∀ name ∈ s.names, keep name = true) : s.retain keep = s.chars := by
  cases s with
  | text chars => rfl
  | statement name chars => simp [Segment.retain, Segment.chars, h name (by simp [Segment.names])]
  | optionList items closed =>
    have hkept : items.filter (keepsEntry keep) = items := by
      refine List.filter_eq_self.2 fun entry hentry => ?_
      rw [keepsEntry]
      cases hname : entryName? entry with
      | none => rfl
      | some name => exact h name (List.mem_filterMap.2 ⟨entry, hentry, hname⟩)
    simp [Segment.retain, Segment.chars, hkept]

/-- The bracket that closes an open option list. -/
def Segment.closing (s : Segment) : List Char :=
  if s.isOpen then [']'] else []

lemma chars_append_closing (items : List (List Char)) (closed : Bool) :
    (Segment.optionList items closed).chars ++ (Segment.optionList items closed).closing =
      bracketed items true := by
  cases closed <;> simp [Segment.chars, Segment.closing, Segment.isOpen, bracketed]

lemma bracketed_sublist {kept items : List (List Char)} (h : kept <+ items) :
    bracketed kept true <+ bracketed items true := by
  have hjoined := sublist_intercalate h
  exact (hjoined.cons_cons '[').append_right [']']

/-- What is retained of a segment is part of it, up to the bracket that closes an open list. -/
lemma retain_sublist (keep : List Char → Bool) (s : Segment) :
    s.retain keep <+ s.chars ++ s.closing := by
  cases s with
  | text chars => exact List.sublist_append_left _ _
  | statement name chars =>
    rw [Segment.retain]
    split
    · exact List.sublist_append_left _ _
    · exact List.nil_sublist _
  | optionList items closed =>
    have hkept : items.filter (keepsEntry keep) <+ items := List.filter_sublist
    simp only [Segment.retain]
    split
    · exact List.sublist_append_left _ _
    · split
      · exact List.nil_sublist _
      · rw [chars_append_closing]
        exact bracketed_sublist hkept

/-! ## What is missing -/

/-- The entry sets an extension that is rejected. -/
lemma keepsEntry_eq_false_iff {keep : List Char → Bool} {entry : List Char} :
    keepsEntry keep entry = false ↔ ∃ name, entryName? entry = some name ∧ keep name = false := by
  rw [keepsEntry]
  cases entryName? entry <;> simp

lemma ne_nil_of_entryName? {entry name : List Char} (h : entryName? entry = some name) :
    entry ≠ [] := by
  rintro rfl
  simp [entryName?, parenthesised?, dropPrefix?] at h

lemma length_intercalate (pieces : List (List Char)) :
    ([','].intercalate pieces).length = pieces.flatten.length + (pieces.length - 1) := by
  induction pieces with
  | nil => rfl
  | cons piece pieces ih =>
    cases pieces with
    | nil => simp
    | cons next pieces =>
      rw [List.intercalate_cons_cons]
      simp only [List.length_append, ih, List.flatten_cons, List.length_cons, List.length_nil]
      omega

/-- Without one of its entries a list is shorter by more than the bracket that may be added. -/
lemma length_bracketed_lt {keep : List Char → Bool} {items : List (List Char)} {entry : List Char}
    (hentry : entry ∈ items) (hdrop : keepsEntry keep entry = false)
    (hkept : items.filter (keepsEntry keep) ≠ []) (closed : Bool) :
    (bracketed (items.filter (keepsEntry keep)) true).length < (bracketed items closed).length := by
  obtain ⟨name, hname, -⟩ := keepsEntry_eq_false_iff.1 hdrop
  have hpos := List.length_pos_of_ne_nil (ne_nil_of_entryName? hname)
  have hkept := List.length_pos_of_ne_nil hkept
  obtain ⟨front, back, rfl⟩ := List.append_of_mem hentry
  have hfront : front.filter (keepsEntry keep) <+ front := List.filter_sublist
  have hback : back.filter (keepsEntry keep) <+ back := List.filter_sublist
  have hfrontLength := hfront.length_le
  have hbackLength := hback.length_le
  have hfrontFlat := hfront.flatten.length_le
  have hbackFlat := hback.flatten.length_le
  rw [List.filter_append, List.filter_cons_of_neg (by simp [hdrop])] at hkept ⊢
  simp only [bracketed, List.length_append, List.length_cons, List.length_nil, length_intercalate,
    List.flatten_append, List.flatten_cons, if_true] at hkept ⊢
  omega

/-- A segment that sets a rejected extension becomes shorter. -/
lemma length_retain_lt {keep : List Char → Bool} {s : Segment} {name : List Char}
    (hname : name ∈ s.names) (hkeep : keep name = false) (hne : s.chars ≠ []) :
    (s.retain keep).length < s.chars.length := by
  have hpos := List.length_pos_of_ne_nil hne
  cases s with
  | text chars => simp [Segment.names] at hname
  | statement other chars =>
    obtain rfl : name = other := by simpa [Segment.names] using hname
    simpa [Segment.retain, hkeep] using hpos
  | optionList items closed =>
    obtain ⟨entry, hentry, hentryName⟩ := List.mem_filterMap.1 hname
    have hdrop : keepsEntry keep entry = false :=
      keepsEntry_eq_false_iff.2 ⟨name, hentryName, hkeep⟩
    have hshorter : (items.filter (keepsEntry keep)).length < items.length :=
      List.length_filter_lt_length_iff_exists.2 ⟨entry, hentry, by simp [hdrop]⟩
    simp only [Segment.retain, beq_iff_eq, hshorter.ne, if_false, List.isEmpty_iff]
    split
    · exact hpos
    · next hkept => exact length_bracketed_lt hentry hdrop hkept closed

lemma chars_ne_nil_of_mem_segmentsFrom (before : Option Char) (skip : Nat) (cs : List Char) :
    ∀ s ∈ segmentsFrom before skip cs, s.chars ≠ [] := by
  induction cs generalizing before skip with
  | nil => simp [segmentsFrom]
  | cons c rest ih =>
    cases skip with
    | succ skip => exact ih (some c) skip
    | zero =>
      rw [segmentsFrom_zero]
      refine List.forall_mem_cons.2 ⟨?_, ih _ _⟩
      rw [chars_segmentAt]
      have := segmentAt_pos before c rest
      simp
      omega

lemma length_retain_le {keep : List Char → Bool} {s : Segment} (hne : s.chars ≠ []) :
    (s.retain keep).length ≤ s.chars.length := by
  by_cases hall : ∀ name ∈ s.names, keep name = true
  · rw [retain_eq_chars hall]
  · push Not at hall
    obtain ⟨name, hname, hkeep⟩ := hall
    exact (length_retain_lt hname (by simpa using hkeep) hne).le

/-! ## The text as a whole -/

/-- The text stays as it is exactly if no extension is rejected. -/
lemma stripOptions_eq_self_iff (keep : List Char → Bool) (text : List Char) :
    stripOptions keep text = text ↔ ∀ name ∈ optionNames text, keep name = true := by
  have hchars := flatMap_chars_segments text
  have hne : ∀ s ∈ segments text, s.chars ≠ [] := chars_ne_nil_of_mem_segmentsFrom none 0 text
  constructor
  · intro heq
    by_contra hall
    push Not at hall
    obtain ⟨name, hname, hkeep⟩ := hall
    obtain ⟨s, hs, hname⟩ := List.mem_flatMap.1 hname
    have hshorter : (stripOptions keep text).length < text.length := by
      conv_rhs => rw [← hchars]
      rw [stripOptions, List.length_flatMap, List.length_flatMap]
      exact List.sum_lt_sum _ _ (fun t ht => length_retain_le (hne t ht))
        ⟨s, hs, length_retain_lt hname (by simpa using hkeep) (hne s hs)⟩
    rw [heq] at hshorter
    exact hshorter.false
  · intro hall
    have hretain : ∀ s ∈ segments text, s.retain keep = s.chars := by
      intro s hs
      exact retain_eq_chars fun name hname => hall name (List.mem_flatMap.2 ⟨s, hs, hname⟩)
    rw [stripOptions, List.flatMap_congr hretain, hchars]

/-- Closed segments only lose characters. -/
lemma flatMap_retain_sublist {segments : List Segment} (h : ∀ s ∈ segments, s.isOpen = false)
    (keep : List Char → Bool) :
    segments.flatMap (Segment.retain keep) <+ segments.flatMap Segment.chars := by
  refine List.Sublist.flatMap_right segments fun s hs => ?_
  simpa [Segment.closing, h s hs] using retain_sublist keep s

/-- **Removal only deletes.**  Removal of options gives the text back exactly if it rejects no
extension that the text sets, and otherwise only deletes characters; if an option list is left open
at the end of the text, the list may get the bracket that closes it. -/
theorem stripOptions_onlyDeletes (keep : List Char → Bool) (text : List Char) :
    (stripOptions keep text = text ↔ ∀ name ∈ optionNames text, keep name = true) ∧
      stripOptions keep text <+ text ++ [']'] ∧
      (¬ LeavesListOpen text → stripOptions keep text <+ text) := by
  have hchars := flatMap_chars_segments text
  refine ⟨stripOptions_eq_self_iff keep text, ?_⟩
  rcases segments_cases text with hclosed | ⟨front, last, hsplit, hopen, hclosed⟩
  · have hsublist := flatMap_retain_sublist hclosed keep
    rw [hchars] at hsublist
    exact ⟨hsublist.trans (List.sublist_append_left _ _), fun _ => hsublist⟩
  · have hlist : LeavesListOpen text := by simp [LeavesListOpen, hsplit, hopen]
    refine ⟨?_, fun hnone => absurd hlist hnone⟩
    have hlast := retain_sublist keep last
    rw [Segment.closing, hopen, if_pos rfl] at hlast
    rw [hsplit, List.flatMap_append, List.flatMap_singleton] at hchars
    rw [stripOptions, hsplit, List.flatMap_append, List.flatMap_singleton, ← hchars,
      List.append_assoc]
    exact (flatMap_retain_sublist hclosed keep).append hlast

/-- A text with brackets, a string literal and a statement that do not end. -/
theorem stripOptions_onlyDeletes_unbalanced :
    let text := "\x7d[(a) = 1, b]) option (c) = \"".toList
    ¬ LeavesListOpen text ∧ stripOptions (fun _ => false) text = "\x7d[ b]) ".toList ∧
      stripOptions (fun _ => false) text <+ text := by
  have hopen : ¬ LeavesListOpen "\x7d[(a) = 1, b]) option (c) = \"".toList := by decide
  exact ⟨hopen, by decide, (stripOptions_onlyDeletes _ _).2.2 hopen⟩

example : stripOptions (· == ['a']) "[(a), (b)".toList = "[(a)]".toList := by decide

end TypedFetch.Proto.Source
