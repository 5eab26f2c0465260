import TypedFetch.Proofs.Source.ImportStatements

/-!
# Statements in comments

Import and package statements are found on the inner lines of a block comment as anywhere else.  The
main statement is `commented_declarations_iff`: of two texts that differ in the body of a block
comment only, the same imports are found exactly if the same are found on the inner lines of both
bodies, and the same package exactly if it is named before the comment, or the first name on the
inner lines of the body and on the lines behind the comment is the same.  A comment on one line
declares nothing (`declarations_of_oneLine`).

The readers do not look beyond the marks of the comment (`importAt?_mark`, `packageAt?_mark`), but
for a path that is not closed before the mark.  So the text before the comment, the body and the
text behind it are searched apart (`findAtLines_withComment`).
-/

namespace TypedFetch.Proto.Source

open TypedFetch.Text

/-! ## Marks of comments -/

/-- A character of the marks of a block comment. -/
def IsMark (x : Char) : Prop :=
  x = '/' ∨ x = '*'

section Mark

variable {x : Char} (hx : IsMark x) (cs y : List Char)
include hx

lemma IsMark.isBlank : isBlank x = false := by
  rcases hx with rfl | rfl <;> decide

lemma IsMark.isQuote : isQuote x = false := by
  rcases hx with rfl | rfl <;> decide

lemma IsMark.isPackageChar : isPackageChar x = false := by
  rcases hx with rfl | rfl <;> decide +kernel

lemma dropBlanks?_mark :
    dropBlanks? (cs ++ x :: y) = (dropBlanks? cs).map (· ++ x :: y) := by
  cases cs with
  | nil =>
    rw [List.nil_append, dropBlanks?, if_neg (by rw [hx.isBlank]; decide)]
    rfl
  | cons c cs =>
    rw [List.cons_append, dropBlanks?, dropBlanks?, dropWhile_append_of_neg hx.isBlank]
    split <;> rfl

lemma dropQuote?_mark : dropQuote? (cs ++ x :: y) = (dropQuote? cs).map (· ++ x :: y) := by
  cases cs with
  | nil =>
    rw [List.nil_append, dropQuote?, if_neg (by rw [hx.isQuote]; decide)]
    rfl
  | cons c cs =>
    rw [List.cons_append, dropQuote?, dropQuote?]
    split <;> rfl

lemma dropSemicolon?_mark :
    dropSemicolon? (cs ++ x :: y) = (dropSemicolon? cs).map (· ++ x :: y) := by
  have hsemicolon : x ≠ ';' := by
    rcases hx with rfl | rfl <;> decide
  rw [dropSemicolon?, dropSemicolon?, dropWhile_append_of_neg hx.isBlank]
  cases cs.dropWhile Text.isBlank with
  | nil => simp [hsemicolon]
  | cons c rest =>
    by_cases hc : c = ';'
    · rw [hc]
      rfl
    · simp [hc]

lemma dropModifier_mark : dropModifier (cs ++ x :: y) = dropModifier cs ++ x :: y := by
  have hpublic : x ∉ "public".toList := by
    rcases hx with rfl | rfl <;> decide
  have hweak : x ∉ "weak".toList := by
    rcases hx with rfl | rfl <;> decide
  rw [dropModifier, dropModifier, dropPrefix?_append_cons hpublic, dropPrefix?_append_cons hweak,
    ← Option.map_or]
  cases (dropPrefix? "public".toList cs).or (dropPrefix? "weak".toList cs) with
  | none => rfl
  | some rest =>
    simp only [Option.map_some, dropBlanks?_mark hx]
    cases dropBlanks? rest <;> rfl

lemma dropImportHead?_mark :
    dropImportHead? (cs ++ x :: y) = (dropImportHead? cs).map (· ++ x :: y) := by
  have hkeyword : x ∉ "import".toList := by
    rcases hx with rfl | rfl <;> decide
  rw [dropImportHead?, dropImportHead?, dropPrefix?_append_cons hkeyword]
  cases dropPrefix? "import".toList cs with
  | none => rfl
  | some afterKeyword =>
    simp only [Option.map_some, Option.bind_eq_bind, Option.bind_some, dropBlanks?_mark hx]
    cases dropBlanks? afterKeyword with
    | none => rfl
    | some afterGap =>
      simp only [Option.map_some, Option.bind_some, dropModifier_mark hx, dropQuote?_mark hx]

end Mark

/-! ## Readers in front of a mark -/

/-- The path that ends at the next quote, and what follows the statement. -/
def pathAt? (cs : List Char) : Option (List Char × List Char) :=
  if (cs.takeWhile fun c => !isQuote c).isEmpty then none
  else ((dropQuote? (cs.dropWhile fun c => !isQuote c)).bind dropSemicolon?).map
    fun rest => (cs.takeWhile fun c => !isQuote c, rest)

lemma importAt?_eq_bind (cs : List Char) :
    importAt? cs = (dropImportHead? (cs.dropWhile isBlank)).bind pathAt? := by
  rw [importAt?]
  cases dropImportHead? (cs.dropWhile isBlank) with
  | none => rfl
  | some rest =>
    simp only [Option.bind_eq_bind, Option.bind_some, pathAt?, drop_length_takeWhile]
    split
    · rfl
    · cases dropQuote? (rest.dropWhile fun c => !isQuote c) with
      | none => rfl
      | some afterQuote =>
        rw [Option.bind_some, Option.bind_some]
        cases dropSemicolon? afterQuote <;> rfl

/-- An import statement begins here whose path is not closed. -/
def leavesPathOpen (cs : List Char) : Bool :=
  ((dropImportHead? (cs.dropWhile isBlank)).map fun rest => rest.all fun c => !isQuote c).getD false

/-- No path is open at the end of the text, whichever line it begins on. -/
def PathsClosed (start : Bool) (text : List Char) : Prop :=
  ∀ before here, text = before ++ here → startsLine start before = true →
    leavesPathOpen here = false

instance (start : Bool) (text : List Char) : Decidable (PathsClosed start text) :=
  decidable_of_iff' _ (forall_lines_iff (P := fun _ here => leavesPathOpen here = false) start text)

lemma pathsClosed_of_oneLine {text : List Char} (h : '\n' ∉ text) : PathsClosed false text := by
  intro before here hsplit hstart
  rw [startsLine_inside h hsplit] at hstart
  exact absurd hstart (by decide)

section Readers

variable {x : Char} (hx : IsMark x) {cs : List Char} (y : List Char)
include hx

/-- A path that is closed in front of a mark is read so without it. -/
lemma pathAt?_mark {c : Char} (hc : c ∈ cs) (hquote : isQuote c = true) :
    pathAt? (cs ++ x :: y) = (pathAt? cs).map fun found => (found.1, found.2 ++ x :: y) := by
  have hclosed : (cs.dropWhile fun c => !isQuote c) ≠ [] := by
    rw [Ne, List.dropWhile_eq_nil_iff]
    intro h
    simpa [hquote] using h c hc
  have hsplit := List.takeWhile_append_dropWhile (p := fun c => !isQuote c) (l := cs)
  have htake : ((cs ++ x :: y).takeWhile fun c => !isQuote c) =
      cs.takeWhile fun c => !isQuote c := by
    rw [List.takeWhile_append, if_neg]
    intro hlength
    have hsum := congrArg List.length hsplit
    rw [List.length_append, hlength] at hsum
    exact hclosed (List.eq_nil_of_length_eq_zero (by omega))
  have hdrop : ((cs ++ x :: y).dropWhile fun c => !isQuote c) =
      (cs.dropWhile fun c => !isQuote c) ++ x :: y := by
    rw [List.dropWhile_append, if_neg (by rwa [List.isEmpty_iff])]
  rw [pathAt?, pathAt?, htake, hdrop, dropQuote?_mark hx]
  split
  · rfl
  · cases dropQuote? (cs.dropWhile fun c => !isQuote c) with
    | none => rfl
    | some afterQuote =>
      rw [Option.map_some, Option.bind_some, Option.bind_some, dropSemicolon?_mark hx,
        Option.map_map, Option.map_map]
      rfl

/-- What is read as an import statement in front of a mark is read so without it, unless the mark
stands in its path. -/
lemma importAt?_mark (h : leavesPathOpen cs = false) :
    importAt? (cs ++ x :: y) =
      (importAt? cs).map fun found => (found.1, found.2 ++ x :: y) := by
  rw [leavesPathOpen] at h
  rw [importAt?_eq_bind, importAt?_eq_bind, dropWhile_append_of_neg hx.isBlank,
    dropImportHead?_mark hx]
  cases hhead : dropImportHead? (cs.dropWhile isBlank) with
  | none => rfl
  | some rest =>
    rw [hhead, Option.map_some, Option.getD_some, List.all_eq_false] at h
    obtain ⟨c, hc, hquote⟩ := h
    exact pathAt?_mark hx y hc (by simpa using hquote)

/-- No package statement reaches over a mark. -/
lemma packageAt?_mark :
    packageAt? (cs ++ x :: y) =
      (packageAt? cs).map fun found => (found.1, found.2 ++ x :: y) := by
  have hkeyword : x ∉ "package".toList := by
    rcases hx with rfl | rfl <;> decide
  rw [packageAt?, packageAt?, dropWhile_append_of_neg hx.isBlank, dropPrefix?_append_cons hkeyword]
  cases dropPrefix? "package".toList (cs.dropWhile isBlank) with
  | none => rfl
  | some afterKeyword =>
    simp only [Option.map_some, Option.bind_eq_bind, Option.bind_some, dropBlanks?_mark hx]
    cases dropBlanks? afterKeyword with
    | none => rfl
    | some afterGap =>
      simp only [Option.map_some, Option.bind_some, drop_length_takeWhile,
        takeWhile_append_of_neg hx.isPackageChar, dropWhile_append_of_neg hx.isPackageChar]
      split
      · rfl
      · rw [dropSemicolon?_mark hx]
        cases dropSemicolon? (afterGap.dropWhile isPackageChar) <;> rfl

end Readers

/-! ## Texts with a comment -/

/-- A block comment between two texts. -/
def withComment (before body after : List Char) : List Char :=
  before ++ ('/' :: '*' :: (body ++ '*' :: '/' :: after))

section Search

variable {find? : List Char → Option (List Char × List Char)}

/-- The search goes on at a mark where the readers do not look beyond it.  The induction is on the
text in front of the mark. -/
lemma findAtLines_append_of_local {start : Bool} {front back : List Char}
    (h : ∀ before here, front = before ++ here → startsLine start before = true → here ≠ [] →
      find? (here ++ back) = (find? here).map fun found => (found.1, found.2 ++ back))
    {skip : Nat} (hskip : skip ≤ front.length) :
    findAtLines find? start skip (front ++ back) =
      findAtLines find? start skip front ++ findAtLines find? (startsLine start front) 0 back := by
  induction front generalizing start skip with
  | nil =>
    obtain rfl : skip = 0 := Nat.le_zero.1 hskip
    rfl
  | cons c front ih =>
    have hrest : ∀ before here, front = before ++ here → startsLine (c == '\n') before = true →
        here ≠ [] →
          find? (here ++ back) = (find? here).map fun found => (found.1, found.2 ++ back) :=
      fun before here hsplit hstart hne =>
        h (c :: before) here (by rw [hsplit, List.cons_append]) hstart hne
    cases skip with
    | succ skip => exact ih hrest (Nat.le_of_succ_le_succ hskip)
    | zero =>
      cases start with
      | false => exact ih hrest (Nat.zero_le _)
      | true =>
        have hhere := h [] (c :: front) rfl rfl (List.cons_ne_nil _ _)
        rw [List.cons_append] at hhere
        rw [List.cons_append, findAtLines, findAtLines, hhere]
        cases find? (c :: front) with
        | none => exact ih hrest (Nat.zero_le _)
        | some found =>
          obtain ⟨name, behind⟩ := found
          have hlength : (front ++ back).length - (behind ++ back).length =
              front.length - behind.length := by
            rw [List.length_append, List.length_append]
            omega
          simp only [Option.map_some, hlength, ih hrest (Nat.sub_le _ _), startsLine_cons,
            List.cons_append]

/-- What is found in front of a mark is found so without it, on every line of the text. -/
def StopsAtMarks (find? : List Char → Option (List Char × List Char)) (start : Bool)
    (text : List Char) : Prop :=
  ∀ before here, text = before ++ here → startsLine start before = true → ∀ x, IsMark x → ∀ y,
    find? (here ++ x :: y) = (find? here).map fun found => (found.1, found.2 ++ x :: y)

/-- The text before a comment, its body and the text behind it are searched apart. -/
lemma findAtLines_withComment {before body : List Char}
    (hmark : ∀ x, IsMark x → ∀ y, find? (x :: y) = none)
    (hbefore : StopsAtMarks find? true before) (hbody : StopsAtMarks find? false body)
    (after : List Char) :
    findAtLines find? true 0 (withComment before body after) =
      findAtLines find? true 0 before ++
        (findAtLines find? false 0 body ++ findAtLines find? false 0 after) := by
  have hslash : IsMark '/' := Or.inl rfl
  have hstar : IsMark '*' := Or.inr rfl
  -- nothing begins at a mark, and no line begins behind one
  have hfirst : ∀ start x, IsMark x → ∀ y, findAtLines find? start 0 (x :: y) =
      findAtLines find? false 0 y := by
    intro start x hx y
    have hnewline : (x == '\n') = false := by
      rcases hx with rfl | rfl <;> decide
    cases start with
    | false => rw [findAtLines, hnewline]
    | true => rw [findAtLines, hmark x hx, hnewline]
  have hbodyAfter : findAtLines find? false 0 (body ++ '*' :: '/' :: after) =
      findAtLines find? false 0 body ++ findAtLines find? false 0 after := by
    rw [findAtLines_append_of_local (fun before here hsplit hstart _ =>
      hbody before here hsplit hstart '*' hstar _) (Nat.zero_le _), hfirst _ _ hstar,
      hfirst _ _ hslash]
  rw [withComment, findAtLines_append_of_local (fun front here hsplit hstart _ =>
    hbefore front here hsplit hstart '/' hslash _) (Nat.zero_le _), hfirst _ _ hslash,
    hfirst _ _ hstar, hbodyAfter]

end Search

lemma stopsAtMarks_importAt? {start : Bool} {text : List Char} (h : PathsClosed start text) :
    StopsAtMarks importAt? start text :=
  fun before here hsplit hstart _ hx y => importAt?_mark hx y (h before here hsplit hstart)

lemma stopsAtMarks_packageAt? (start : Bool) (text : List Char) :
    StopsAtMarks packageAt? start text :=
  fun _ _ _ _ _ hx y => packageAt?_mark hx y

/-- Where no path is left open, the imports are those before the comment, those on the inner lines
of its body and those on the lines behind it. -/
lemma importChars_withComment {before body : List Char} (hbefore : PathsClosed true before)
    (hbody : PathsClosed false body) (after : List Char) :
    importChars (withComment before body after) = importChars before ++
      (findAtLines importAt? false 0 body ++ findAtLines importAt? false 0 after) := by
  have hmark : ∀ x, IsMark x → ∀ y, importAt? ([] ++ x :: y) = none := fun _ hx y =>
    importAt?_mark hx y rfl
  exact findAtLines_withComment hmark (stopsAtMarks_importAt? hbefore)
    (stopsAtMarks_importAt? hbody)
    after

/-! ## Packages -/

/-- The names in the package statements of a text; `start` tells whether it begins on a new line. -/
def packageNames (start : Bool) (text : List Char) : List (List Char) :=
  findAtLines packageAt? start 0 text

lemma packageNames_withComment (before body after : List Char) :
    packageNames true (withComment before body after) =
      packageNames true before ++ (packageNames false body ++ packageNames false after) := by
  have hmark : ∀ x, IsMark x → ∀ y, packageAt? ([] ++ x :: y) = none := fun _ hx y =>
    packageAt?_mark hx y
  exact findAtLines_withComment hmark (stopsAtMarks_packageAt? true before)
    (stopsAtMarks_packageAt? false body) after

lemma packageAt?_ne_nil {cs name rest : List Char} (h : packageAt? cs = some (name, rest)) :
    name ≠ [] := by
  obtain ⟨afterKeyword, -, h⟩ := Option.bind_eq_some_iff.1 h
  obtain ⟨afterGap, -, h⟩ := Option.bind_eq_some_iff.1 h
  simp only at h
  split at h
  · exact absurd h (by simp)
  · next hne =>
    obtain ⟨-, -, h⟩ := Option.bind_eq_some_iff.1 h
    obtain ⟨after, -, h⟩ := Option.bind_eq_some_iff.1 h
    obtain ⟨rfl, -⟩ : afterGap.takeWhile isPackageChar = name ∧ after = rest := by simpa using h
    simpa using hne

/-- What is found is read at one of the places. -/
lemma exists_of_mem_findAtLines {find? : List Char → Option (List Char × List Char)} {start : Bool}
    {skip : Nat} {text name : List Char} (h : name ∈ findAtLines find? start skip text) :
    ∃ here rest, find? here = some (name, rest) := by
  induction text generalizing start skip with
  | nil => cases start <;> cases skip <;> exact absurd h (by simp [findAtLines])
  | cons c text ih =>
    cases skip with
    | succ skip => exact ih h
    | zero =>
      cases start with
      | false => exact ih h
      | true =>
        rw [findAtLines] at h
        cases hfind : find? (c :: text) with
        | none =>
          rw [hfind] at h
          exact ih h
        | some found =>
          rw [hfind] at h
          rcases List.mem_cons.1 h with rfl | h
          · exact ⟨c :: text, found.2, hfind⟩
          · exact ih h

/-- A name that is found is not empty. -/
lemma ne_nil_of_mem_packageNames {start : Bool} {text name : List Char}
    (h : name ∈ packageNames start text) : name ≠ [] := by
  obtain ⟨here, rest, hread⟩ := exists_of_mem_findAtLines h
  exact packageAt?_ne_nil hread

lemma packageName_eq (text : List Char) :
    packageName text = String.ofList ((packageNames true text).head?.getD []) := by
  rw [packageName, packageNames]
  cases findAtLines packageAt? true 0 text <;> rfl

/-- The names of two texts begin alike, or both are missing. -/
lemma ofList_head?_inj {names names' : List (List Char)} (h : ∀ name ∈ names, name ≠ [])
    (h' : ∀ name ∈ names', name ≠ []) :
    String.ofList (names.head?.getD []) = String.ofList (names'.head?.getD []) ↔
      names.head? = names'.head? := by
  rw [String.ofList_inj]
  cases names with
  | nil =>
    cases names' with
    | nil => simp
    | cons name' names' =>
      have hne := h' name' (by simp)
      simp [hne.symm]
  | cons name names =>
    have hne := h name (by simp)
    cases names' with
    | nil => simp [hne]
    | cons name' names' => simp

/-! ## Two bodies -/

/-- On one line nothing is found but at its start. -/
lemma findAtLines_oneLine (find? : List Char → Option (List Char × List Char)) {text : List Char}
    (h : '\n' ∉ text) : findAtLines find? false 0 text = [] := by
  have htail := findAtLines_tail find? h []
  rwa [List.append_nil] at htail

/-- Nothing is declared in comments on one line. -/
theorem declarations_of_oneLine {before body body' : List Char} (hbefore : PathsClosed true before)
    (hbody : '\n' ∉ body) (hbody' : '\n' ∉ body') (after : List Char) :
    imports (withComment before body after) = imports (withComment before body' after) ∧
      packageName (withComment before body after) =
        packageName (withComment before body' after) := by
  constructor
  · rw [imports, imports, importChars_withComment hbefore (pathsClosed_of_oneLine hbody),
      importChars_withComment hbefore (pathsClosed_of_oneLine hbody'), findAtLines_oneLine _ hbody,
      findAtLines_oneLine _ hbody']
  · have hnone : ∀ body, '\n' ∉ body → packageNames false body = [] := fun body =>
      findAtLines_oneLine packageAt?
    rw [packageName_eq, packageName_eq, packageNames_withComment, packageNames_withComment,
      hnone body hbody, hnone body' hbody']

/-- **Declarations in comments.**  Of two texts that differ in the body of a comment, the same
imports are found exactly if the same are found on the inner lines of both bodies, where no path is
left open, and the same package exactly if it is named before the comment or the first name from the
comment on is the same. -/
theorem commented_declarations_iff (before body body' after : List Char) :
    (PathsClosed true before → PathsClosed false body → PathsClosed false body' →
      (imports (withComment before body after) = imports (withComment before body' after) ↔
        findAtLines importAt? false 0 body = findAtLines importAt? false 0 body')) ∧
    (packageName (withComment before body after) = packageName (withComment before body' after) ↔
      packageName before ≠ "" ∨ (packageNames false body ++ packageNames false after).head? =
        (packageNames false body' ++ packageNames false after).head?) := by
  constructor
  · intro hbefore hbody hbody'
    have hstrings : Function.Injective (List.map String.ofList) :=
      List.map_injective_iff.2 fun _ _ h => String.ofList_inj.1 h
    rw [imports, imports, hstrings.eq_iff, importChars_withComment hbefore hbody,
      importChars_withComment hbefore hbody', List.append_cancel_left_eq,
      List.append_cancel_right_eq]
  · rw [packageName_eq, packageName_eq, packageName_eq, packageNames_withComment,
      packageNames_withComment]
    rcases hnames : packageNames true before with _ | ⟨name, names⟩
    · have hne : ∀ body, ∀ name ∈ packageNames false body ++ packageNames false after,
          name ≠ [] := by
        intro body name hname
        rcases List.mem_append.1 hname with hname | hname
        · exact ne_nil_of_mem_packageNames hname
        · exact ne_nil_of_mem_packageNames hname
      rw [List.nil_append, List.nil_append, ofList_head?_inj (hne body) (hne body')]
      exact (or_iff_right fun hname => hname rfl).symm
    · -- the comment stands behind the first package
      have hmem : name ∈ packageNames true before := by simp [hnames]
      have hne : name ≠ [] := ne_nil_of_mem_packageNames hmem
      refine iff_of_true rfl (Or.inl fun hempty => hne ?_)
      exact String.ofList_inj.1 hempty

/-- An import and a package on the inner lines of a comment are found. -/
theorem commented_declarations_iff_twoLines :
    let before := "import 'a';\n".toList
    let body := "\nimport 'b';\npackage p;\n".toList
    let after := "\npackage q;".toList
    PathsClosed true before ∧ PathsClosed false body ∧
      imports (withComment before body after) ≠ imports (withComment before [] after) ∧
      packageName (withComment before body after) ≠ packageName (withComment before [] after) := by
  intro before body after
  have hbefore : PathsClosed true before := by decide
  have hbody : PathsClosed false body := by decide
  have hnone : PathsClosed false [] := by decide
  obtain ⟨himports, hpackage⟩ := commented_declarations_iff before body [] after
  refine ⟨hbefore, hbody, ?_, ?_⟩
  · rw [ne_eq, himports hbefore hbody hnone]
    decide
  · rw [ne_eq, hpackage]
    decide +kernel

end TypedFetch.Proto.Source
