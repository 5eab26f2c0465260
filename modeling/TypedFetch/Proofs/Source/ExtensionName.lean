import Mathlib.Data.List.TakeWhile
import TypedFetch.Proofs.Text.Front
import TypedFetch.Proto.Source.Options

/-!
# Names of extensions

An extension is named in parentheses, with blanks and a leading dot that are no part of the name.
Such a name is read wherever it stands (`parenthesised?_chars`), and nothing else is read as one
(`exists_of_parenthesised?`); the same holds for the head of an option statement.
-/

namespace TypedFetch.Proto.Source

open TypedFetch.Text

/-! ## Names in parentheses -/

/-- The name of an extension in parentheses.  Blanks around it are no part of it, nor is a dot in
front of it. -/
structure Extension where
  before : List Char
  dotted : Bool
  name : List Char
  after : List Char
  before_blank : ∀ c ∈ before, isBlank c = true
  name_ne_nil : name ≠ []
  name_chars : ∀ c ∈ name, isPackageChar c = true
  name_head : dotted = false → name.head? = some '.' → name = ['.']
  after_blank : ∀ c ∈ after, isBlank c = true

/-- The text of the name up to its dot. -/
def Extension.dot (x : Extension) : List Char :=
  if x.dotted then ['.'] else []

/-- The text of the name with its parentheses. -/
def Extension.chars (x : Extension) : List Char :=
  '(' :: (x.before ++ (x.dot ++ (x.name ++ (x.after ++ [')']))))

/-- The ranges of code points of blanks. -/
def blankRanges : List (Nat × Nat) :=
  [(9, 13), (28, 32), (133, 133), (160, 160), (5760, 5760), (8192, 8202), (8232, 8232),
    (8233, 8233), (8239, 8239), (8287, 8287), (12288, 12288)]

lemma isBlank_eq_inRanges (c : Char) : isBlank c = inRanges blankRanges c.toNat := by
  have hsingle : ∀ m : Nat, (c.toNat == m) = (decide (m ≤ c.toNat) && decide (c.toNat ≤ m)) := by
    intro m
    rw [Bool.eq_iff_iff]
    simp only [beq_iff_eq, Bool.and_eq_true, decide_eq_true_eq]
    omega
  simp [isBlank, inRanges, blankRanges, hsingle, Bool.or_assoc]

/-- What is false of the blanks by their code points is false of every blank. -/
lemma eq_false_of_isBlank {p : Char → Bool} {c : Char}
    (hnone : ∀ r ∈ blankRanges, ∀ n, r.1 ≤ n → n ≤ r.2 → p (Char.ofNat n) = false)
    (h : isBlank c = true) : p c = false := by
  rw [isBlank_eq_inRanges] at h
  obtain ⟨r, hr, hc⟩ := List.any_eq_true.1 h
  simp only [Bool.and_eq_true, decide_eq_true_eq] at hc
  rw [← Char.ofNat_toNat c]
  exact hnone r hr _ hc.1 hc.2

lemma not_isPackageChar_of_isBlank {c : Char} (h : isBlank c = true) : isPackageChar c = false :=
  eq_false_of_isBlank (by decide +kernel) h

lemma not_isBlank_of_isPackageChar {c : Char} (h : isPackageChar c = true) : isBlank c = false := by
  rw [Bool.eq_false_iff]
  intro hblank
  rw [not_isPackageChar_of_isBlank hblank] at h
  exact absurd h (by decide)

/-- What stands between the name and the closing parenthesis begins with no character of a name. -/
lemma Extension.head?_after (x : Extension) (rest : List Char) :
    ∀ c ∈ (x.after ++ ')' :: rest).head?, isPackageChar c = false := by
  intro c hc
  cases hafter : x.after with
  | nil =>
    rw [hafter] at hc
    obtain rfl : ')' = c := by simpa using hc
    decide
  | cons d after =>
    rw [hafter] at hc
    obtain rfl : d = c := by simpa using hc
    exact not_isPackageChar_of_isBlank (x.after_blank d (by simp [hafter]))

/-- The dot and the name begin with no blank. -/
lemma Extension.head?_name (x : Extension) (rest : List Char) :
    ∀ c ∈ (x.dot ++ (x.name ++ rest)).head?, isBlank c = false := by
  intro c hc
  refine not_isBlank_of_isPackageChar ?_
  obtain ⟨d, name, hname⟩ := List.exists_cons_of_ne_nil x.name_ne_nil
  have hchars := x.name_chars
  rw [Extension.dot, hname] at hc
  cases hdot : x.dotted with
  | true =>
    obtain rfl : '.' = c := by simpa [hdot] using hc
    decide
  | false =>
    obtain rfl : d = c := by simpa [hdot] using hc
    exact hchars d (by simp [hname])

/-- Where the name begins: after a dot, if a name follows it. -/
def nameStart (cs : List Char) : List Char :=
  let inner := (dropPrefix? ['.'] cs).getD cs
  if (inner.takeWhile isPackageChar).isEmpty then cs else inner

lemma parenthesised?_eq (cs : List Char) :
    parenthesised? cs = (dropPrefix? ['('] cs).bind fun rest =>
      let start := nameStart (rest.dropWhile isBlank)
      let name := start.takeWhile isPackageChar
      if name.isEmpty then none
      else (dropPrefix? [')'] ((start.drop name.length).dropWhile isBlank)).map (name, ·) := by
  rw [parenthesised?]
  refine congrArg _ (funext fun rest => ?_)
  simp only [nameStart, Option.map_eq_bind]
  split <;> rfl

lemma nameStart_dot_append (x : Extension) (rest : List Char) :
    nameStart (x.dot ++ (x.name ++ (x.after ++ ')' :: rest))) =
      x.name ++ (x.after ++ ')' :: rest) := by
  have hname : (x.name ++ (x.after ++ ')' :: rest)).takeWhile isPackageChar = x.name :=
    takeWhile_append_of_stop x.name_chars (x.head?_after rest)
  cases hdot : x.dotted with
  | true =>
    have hdrop : dropPrefix? ['.'] (x.dot ++ (x.name ++ (x.after ++ ')' :: rest))) =
        some (x.name ++ (x.after ++ ')' :: rest)) := by
      rw [Extension.dot, hdot]
      exact dropPrefix?_append _ _
    simp [nameStart, hdrop, hname, x.name_ne_nil]
  | false =>
    rw [Extension.dot, hdot]
    simp only [Bool.false_eq_true, if_false, List.nil_append]
    by_cases hhead : x.name.head? = some '.'
    · -- a name that is a lone dot is not taken for the dot in front of a name
      have hlone := x.name_head hdot hhead
      have hdrop : dropPrefix? ['.'] (x.name ++ (x.after ++ ')' :: rest)) =
          some (x.after ++ ')' :: rest) := by
        rw [hlone]
        exact dropPrefix?_append _ _
      have hnone : (x.after ++ ')' :: rest).takeWhile isPackageChar = [] := by
        simpa using takeWhile_append_of_stop (fun c hc => absurd hc List.not_mem_nil)
          (x.head?_after rest)
      simp [nameStart, hdrop, hnone]
    · obtain ⟨d, name, hd⟩ := List.exists_cons_of_ne_nil x.name_ne_nil
      have hne : ¬ '.' = d := by
        rintro rfl
        exact hhead (by simp [hd])
      have hdrop : dropPrefix? ['.'] (x.name ++ (x.after ++ ')' :: rest)) = none := by
        simp [dropPrefix?, hd, hne]
      simp [nameStart, hdrop]

/-- A name in parentheses is read. -/
lemma parenthesised?_chars (x : Extension) (rest : List Char) :
    parenthesised? (x.chars ++ rest) = some (x.name, rest) := by
  have hopen : dropPrefix? ['('] (x.chars ++ rest) =
      some (x.before ++ (x.dot ++ (x.name ++ (x.after ++ ')' :: rest)))) := by
    simp [dropPrefix?, Extension.chars]
  have hblank : (x.before ++ (x.dot ++ (x.name ++ (x.after ++ ')' :: rest)))).dropWhile isBlank =
      x.dot ++ (x.name ++ (x.after ++ ')' :: rest)) :=
    dropWhile_append_of_stop x.before_blank (x.head?_name _)
  have hname : (x.name ++ (x.after ++ ')' :: rest)).takeWhile isPackageChar = x.name :=
    takeWhile_append_of_stop x.name_chars (x.head?_after rest)
  have hafter : (x.after ++ ')' :: rest).dropWhile isBlank = ')' :: rest :=
    dropWhile_append_of_stop x.after_blank (by simp [isBlank])
  rw [parenthesised?_eq, hopen, Option.bind_some, hblank, nameStart_dot_append]
  simp [hname, hafter, x.name_ne_nil, dropPrefix?]

/-- A name begins after one dot at most, and a name that begins with a dot is that dot alone. -/
lemma nameStart_cases (cs : List Char) :
    ∃ dotted : Bool, cs = (if dotted then ['.'] else []) ++ nameStart cs ∧
      (dotted = false → (nameStart cs).head? = some '.' →
        (nameStart cs).takeWhile isPackageChar = ['.']) := by
  rw [nameStart]
  cases hdrop : dropPrefix? ['.'] cs with
  | none =>
    refine ⟨false, by simp, fun _ hhead => ?_⟩
    obtain ⟨tail, rfl⟩ : ∃ tail, cs = '.' :: tail := by simpa [List.head?_eq_some_iff] using hhead
    exact absurd hdrop (by simp [dropPrefix?])
  | some inner =>
    obtain rfl : cs = '.' :: inner := dropPrefix?_eq_some hdrop
    cases hnone : (inner.takeWhile isPackageChar).isEmpty with
    | false => exact ⟨true, by simp [hnone], fun h => absurd h (by decide)⟩
    | true =>
      have hdot : isPackageChar '.' = true := by decide
      refine ⟨false, by simp [hnone], fun _ _ => ?_⟩
      simpa [hnone, hdot] using List.isEmpty_iff.1 hnone

/-- Where a name in parentheses is read, there is one. -/
lemma exists_of_parenthesised? {cs name rest : List Char}
    (h : parenthesised? cs = some (name, rest)) :
    ∃ x : Extension, x.name = name ∧ cs = x.chars ++ rest := by
  rw [parenthesised?_eq] at h
  obtain ⟨inside, hopen, h⟩ := Option.bind_eq_some_iff.1 h
  obtain ⟨dotted, hdotted, hhead⟩ := nameStart_cases (inside.dropWhile isBlank)
  generalize nameStart (inside.dropWhile isBlank) = start at h hdotted hhead
  simp only at h
  split at h
  · exact absurd h (by simp)
  next hne =>
  obtain ⟨tail, hclose, hpair⟩ := Option.map_eq_some_iff.1 h
  obtain ⟨rfl, rfl⟩ : start.takeWhile isPackageChar = name ∧ tail = rest := by simpa using hpair
  have hstart : start.takeWhile isPackageChar ++
      start.drop (start.takeWhile isPackageChar).length = start :=
    List.prefix_iff_eq_append.1 (List.takeWhile_prefix _)
  -- the name reaches as far as its characters do, and what is behind it is blank
  generalize start.drop (start.takeWhile isPackageChar).length = behind at hclose hstart
  refine ⟨{ before := inside.takeWhile isBlank
            dotted := dotted
            name := start.takeWhile isPackageChar
            after := behind.takeWhile isBlank
            before_blank := fun _ => List.mem_takeWhile_imp
            name_ne_nil := by simpa using hne
            name_chars := fun _ => List.mem_takeWhile_imp
            name_head := fun hfalse hdot => hhead hfalse ?_
            after_blank := fun _ => List.mem_takeWhile_imp }, rfl, ?_⟩
  · rw [← hstart, List.head?_append, hdot, Option.some_or]
  · have hbehind : behind = behind.takeWhile isBlank ++ ')' :: tail := by
      rw [← List.singleton_append, ← dropPrefix?_eq_some hclose, List.takeWhile_append_dropWhile]
    have hinside : inside =
        inside.takeWhile isBlank ++ ((if dotted then ['.'] else []) ++ start) := by
      rw [← hdotted, List.takeWhile_append_dropWhile]
    calc cs = '(' :: inside := dropPrefix?_eq_some hopen
      _ = '(' :: (inside.takeWhile isBlank ++ ((if dotted then ['.'] else []) ++
            (start.takeWhile isPackageChar ++ (behind.takeWhile isBlank ++ ')' :: tail)))) := by
          rw [← hbehind, hstart, ← hinside]
      _ = _ := by simp [Extension.chars, Extension.dot]

/-! ## Names after blanks, and heads of statements -/

/-- The text begins with a name in parentheses, after blanks. -/
def BeginsExtension (cs : List Char) : Prop :=
  ∃ (lead : List Char) (x : Extension) (rest : List Char),
    (∀ c ∈ lead, isBlank c = true) ∧ cs = lead ++ (x.chars ++ rest)

/-- The keyword of option statements. -/
def optionKeyword : List Char :=
  ['o', 'p', 't', 'i', 'o', 'n']

/-- The text begins with the head of an option statement. -/
def BeginsOption (cs : List Char) : Prop :=
  ∃ rest, cs = optionKeyword ++ rest ∧ BeginsExtension rest

lemma parenthesised?_dropWhile {lead : List Char} (hlead : ∀ c ∈ lead, isBlank c = true)
    (x : Extension) (rest : List Char) :
    parenthesised? ((lead ++ (x.chars ++ rest)).dropWhile isBlank) = some (x.name, rest) := by
  have hdrop : (lead ++ (x.chars ++ rest)).dropWhile isBlank = x.chars ++ rest :=
    dropWhile_append_of_stop hlead (by simp [Extension.chars, isBlank])
  rw [hdrop, parenthesised?_chars]

lemma parenthesised?_dropWhile_eq_none {cs : List Char} (h : ¬ BeginsExtension cs) :
    parenthesised? (cs.dropWhile isBlank) = none := by
  by_contra hsome
  obtain ⟨⟨name, rest⟩, hread⟩ := Option.ne_none_iff_exists'.1 hsome
  obtain ⟨x, -, hchars⟩ := exists_of_parenthesised? hread
  refine h ⟨cs.takeWhile isBlank, x, rest, fun _ => List.mem_takeWhile_imp, ?_⟩
  rw [← hchars, List.takeWhile_append_dropWhile]

lemma toList_option : "option".toList = optionKeyword := rfl

/-- The head of a statement is read. -/
lemma statementAt?_chars {gap : List Char} (hgap : ∀ c ∈ gap, isBlank c = true) (x : Extension)
    (rest : List Char) :
    statementAt? (optionKeyword ++ (gap ++ (x.chars ++ rest))) = some (x.name, rest) := by
  rw [statementAt?, toList_option, dropPrefix?_append]
  exact parenthesised?_dropWhile hgap x rest

/-- Nothing else is read as the head of a statement. -/
lemma statementAt?_eq_none {cs : List Char} (h : ¬ BeginsOption cs) : statementAt? cs = none := by
  rw [statementAt?, toList_option]
  cases hdrop : dropPrefix? optionKeyword cs with
  | none => rfl
  | some rest =>
    refine parenthesised?_dropWhile_eq_none fun hbegins => ?_
    exact h ⟨rest, dropPrefix?_eq_some hdrop, hbegins⟩

end TypedFetch.Proto.Source
