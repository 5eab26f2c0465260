import Mathlib.Data.List.TakeWhile
import TypedFetch.Proofs.Source.ImportStatements

/-!
# Lexemes

A source text is read as a row of lexemes: comments and string literals, each as a whole, words, and
other single characters.  The blanks between them are passed over.

How long a lexeme is depends on what follows it by its first character at most, and not even by that
if the lexeme ends with a line feed (`lexemeLength_local`).  So a text can be read up to a place
over which no lexeme reaches (`unread`), and what stands behind the place can be exchanged.
-/

namespace TypedFetch.Proto.Source

open TypedFetch.Text

/-! ## Comments and literals -/

lemma opaqueLength?_eq_none_iff {c : Char} {rest : List Char} :
    opaqueLength? (c :: rest) = none ↔ isQuote c = false ∧ ¬ BeginsComment (c :: rest) := by
  constructor
  · intro h
    rw [opaqueLength?.eq_def] at h
    cases hcomment : commentLength? (c :: rest) with
    | some n =>
      rw [hcomment] at h
      exact absurd h (by simp)
    | none =>
      rw [hcomment] at h
      refine ⟨?_, (commentLength?_eq_none_iff _).1 hcomment⟩
      cases hquote : isQuote c with
      | false => rfl
      | true => simp [hquote] at h
  · rintro ⟨hquote, hcomment⟩
    exact opaqueLength?_eq_none hquote hcomment

lemma blockLength_le (cs : List Char) : blockLength cs ≤ cs.length := by
  fun_induction blockLength cs with
  | case1 => exact Nat.le_refl 0
  | case2 rest => simp
  | case3 c rest _ ih => simpa using ih

lemma stringLength_le (quote : Char) (cs : List Char) : stringLength quote cs ≤ cs.length := by
  fun_induction stringLength quote cs with
  | case1 => exact Nat.le_refl 0
  | case2 => exact Nat.le_refl 1
  | case3 c rest ih => simpa using ih
  | case4 c rest _ _ hstop => simp
  | case5 c rest _ _ hstop ih => simpa using ih

lemma opaqueLength?_le {c : Char} {rest : List Char} {n : Nat}
    (h : opaqueLength? (c :: rest) = some n) : n ≤ rest.length + 1 := by
  rcases opaqueLength?_cases h with ⟨-, body, rfl, rfl⟩ | ⟨-, body, rfl, rfl⟩ | ⟨-, rfl⟩
  · have hline : lineLength body ≤ body.length := (List.takeWhile_prefix _).length_le
    simpa using hline
  · simpa using blockLength_le body
  · simpa using stringLength_le c rest

/-! ### Their ends -/

section Local

variable {x y y' : List Char}

/-- A run of characters that ends behind `x`. -/
lemma length_takeWhile_append_iff {p : Char → Bool} :
    ((x ++ y).takeWhile p).length = x.length ↔
      (∀ c ∈ x, p c = true) ∧ ∀ c ∈ y.head?, p c = false := by
  constructor
  · intro h
    have htake : (x ++ y).takeWhile p = x := by
      have hsame := List.prefix_iff_eq_take.1 (List.takeWhile_prefix (l := x ++ y) p)
      rwa [h, List.take_left] at hsame
    have hx : ∀ c ∈ x, p c = true := by
      intro c hc
      rw [← htake] at hc
      exact List.mem_takeWhile_imp hc
    refine ⟨hx, fun c hc => ?_⟩
    obtain ⟨rest, rfl⟩ := List.head?_eq_some_iff.1 hc
    rw [List.takeWhile_append_of_pos hx] at htake
    rw [Bool.eq_false_iff]
    intro hpos
    rw [List.takeWhile_cons_of_pos hpos] at htake
    exact absurd (List.append_right_eq_self.1 htake) (by simp)
  · rintro ⟨hx, hy⟩
    rw [takeWhile_append_of_stop hx hy]

/-- A line comment ends where the text ends or a line feed follows. -/
lemma lineLength_eq_iff : lineLength (x ++ y) = x.length ↔
    '\n' ∉ x ∧ (y = [] ∨ y.head? = some '\n') := by
  rw [lineLength, length_takeWhile_append_iff]
  refine and_congr ⟨fun h hmem => by simpa using h _ hmem, fun h c hc => ?_⟩ ?_
  · simpa using fun hnewline : c = '\n' => h (hnewline ▸ hc)
  · cases y <;> simp

lemma eq_nil_of_blockLength (h : blockLength y = 0) : y = [] := by
  cases y with
  | nil => rfl
  | cons c y =>
    by_cases hmark : ['*', '/'] <+: c :: y
    · obtain ⟨rest, hrest⟩ := hmark
      rw [← hrest] at h
      exact absurd h (by simp [blockLength])
    · rw [blockLength_cons hmark] at h
      exact absurd h (Nat.succ_ne_zero _)

lemma eq_nil_of_stringLength {quote : Char} (h : stringLength quote y = 0) : y = [] := by
  cases y with
  | nil => rfl
  | cons c y =>
    by_cases hc : c = '\\'
    · rw [hc] at h
      cases y <;> exact absurd h (by simp [stringLength])
    · rw [stringLength_cons hc] at h
      split at h <;> exact absurd h (by simp)

/-- The end of a block comment does not depend on what follows it. -/
lemma blockLength_local (hy : y = [] → y' = []) (h : blockLength (x ++ y) = x.length) :
    blockLength (x ++ y') = x.length := by
  induction x with
  | nil =>
    rw [hy (eq_nil_of_blockLength h)]
    rfl
  | cons d x ih =>
    rw [List.cons_append] at h ⊢
    by_cases hmark : ['*', '/'] <+: d :: (x ++ y)
    · obtain ⟨rest, hrest⟩ := hmark
      obtain ⟨rfl, hrest⟩ := List.cons.inj hrest
      have hend : blockLength ('*' :: (x ++ y)) = 2 := by
        rw [← hrest]
        rfl
      rw [hend] at h
      obtain ⟨e, rfl⟩ := List.length_eq_one_iff.1 (Nat.succ.inj h).symm
      obtain ⟨-, htail⟩ := List.cons.inj hrest
      obtain ⟨rfl, -⟩ := List.cons.inj htail
      rfl
    · rw [blockLength_cons hmark] at h
      -- what follows could only make an end here behind the last of `x`, and then nothing follows
      have hnext : ¬ ['*', '/'] <+: d :: (x ++ y') := by
        intro hprefix
        cases x with
        | nil =>
          rw [hy (eq_nil_of_blockLength (Nat.succ.inj h))] at hprefix
          simp at hprefix
        | cons e x => exact hmark (by simpa using hprefix)
      rw [blockLength_cons hnext, ih (Nat.succ.inj h), List.length_cons]

/-- The end of a string literal does not depend on what follows it. -/
lemma stringLength_local {quote : Char} (hy : y = [] → y' = [])
    (h : stringLength quote (x ++ y) = x.length) : stringLength quote (x ++ y') = x.length := by
  -- an escape takes two characters, so the induction is on the length
  induction hlength : x.length using Nat.strong_induction_on generalizing x with
  | _ n ih =>
    subst hlength
    cases x with
    | nil =>
      rw [hy (eq_nil_of_stringLength h)]
      rfl
    | cons d x =>
      by_cases hd : d = '\\'
      · subst hd
        cases x with
        | nil =>
          cases y with
          | nil =>
            rw [hy rfl]
            rfl
          | cons e y => exact absurd h (by simp [stringLength])
        | cons e x =>
          have hrest : stringLength quote (x ++ y) = x.length := by
            simpa [stringLength] using h
          have hnext := ih x.length (by simp only [List.length_cons]; omega) hrest rfl
          simp [stringLength, hnext]
      · rw [List.cons_append, stringLength_cons hd] at h ⊢
        split at h
        · rw [if_pos (by assumption)]
          exact h
        · rw [if_neg (by assumption)]
          rw [ih x.length (by simp) (Nat.succ.inj h) rfl, List.length_cons]

lemma opaqueLength?_quote {c : Char} (h : isQuote c = true) (rest : List Char) :
    opaqueLength? (c :: rest) = some (stringLength c rest + 1) := by
  have hcomment : commentLength? (c :: rest) = none := by
    rw [commentLength?_eq_none_iff]
    rcases (isQuote_iff c).1 h with rfl | rfl <;> simp [BeginsComment]
  rw [opaqueLength?.eq_def, hcomment]
  simp [h]

/-- A comment or literal does not depend on what follows it, but for the line feed or the end of the
text behind a line comment. -/
lemma opaqueLength?_local {c : Char} (hy : y = [] → y' = [])
    (hhead : startsLine false (c :: x) = false → y' = [] ∨ y.head? = y'.head?)
    (h : opaqueLength? (c :: (x ++ y)) = some (x.length + 1)) :
    opaqueLength? (c :: (x ++ y')) = some (x.length + 1) := by
  rcases opaqueLength?_cases h with ⟨rfl, body, hbody, hlength⟩ | ⟨rfl, body, hbody, hlength⟩ |
    ⟨hquote, hlength⟩
  · cases x with
    | nil => exact absurd hlength (by simp)
    | cons d x =>
      obtain ⟨rfl, rfl⟩ := List.cons.inj hbody
      obtain ⟨hx, hnext⟩ := lineLength_eq_iff.1 (Nat.succ.inj (Nat.succ.inj hlength)).symm
      have hnext' : y' = [] ∨ y'.head? = some '\n' := by
        rcases hhead (startsLine_false_of_not_mem (by simpa using hx)) with hend | hsame
        · exact Or.inl hend
        · exact hnext.imp hy fun h => hsame ▸ h
      simp [opaqueLength?, commentLength?, lineLength_append hx hnext']
  · cases x with
    | nil => exact absurd hlength (by simp)
    | cons d x =>
      obtain ⟨rfl, rfl⟩ := List.cons.inj hbody
      have hend := blockLength_local hy (Nat.succ.inj (Nat.succ.inj hlength)).symm
      simp [opaqueLength?, commentLength?, hend]
  · rw [opaqueLength?_quote hquote, stringLength_local hy (Nat.succ.inj hlength).symm]

lemma beginsComment_cons_iff {c : Char} : BeginsComment (c :: y) ↔
    c = '/' ∧ (y.head? = some '/' ∨ y.head? = some '*') := by
  cases y <;> simp [BeginsComment, eq_comm, and_or_left]

/-- What begins no comment begins none with another text behind it that begins alike. -/
lemma opaqueLength?_none_local {c : Char} (hhead : (x ++ y).head? = (x ++ y').head?)
    (h : opaqueLength? (c :: (x ++ y)) = none) : opaqueLength? (c :: (x ++ y')) = none := by
  rw [opaqueLength?_eq_none_iff, beginsComment_cons_iff] at h ⊢
  rwa [← hhead]

end Local

/-! ## Lexemes -/

lemma not_isIdentifierChar_of_isBlank {c : Char} (h : isBlank c = true) :
    isIdentifierChar c = false :=
  eq_false_of_isBlank (by decide +kernel) h

/-- The length of the lexeme that begins with a character that is no blank. -/
def lexemeLength (c : Char) (rest : List Char) : Nat :=
  match opaqueLength? (c :: rest) with
  | some n => n
  | none => if isIdentifierChar c then (rest.takeWhile isIdentifierChar).length + 1 else 1

lemma lexemeLength_pos (c : Char) (rest : List Char) : 0 < lexemeLength c rest := by
  rw [lexemeLength]
  cases hwhole : opaqueLength? (c :: rest) with
  | some n => exact opaqueLength?_pos hwhole
  | none =>
    simp only
    split <;> exact Nat.succ_pos _

lemma lexemeLength_le (c : Char) (rest : List Char) : lexemeLength c rest ≤ rest.length + 1 := by
  rw [lexemeLength]
  cases hwhole : opaqueLength? (c :: rest) with
  | some n => exact opaqueLength?_le hwhole
  | none =>
    simp only
    split
    · exact Nat.succ_le_succ (List.takeWhile_prefix _).length_le
    · exact Nat.succ_le_succ (Nat.zero_le _)

/-- A text that begins with a lexeme, taken apart. -/
lemma exists_lexeme (c : Char) (rest : List Char) :
    ∃ front back, rest = front ++ back ∧ lexemeLength c rest = front.length + 1 := by
  have hpos := lexemeLength_pos c rest
  have hle := lexemeLength_le c rest
  refine ⟨rest.take (lexemeLength c rest - 1), rest.drop (lexemeLength c rest - 1),
    (List.take_append_drop _ _).symm, ?_⟩
  rw [List.length_take]
  omega

/-- A lexeme depends on what follows it by its first character at most, and not at all if it ends
with a line feed. -/
lemma lexemeLength_local {c : Char} {front back back' : List Char} (hc : isBlank c = false)
    (hback : back = [] → back' = [])
    (hhead : startsLine false (c :: front) = false → back.head? = back'.head?)
    (h : lexemeLength c (front ++ back) = front.length + 1) :
    lexemeLength c (front ++ back') = front.length + 1 := by
  rw [lexemeLength] at h ⊢
  cases hwhole : opaqueLength? (c :: (front ++ back)) with
  | some n =>
    rw [hwhole] at h
    obtain rfl : n = front.length + 1 := h
    rw [opaqueLength?_local hback (fun h => Or.inr (hhead h)) hwhole]
  | none =>
    rw [hwhole] at h
    have hnewline : c ≠ '\n' := by
      rintro rfl
      exact absurd hc (by decide)
    simp only at h
    split at h
    · next hword =>
      -- a word ends at a character that is in no word
      obtain ⟨hfront, hstop⟩ := length_takeWhile_append_iff.1 (Nat.succ.inj h)
      have hplain : '\n' ∉ c :: front := by
        intro hmem
        rcases List.mem_cons.1 hmem with hmem | hmem
        · exact hnewline hmem.symm
        · exact absurd (hfront _ hmem) (by decide)
      have hsame := hhead (startsLine_false_of_not_mem hplain)
      have hnone : opaqueLength? (c :: (front ++ back')) = none :=
        opaqueLength?_none_local (by simp [List.head?_append, hsame]) hwhole
      rw [hsame] at hstop
      rw [hnone]
      simp only [hword, if_true, length_takeWhile_append_iff.2 ⟨hfront, hstop⟩]
    · next hword =>
      obtain rfl : front = [] := List.eq_nil_of_length_eq_zero (Nat.succ.inj h).symm
      have hsame := hhead (by simpa using hnewline)
      rw [opaqueLength?_none_local (by simpa using hsame) hwhole]
      simp [hword]

/-! ## Reading -/

/-- The lexeme that begins with a character, if one does; `skip` characters belong to a lexeme that
was begun before. -/
def beginning : Nat → Char → List Char → List (List Char)
  | 0, c, rest => if isBlank c then [] else [(c :: rest).take (lexemeLength c rest)]
  | _ + 1, _, _ => []

/-- How many characters of the lexeme follow a character. -/
def unreadAfter : Nat → Char → List Char → Nat
  | 0, c, rest => if isBlank c then 0 else lexemeLength c rest - 1
  | skip + 1, _, _ => skip

/-- The lexemes of a text, after `skip` characters. -/
def lexemesFrom : Nat → List Char → List (List Char)
  | _, [] => []
  | skip, c :: rest => beginning skip c rest ++ lexemesFrom (unreadAfter skip c rest) rest

/-- The lexemes of a text. -/
def lexemes (text : List Char) : List (List Char) :=
  lexemesFrom 0 text

/-- How far the lexeme that is read at the end of `front` reaches into `back`. -/
def unread : Nat → List Char → List Char → Nat
  | skip, [], _ => skip
  | skip, c :: front, back => unread (unreadAfter skip c (front ++ back)) front back

lemma unread_append (skip : Nat) (front middle back : List Char) :
    unread skip (front ++ middle) back =
      unread (unread skip front (middle ++ back)) middle back := by
  induction front generalizing skip with
  | nil => rfl
  | cons c front ih =>
    rw [List.cons_append, unread, unread, ih, List.append_assoc]

lemma unread_of_le {skip : Nat} {front : List Char} (h : front.length ≤ skip) (back : List Char) :
    unread skip front back = skip - front.length := by
  induction front generalizing skip with
  | nil => rfl
  | cons c front ih =>
    obtain ⟨skip, rfl⟩ := Nat.exists_eq_add_of_le' (Nat.le_of_add_left_le h)
    rw [unread, unreadAfter, ih (Nat.le_of_succ_le_succ h), List.length_cons]
    omega

lemma lexemesFrom_skip (front back : List Char) :
    lexemesFrom front.length (front ++ back) = lexemesFrom 0 back := by
  induction front with
  | nil => rfl
  | cons c front ih => exact ih

section Steps

variable {c : Char} {front back : List Char}

lemma lexemesFrom_blank (hc : isBlank c = true) (rest : List Char) :
    lexemesFrom 0 (c :: rest) = lexemesFrom 0 rest := by
  rw [lexemesFrom, beginning, unreadAfter, if_pos hc, if_pos hc, List.nil_append]

lemma lexemesFrom_lexeme (hc : isBlank c = false)
    (h : lexemeLength c (front ++ back) = front.length + 1) :
    lexemesFrom 0 (c :: (front ++ back)) = (c :: front) :: lexemesFrom 0 back := by
  rw [lexemesFrom, beginning, unreadAfter, if_neg (by simp [hc]), if_neg (by simp [hc]), h,
    Nat.add_sub_cancel, lexemesFrom_skip, List.take_succ_cons, List.take_left,
    List.singleton_append]

/-- Within a lexeme there is something left of it. -/
lemma unread_lexeme (hc : isBlank c = false)
    (h : lexemeLength c (front ++ back) = front.length + 1) {before here : List Char}
    (hsplit : front = before ++ here) : unread 0 (c :: before) (here ++ back) = here.length := by
  subst hsplit
  rw [List.append_assoc] at h
  rw [unread, unreadAfter, if_neg (by simp [hc]), h, Nat.add_sub_cancel, unread_of_le (by simp)]
  simp

end Steps

/-! ### Weights -/

/-- The number of characters that are no blanks. -/
def weight (cs : List Char) : Nat :=
  cs.countP fun c => !isBlank c

@[simp] lemma weight_nil : weight [] = 0 := rfl

lemma weight_append (xs ys : List Char) : weight (xs ++ ys) = weight xs + weight ys :=
  List.countP_append

lemma weight_cons (c : Char) (cs : List Char) : weight (c :: cs) = weight [c] + weight cs :=
  weight_append [c] cs

lemma weight_eq_zero_iff {cs : List Char} : weight cs = 0 ↔ ∀ c ∈ cs, isBlank c = true := by
  simp [weight, List.countP_eq_zero]

lemma weight_beginning (skip : Nat) (c : Char) (rest : List Char) :
    weight ((c :: rest).take skip) + weight (beginning skip c rest).flatten =
      weight [c] + weight (rest.take (unreadAfter skip c rest)) := by
  cases skip with
  | succ skip =>
    rw [List.take_succ_cons, beginning, unreadAfter, weight_cons, List.flatten_nil, weight_nil,
      Nat.add_zero]
  | zero =>
    by_cases hc : isBlank c = true
    · have hzero : weight [c] = 0 := weight_eq_zero_iff.2 (by simpa using hc)
      rw [beginning, unreadAfter, if_pos hc, if_pos hc, hzero]
      rfl
    · obtain ⟨n, hn⟩ := Nat.exists_eq_add_of_lt (lexemeLength_pos c rest)
      rw [beginning, unreadAfter, if_neg hc, if_neg hc, hn, Nat.zero_add, Nat.add_sub_cancel,
        List.take_zero, weight_nil, Nat.zero_add, List.flatten_singleton, List.take_succ_cons,
        weight_cons]

/-- The lexemes hold all characters but the blanks between them. -/
lemma weight_lexemesFrom (skip : Nat) (text : List Char) :
    weight (text.take skip) + weight (lexemesFrom skip text).flatten = weight text := by
  induction text generalizing skip with
  | nil => simp [lexemesFrom]
  | cons c rest ih =>
    have hhere := weight_beginning skip c rest
    have hrest := ih (unreadAfter skip c rest)
    rw [lexemesFrom, List.flatten_append, weight_append, weight_cons c rest]
    omega

/-! ## Texts that are read apart -/

/-- The text in front is read as some lexemes, none of which reaches into the text behind it. -/
structure ReadsApart (front : List Char) (read : List (List Char)) (back : List Char) : Prop where
  lexemes : lexemesFrom 0 (front ++ back) = read ++ lexemesFrom 0 back
  unread : unread 0 front back = 0

namespace ReadsApart

variable {front middle back : List Char} {read read' : List (List Char)} {c : Char}

lemma append (h : ReadsApart front read (middle ++ back)) (h' : ReadsApart middle read' back) :
    ReadsApart (front ++ middle) (read ++ read') back := by
  constructor
  · rw [List.append_assoc, h.lexemes, h'.lexemes, List.append_assoc]
  · rw [unread_append, h.unread, h'.unread]

lemma blanks (h : ∀ c ∈ front, isBlank c = true) (back : List Char) : ReadsApart front [] back := by
  induction front with
  | nil => exact ⟨rfl, rfl⟩
  | cons c front ih =>
    obtain ⟨hc, hfront⟩ := List.forall_mem_cons.1 h
    obtain ⟨hlexemes, hunread⟩ := ih hfront
    refine ⟨?_, ?_⟩
    · rw [List.cons_append, lexemesFrom_blank hc, hlexemes]
    · rw [Source.unread, unreadAfter, if_pos hc, hunread]

lemma lexeme (hc : isBlank c = false) (h : lexemeLength c (front ++ back) = front.length + 1) :
    ReadsApart (c :: front) [c :: front] back := by
  refine ⟨lexemesFrom_lexeme hc h, ?_⟩
  have hunread := unread_lexeme hc h (List.append_nil front).symm
  rwa [List.nil_append] at hunread

/-- A word ends where a character that is in no word follows. -/
lemma word {word : List Char} (hne : word ≠ []) (hword : ∀ c ∈ word, isIdentifierChar c = true)
    (hback : ∀ c ∈ back.head?, isIdentifierChar c = false) : ReadsApart word [word] back := by
  obtain ⟨c, front, rfl⟩ := List.exists_cons_of_ne_nil hne
  obtain ⟨hc, hfront⟩ := List.forall_mem_cons.1 hword
  have hblank : isBlank c = false := by
    rw [Bool.eq_false_iff]
    intro hblank
    rw [not_isIdentifierChar_of_isBlank hblank] at hc
    exact absurd hc (by decide)
  have hquote : isQuote c = false := by
    rw [Bool.eq_false_iff]
    intro hquote
    rcases (isQuote_iff c).1 hquote with rfl | rfl <;> exact absurd hc (by decide)
  have hslash : c ≠ '/' := by
    rintro rfl
    exact absurd hc (by decide)
  refine lexeme hblank ?_
  rw [lexemeLength, opaqueLength?_of_ne hquote hslash]
  simp only [hc, if_true, length_takeWhile_append_iff.2 ⟨hfront, hback⟩]

lemma literal (hquote : isQuote c = true)
    (h : opaqueLength? (c :: (front ++ back)) = some (front.length + 1)) :
    ReadsApart (c :: front) [c :: front] back := by
  refine lexeme (not_isBlank_of_isQuote hquote) ?_
  rw [lexemeLength, h]

lemma semicolon (back : List Char) : ReadsApart [';'] [[';']] back := by
  refine lexeme (by decide) ?_
  rw [lexemeLength, List.nil_append, opaqueLength?_of_ne (by decide) (by decide)]
  rfl

end ReadsApart

end TypedFetch.Proto.Source
