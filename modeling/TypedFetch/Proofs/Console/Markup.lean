import Mathlib.Data.List.TakeWhile
import TypedFetch.Console.Page

/-!
# Markup that is never at fault

Only an opening bracket can begin a tag, so a text without one is shown whatever it holds.  A
message about a success stands behind a tag that is closed again, and is shown under the same
condition.

The main statement is `eventFault?_success`.
-/

namespace TypedFetch.Console

/-- The piece is no tag. -/
def Piece.IsText : Piece → Prop
  | .text _ => True
  | .tag _ => False

lemma isText_of_mem_textPiece {cs : List Char} {p : Piece} (h : p ∈ textPiece cs) : p.IsText := by
  unfold textPiece at h
  split at h
  · exact absurd h (by simp)
  · obtain rfl := List.mem_singleton.1 h
    trivial

/-- What is behind the backslashes in front of a text says how it is cut. -/
lemma piecesFrom_succ (plain : List Char) (n : Nat) (cs : List Char) :
    piecesFrom plain (n + 1) cs =
      match cs.drop (cs.takeWhile (· == '\\')).length with
      | [] => textPiece (cs.takeWhile (· == '\\') ++ plain)
      | c :: rest =>
        match (if c == '[' then cutTag? rest else none) with
        | none => piecesFrom (c :: cs.takeWhile (· == '\\') ++ plain) n rest
        | some (tag, after) =>
          let slashes := cs.takeWhile (· == '\\')
          textPiece plain ++ textPiece (slashes.take (slashes.length / 2)) ++
            (if slashes.length % 2 == 1 then .text ('[' :: tag ++ [']']) else .tag tag) ::
              piecesFrom [] n after :=
  rfl

/-- A text without opening brackets has no tags. -/
lemma isText_of_mem_piecesFrom {n : Nat} : ∀ {plain cs : List Char}, '[' ∉ cs →
    ∀ p ∈ piecesFrom plain n cs, p.IsText := by
  induction n with
  | zero => exact fun _ p hp => isText_of_mem_textPiece hp
  | succ n ih =>
    intro plain cs h p hp
    rcases hrest : cs.drop (cs.takeWhile (· == '\\')).length with _ | ⟨c, rest⟩
    · simp only [piecesFrom_succ, hrest] at hp
      exact isText_of_mem_textPiece hp
    · have hmem : ∀ d ∈ c :: rest, d ∈ cs := fun d hd => List.mem_of_mem_drop (hrest ▸ hd)
      have hc : (c == '[') = false := by
        rw [beq_eq_false_iff_ne]
        rintro rfl
        exact h (hmem _ (by simp))
      simp only [piecesFrom_succ, hrest, hc, Bool.false_eq_true, if_false] at hp
      exact ih (fun hr => h (hmem _ (by simp [hr]))) p hp

/-- Pieces without tags are shown, whatever styles are open. -/
lemma exists_showPieces (styles : List String) {ps : List Piece} (h : ∀ p ∈ ps, p.IsText) :
    ∃ cs, showPieces styles ps = .ok cs := by
  induction ps with
  | nil => exact ⟨[], rfl⟩
  | cons p ps ih =>
    obtain ⟨shown, hshown⟩ := ih fun q hq => h q (by simp [hq])
    cases p with
    | text cs => exact ⟨shownText cs ++ shown, by simp only [showPieces, hshown, Except.map]⟩
    | tag cs => exact absurd (h (.tag cs) (by simp)) id

/-- A tag ends at the first closing bracket. -/
lemma cutTag?_append {c : Char} {more : List Char} (hstart : startsTag c = true)
    (hmore : more.all (fun d => d != '[' && d != ']') = true) (after : List Char) :
    cutTag? (c :: (more ++ ']' :: after)) = some (c :: more, after) := by
  have htake : (more ++ ']' :: after).takeWhile (fun d => d != '[' && d != ']') = more := by
    rw [List.takeWhile_append_of_pos (List.all_eq_true.1 hmore),
      List.takeWhile_cons_of_neg (by simp), List.append_nil]
  simp only [cutTag?, htake, List.drop_left, hstart, if_true]

section Steps

variable {plain rest : List Char} {n : Nat}

lemma piecesFrom_char {c : Char} (hbracket : c ≠ '[') (hslash : c ≠ '\\') :
    piecesFrom plain (n + 1) (c :: rest) = piecesFrom (c :: plain) n rest := by
  have htake : (c :: rest).takeWhile (· == '\\') = [] :=
    List.takeWhile_cons_of_neg (by simpa using hslash)
  simp only [piecesFrom_succ, htake, List.length_nil, List.drop_zero, beq_false_of_ne hbracket,
    Bool.false_eq_true, if_false, List.nil_append, List.cons_append]

lemma piecesFrom_tag {tag after : List Char} (h : cutTag? rest = some (tag, after)) :
    piecesFrom plain (n + 1) ('[' :: rest) =
      textPiece plain ++ .tag tag :: piecesFrom [] n after := by
  have htake : ('[' :: rest).takeWhile (· == '\\') = [] := rfl
  simp [piecesFrom_succ, htake, h, textPiece]

end Steps

/-- The mark of a success stands between two tags. -/
lemma pieces_success (cs : List Char) :
    pieces ("[green]✓[/green]".toList ++ cs) =
      .tag "green".toList :: .text ['✓'] :: .tag "/green".toList ::
        piecesFrom [] (cs.length + 14) cs := by
  have hmark : "[green]✓[/green]".toList =
      '[' :: 'g' :: ("reen".toList ++ ']' :: '✓' :: '[' :: '/' :: ("green".toList ++ [']'])) := by
    decide +kernel
  have hopen : "green".toList = 'g' :: "reen".toList := by decide +kernel
  have hclose : "/green".toList = '/' :: "green".toList := by decide +kernel
  have hlength : ("[green]✓[/green]".toList ++ cs).length + 1 = cs.length + 14 + 3 := by
    rw [List.length_append, show "[green]✓[/green]".toList.length = 16 by decide +kernel]
    omega
  rw [pieces, hlength, hmark, hclose]
  simp only [List.cons_append, List.append_assoc, List.nil_append]
  rw [piecesFrom_tag (cutTag?_append (by decide) (by decide +kernel) _),
    piecesFrom_char (by decide) (by decide),
    piecesFrom_tag (cutTag?_append (by decide) (by decide +kernel) _), ← hopen]
  rfl

/-- A message about a success is shown if it has no opening brackets. -/
lemma eventFault?_success {message : String} (h : '[' ∉ message.toList) :
    eventFault? (.success message) = none := by
  have hmarkup : ("[green]✓[/green] " ++ message).toList =
      "[green]✓[/green]".toList ++ ' ' :: message.toList := by simp
  have htext : ∀ p ∈ piecesFrom [] ((' ' :: message.toList).length + 14) (' ' :: message.toList),
      p.IsText := isText_of_mem_piecesFrom (by simpa using h)
  obtain ⟨shown, hshown⟩ := exists_showPieces [] htext
  -- the style that the mark opens is closed behind it
  have hopen : applyTag [] "green".toList = .ok ["green"] := by decide +kernel
  have hclose : applyTag ["green"] "/green".toList = .ok [] := by decide +kernel
  have hplain : plainText ("[green]✓[/green] " ++ message) =
      .ok (shownText ['✓'] ++ shown) := by
    rw [plainText, hmarkup, pieces_success]
    simp only [showPieces, hopen, hclose, hshown, Except.map, bind, Except.bind]
  simp only [eventFault?, eventLines, hplain, Except.map]

end TypedFetch.Console
