import Mathlib.Data.List.TakeWhile
import Mathlib.Logic.Relation
import TypedFetch.Json.Reader
import TypedFetch.Proofs.Attempts
import TypedFetch.Proofs.Text.Front

/-!
# Reading step by step

A JSON text can be read step by step, with nothing to remember but which arrays and objects are open
at a place (`Stage.next`).  The reader follows these steps (`leadsTo_readValue`): it comes to the
end of a value exactly if they do, and it is refused with the fault of the step that cannot be
taken.  So it can be told where a text is nested too deeply (`read_eq_tooDeep_iff`), and where an
integer in it has too many digits (`read_eq_tooManyDigits_iff`).
-/

namespace TypedFetch.Json

/-! ## Steps -/

/-- What can be open. -/
inductive Bracket where
  | array
  | object

/-- The character that closes it. -/
def Bracket.close : Bracket → Char
  | array => ']'
  | object => '\x7d'

/-- A place in a text, by what is open there, with the rest of the text. -/
inductive Stage where
  /-- A value starts here. -/
  | value (opened : List Bracket) (rest : List Char)
  /-- A key of an object starts here. -/
  | key (opened : List Bracket) (rest : List Char)
  /-- A value has ended here. -/
  | after (opened : List Bracket) (rest : List Char)

namespace Stage

/-- The text from here on. -/
def rest : Stage → List Char
  | value _ rest | key _ rest | after _ rest => rest

/-- An item of an array or a field of an object starts. -/
def item (b : Bracket) (opened : List Bracket) (rest : List Char) : Stage :=
  match b with
  | .array => value (.array :: opened) rest
  | .object => key (.object :: opened) rest

/-- The step into an array or object, or over it if there is nothing in it. -/
def enter (b : Bracket) (opened : List Bracket) (rest : List Char) : Except Fault Stage :=
  if nestingLimit ≤ opened.length then .error .tooDeep
  else
    match skipSpace rest with
    | [] => .ok (item b opened [])
    | c :: rest => .ok (if c = b.close then after opened rest else item b opened (c :: rest))

/-- The next place, or why there is none.  Behind the whole value there is none. -/
def next : Stage → Except Fault Stage
  | value opened cs =>
    match cs with
    | '"' :: rest => (readString [] rest).map fun r => after opened r.2
    | '[' :: rest => enter .array opened rest
    | '\x7b' :: rest => enter .object opened rest
    | cs =>
      match readWord? cs with
      | some r => .ok (after opened r.2)
      | none => (readNumber cs).map fun r => after opened r.2
  | key opened cs =>
    match cs with
    | '"' :: rest =>
      match readString [] rest with
      | .error e => .error e
      | .ok (_, rest) =>
        match skipSpace rest with
        | ':' :: rest => .ok (value opened (skipSpace rest))
        | _ => .error .malformed
    | _ => .error .malformed
  | after [] _ => .error .malformed
  | after (b :: opened) cs =>
    match skipSpace cs with
    | [] => .error .malformed
    | c :: rest =>
      if c = ',' then .ok (item b opened (skipSpace rest))
      else if c = b.close then .ok (after opened rest)
      else .error .malformed

/-- One place is reached from another by steps. -/
def Reaches : Stage → Stage → Prop :=
  Relation.ReflTransGen fun s t => s.next = .ok t

end Stage

/-! ## What is left of a text -/

lemma length_skipSpace_le (cs : List Char) : (skipSpace cs).length ≤ cs.length :=
  (List.dropWhile_sublist _).length_le

lemma length_of_skipSpace {cs rest : List Char} {c : Char} (h : skipSpace cs = c :: rest) :
    rest.length < cs.length := by
  have hle := length_skipSpace_le cs
  rw [h, List.length_cons] at hle
  omega

/-- The only fault of a string is that it is not well formed. -/
lemma eq_malformed_of_readString {acc cs : List Char} {e : Fault}
    (h : readString acc cs = .error e) : e = .malformed := by
  fun_induction readString acc cs <;> simp_all

lemma length_of_readString {acc cs : List Char} {r : String × List Char}
    (h : readString acc cs = .ok r) : r.2.length < cs.length := by
  fun_induction readString acc cs with
  | case2 acc rest =>
    obtain rfl := Except.ok.inj h
    simp
  | case5 | case6 | case7 | case9 | case10 | case13 =>
    rename_i ih
    have hlt := ih h
    simp only [List.length_cons] at hlt ⊢
    omega
  | case1 | case3 | case4 | case8 | case11 | case12 => cases h

lemma length_of_readWord? {cs : List Char} {r : Value × List Char} (h : readWord? cs = some r) :
    r.2.length < cs.length := by
  have hwords : ∀ word ∈ wordValues, word.1.toList ≠ [] := by simp [wordValues]
  obtain ⟨word, hword, hread⟩ := List.exists_of_findSome?_eq_some h
  obtain ⟨rest, hrest, rfl⟩ := Option.map_eq_some_iff.1 hread
  have hpos := List.length_pos_iff.2 (hwords word hword)
  have hlt : rest.length < (word.1.toList ++ rest).length := by
    rw [List.length_append]
    omega
  rwa [← Text.dropPrefix?_eq_some hrest] at hlt

/-! ## Numerals -/

lemma wholePart_of_head? {body : List Char} (h : body.head? ≠ some '0') :
    wholePart body = body.takeWhile Char.isDigit := by
  unfold wholePart
  split
  · exact absurd rfl h
  · rfl

lemma length_wholePart_le (body : List Char) : (wholePart body).length ≤ body.length := by
  unfold wholePart
  split
  · simp
  · exact (List.takeWhile_sublist _).length_le

/-- A point with a digit behind it starts a fraction. -/
def StartsFraction (cs : List Char) : Prop :=
  ∃ c rest, cs = '.' :: c :: rest ∧ c.isDigit = true

lemma cutFraction_of_startsFraction {cs : List Char} (h : StartsFraction cs) :
    (cutFraction cs).1 ≠ [] ∧ (cutFraction cs).2.length ≤ cs.length := by
  obtain ⟨c, rest, rfl, hc⟩ := h
  rw [cutFraction, if_neg (by simp [hc])]
  refine ⟨by simp [hc], ?_⟩
  simp only [List.length_drop, List.length_cons]
  omega

lemma cutFraction_of_not_startsFraction {cs : List Char} (h : ¬ StartsFraction cs) :
    cutFraction cs = ([], cs) := by
  unfold cutFraction
  split
  · next rest =>
    refine if_pos (List.isEmpty_iff.2 ?_)
    cases rest with
    | nil => rfl
    | cons c rest =>
      rw [List.takeWhile_cons_of_neg]
      exact fun hc => h ⟨c, rest, rfl, hc⟩
  · rfl

lemma length_cutFraction_le (cs : List Char) : (cutFraction cs).2.length ≤ cs.length := by
  by_cases h : StartsFraction cs
  · exact (cutFraction_of_startsFraction h).2
  · simp [cutFraction_of_not_startsFraction h]

lemma length_of_readExponent {cs : List Char} {r : Int × List Char}
    (h : Number.readExponent cs = some r) : r.2.length ≤ cs.length := by
  unfold Number.readExponent at h
  split at h
  · next mark rest =>
    split at h
    · split at h
      rename_i negative rest' hsign
      have hrest : rest'.length ≤ rest.length := by
        split at hsign <;> cases hsign <;> simp
      dsimp only at h
      split at h
      · cases h
      · obtain rfl := Option.some.inj h
        have hdrop := (List.dropWhile_sublist Char.isDigit (l := rest')).length_le
        simp only [List.length_cons]
        omega
    · cases h
  · cases h

/-- The text starts with an integer of too many digits, which no fraction or exponent follows. -/
inductive LongDigits : List Char → Prop
  | intro {digits after : List Char} (hdigits : ∀ c ∈ digits, c.isDigit = true)
      (hlead : digits.head? ≠ some '0') (hlong : digitLimit < digits.length)
      (hend : ∀ c ∈ after.head?, c.isDigit = false) (hfraction : ¬ StartsFraction after)
      (hexponent : Number.readExponent after = none) : LongDigits (digits ++ after)

/-- The same behind a sign, if there is one. -/
def LongInteger (cs : List Char) : Prop :=
  LongDigits cs ∨ ∃ body, cs = '-' :: body ∧ LongDigits body

section Numeral

variable {negative : Bool} {cs : List Char}

lemma length_of_readUnsigned {r : Value × List Char} (h : readUnsigned negative cs = .ok r) :
    r.2.length < cs.length := by
  have hwhole := length_wholePart_le cs
  have hfraction := length_cutFraction_le (cs.drop (wholePart cs).length)
  rw [List.length_drop] at hfraction
  unfold readUnsigned at h
  dsimp only at h
  split at h
  · cases h
  · next hempty =>
    have hpos : 0 < (wholePart cs).length := by
      simpa [List.length_pos_iff] using hempty
    have hrest : (cutFraction (cs.drop (wholePart cs).length)).2.length < cs.length := by omega
    split at h
    · next hexponent =>
      obtain rfl := Except.ok.inj h
      exact Nat.lt_of_le_of_lt (length_of_readExponent hexponent) hrest
    · split at h
      · split at h
        · cases h
        · obtain rfl := Except.ok.inj h
          exact hrest
      · obtain rfl := Except.ok.inj h
        exact hrest

lemma length_of_readNumber {r : Value × List Char} (h : readNumber cs = .ok r) :
    r.2.length < cs.length := by
  unfold readNumber at h
  split at h
  · exact Nat.lt_succ_of_lt (length_of_readUnsigned h)
  · exact length_of_readUnsigned h

lemma wholePart_append {digits after : List Char} (hdigits : ∀ c ∈ digits, c.isDigit = true)
    (hlead : (digits ++ after).head? ≠ some '0') (hend : ∀ c ∈ after.head?, c.isDigit = false) :
    wholePart (digits ++ after) = digits := by
  rw [wholePart_of_head? hlead, Text.takeWhile_append_of_stop hdigits hend]

/-- Digits are counted only if neither a fraction nor an exponent follows them. -/
lemma parts_of_tooManyDigits (h : readUnsigned negative cs = .error .tooManyDigits) :
    digitLimit < (wholePart cs).length ∧
      (cutFraction (cs.drop (wholePart cs).length)).1 = [] ∧
      Number.readExponent (cutFraction (cs.drop (wholePart cs).length)).2 = none := by
  simp only [readUnsigned] at h
  split at h
  · cases h
  · split at h
    · cases h
    · next hexponent =>
      split at h
      · next hcut =>
        split at h
        · next hlong => exact ⟨hlong, List.isEmpty_iff.1 hcut, hexponent⟩
        · cases h
      · cases h

lemma readUnsigned_eq_tooManyDigits_iff :
    readUnsigned negative cs = .error .tooManyDigits ↔ LongDigits cs := by
  constructor
  · intro h
    obtain ⟨hlong, hcut, hexponent⟩ := parts_of_tooManyDigits h
    -- a zero in front would be the whole integer
    have hlead : cs.head? ≠ some '0' := by
      intro hzero
      obtain ⟨rest, rfl⟩ := List.head?_eq_some_iff.1 hzero
      simp [wholePart, digitLimit] at hlong
    have hfraction : ¬ StartsFraction (cs.drop (wholePart cs).length) := fun hstart =>
      (cutFraction_of_startsFraction hstart).1 hcut
    rw [cutFraction_of_not_startsFraction hfraction] at hexponent
    rw [wholePart_of_head? hlead] at hlong hfraction hexponent
    rw [Text.drop_length_takeWhile] at hfraction hexponent
    have hstop := List.head?_dropWhile_not Char.isDigit cs
    have hintro := LongDigits.intro (fun c hc => List.mem_takeWhile_imp hc)
      (by rw [List.head?_takeWhile]; exact fun h => hlead (Option.filter_eq_some_iff.1 h).1) hlong
      (fun c hc => by rw [hc] at hstop; exact hstop) hfraction hexponent
    rwa [List.takeWhile_append_dropWhile] at hintro
  · rintro ⟨hdigits, hlead, hlong, hend, hfraction, hexponent⟩
    next digits after =>
    have hne : digits ≠ [] := by
      rintro rfl
      simp at hlong
    have hwhole : wholePart (digits ++ after) = digits := by
      refine wholePart_append hdigits ?_ hend
      rwa [List.head?_append_of_ne_nil _ hne]
    unfold readUnsigned
    dsimp only
    rw [hwhole, List.drop_left, cutFraction_of_not_startsFraction hfraction]
    simp [hne, hexponent, hlong]

end Numeral

/-! ## Steps go on -/

namespace Stage

@[simp] lemma rest_item (b : Bracket) (opened : List Bracket) (cs : List Char) :
    (item b opened cs).rest = cs := by
  cases b <;> rfl

lemma length_of_enter {b : Bracket} {opened : List Bracket} {cs : List Char} {t : Stage}
    (h : enter b opened cs = .ok t) : t.rest.length ≤ cs.length := by
  have hskip := length_skipSpace_le cs
  unfold enter at h
  split at h
  · cases h
  · split at h <;> obtain rfl := Except.ok.inj h
    · simp
    · next hclose =>
      rw [hclose, List.length_cons] at hskip
      split
      · exact Nat.le_of_succ_le hskip
      · simpa using hskip

lemma length_of_next_value {opened : List Bracket} {cs : List Char} {t : Stage}
    (h : (value opened cs).next = .ok t) : t.rest.length < cs.length := by
  simp only [next] at h
  split at h
  · obtain ⟨r, hr, rfl⟩ := map_eq_ok h
    exact Nat.lt_succ_of_lt (length_of_readString hr)
  · exact Nat.lt_succ_of_le (length_of_enter h)
  · exact Nat.lt_succ_of_le (length_of_enter h)
  · split at h
    · next hword =>
      obtain rfl := Except.ok.inj h
      exact length_of_readWord? hword
    · obtain ⟨r, hr, rfl⟩ := map_eq_ok h
      exact length_of_readNumber hr

lemma length_of_next_key {opened : List Bracket} {cs : List Char} {t : Stage}
    (h : (key opened cs).next = .ok t) : t.rest.length < cs.length := by
  simp only [next] at h
  split at h
  · next body =>
    split at h
    · cases h
    · next after hstring =>
      have hlt := length_of_readString hstring
      split at h
      · next rest hcolon =>
        obtain rfl := Except.ok.inj h
        have hrest := length_of_skipSpace hcolon
        have hskip := length_skipSpace_le rest
        simp only [Stage.rest, List.length_cons] at hlt ⊢
        omega
      · cases h
  · cases h

lemma length_of_next_after {opened : List Bracket} {cs : List Char} {t : Stage}
    (h : (after opened cs).next = .ok t) : t.rest.length < cs.length := by
  cases opened with
  | nil => cases h
  | cons b opened =>
    simp only [next] at h
    split at h
    · cases h
    · next hskip =>
      have hrest := length_of_skipSpace hskip
      split at h
      · obtain rfl := Except.ok.inj h
        rw [rest_item]
        exact Nat.lt_of_le_of_lt (length_skipSpace_le _) hrest
      · split at h
        · obtain rfl := Except.ok.inj h
          exact hrest
        · cases h

/-- Every step leaves less of the text. -/
lemma length_of_next {s t : Stage} (h : s.next = .ok t) : t.rest.length < s.rest.length := by
  cases s with
  | value opened cs => exact length_of_next_value h
  | key opened cs => exact length_of_next_key h
  | after opened cs => exact length_of_next_after h

lemma length_of_reaches {s t : Stage} (h : s.Reaches t) :
    t = s ∨ t.rest.length < s.rest.length := by
  induction h with
  | refl => exact .inl rfl
  | tail _ hnext ih =>
    have hlt := length_of_next hnext
    rcases ih with rfl | ih
    · exact .inr hlt
    · exact .inr (hlt.trans ih)

lemma Reaches.of_next {s t u : Stage} (h : s.next = .ok t) (h' : t.Reaches u) : s.Reaches u :=
  Relation.ReflTransGen.head h h'

/-- There is only one way through a text: the place where it cannot go on is the last one. -/
lemma Reaches.eq_of_error {s t u : Stage} {e e' : Fault} (h : s.Reaches t) (h' : s.Reaches u)
    (ht : t.next = .error e) (hu : u.next = .error e') : t = u := by
  have hstuck {v w : Stage} {e : Fault} (hv : v.next = .error e) (hvw : v.Reaches w) : w = v := by
    rcases hvw.cases_head with rfl | ⟨x, hx, -⟩
    · rfl
    · cases hv.symm.trans hx
  have hright : Relator.RightUnique fun s t : Stage => s.next = .ok t := by
    intro a b c hb hc
    exact Except.ok.inj (hb.symm.trans hc)
  rcases Relation.ReflTransGen.total_of_right_unique hright h h' with htu | hut
  · exact (hstuck ht htu).symm
  · exact hstuck hu hut

/-! ## The reader follows the steps -/

/-- What a reader gives is where the steps lead: to the end of the value that it has read, or to a
place with the fault that it reports.  A reader that may run out of fuel can be refused as malformed
before that. -/
def LeadsTo (s : Stage) (opened : List Bracket) (isEnough : Prop) :
    Except Fault (Value × List Char) → Prop
  | .ok (_, rest) => s.Reaches (after opened rest)
  | .error e => (e = .malformed → isEnough) → ∃ t, s.Reaches t ∧ t.next = .error e

section LeadsTo

variable {s t : Stage} {opened : List Bracket} {isEnough isEnough' : Prop}
  {result : Except Fault (Value × List Char)} {e : Fault}

lemma LeadsTo.of_reaches (h : s.Reaches t) (ht : t.LeadsTo opened isEnough result) :
    s.LeadsTo opened isEnough result := by
  cases result with
  | ok r => exact h.trans ht
  | error e =>
    intro henough
    obtain ⟨u, hu, hnext⟩ := ht henough
    exact ⟨u, h.trans hu, hnext⟩

lemma LeadsTo.of_next (h : s.next = .ok t) (ht : t.LeadsTo opened isEnough result) :
    s.LeadsTo opened isEnough result :=
  ht.of_reaches (.single h)

lemma LeadsTo.mono (h : s.LeadsTo opened isEnough result) (himp : isEnough' → isEnough) :
    s.LeadsTo opened isEnough' result := by
  cases result with
  | ok r => exact h
  | error e => exact fun henough => h fun he => himp (henough he)

lemma leadsTo_error (h : s.next = .error e) : s.LeadsTo opened isEnough (.error e) :=
  fun _ => ⟨s, .refl, h⟩

lemma leadsTo_ok {v : Value} {rest : List Char} (h : s.next = .ok (after opened rest)) :
    s.LeadsTo opened isEnough (.ok (v, rest)) :=
  .single h

end LeadsTo

section Brackets

variable {b : Bracket} {opened : List Bracket} {cs rest : List Char}

lemma enter_of_full (h : nestingLimit ≤ opened.length) : enter b opened cs = .error .tooDeep :=
  if_pos h

lemma enter_of_close (hopened : opened.length < nestingLimit)
    (hclose : skipSpace cs = b.close :: rest) : enter b opened cs = .ok (after opened rest) := by
  simp only [enter, if_neg (Nat.not_le.2 hopened), hclose, if_pos]

lemma enter_of_item (hopened : opened.length < nestingLimit)
    (hclose : ∀ rest, skipSpace cs ≠ b.close :: rest) :
    enter b opened cs = .ok (item b opened (skipSpace cs)) := by
  unfold enter
  rw [if_neg (Nat.not_le.2 hopened)]
  split
  · next hskip => rw [hskip]
  · next c rest hskip =>
    have hne : c ≠ b.close := fun hc => hclose rest (hc ▸ hskip)
    rw [hskip, if_neg hne]

lemma next_of_comma (hcomma : skipSpace cs = ',' :: rest) :
    (after (b :: opened) cs).next = .ok (item b opened (skipSpace rest)) := by
  simp only [next, hcomma, if_pos]

lemma next_of_close (hclose : skipSpace cs = b.close :: rest) :
    (after (b :: opened) cs).next = .ok (after opened rest) := by
  have hne : b.close ≠ ',' := by cases b <;> decide
  simp only [next, hclose, if_neg hne, if_pos]

lemma next_of_other (hcomma : ∀ rest, skipSpace cs ≠ ',' :: rest)
    (hclose : ∀ rest, skipSpace cs ≠ b.close :: rest) :
    (after (b :: opened) cs).next = .error .malformed := by
  simp only [next]
  split
  · rfl
  · next c rest hskip =>
    have hne : c ≠ ',' := fun hc => hcomma rest (hc ▸ hskip)
    have hne' : c ≠ b.close := fun hc => hclose rest (hc ▸ hskip)
    rw [if_neg hne, if_neg hne']

end Brackets

mutual

lemma leadsTo_readValue : ∀ {fuel room : Nat} {opened : List Bracket} {cs : List Char},
    room + opened.length = nestingLimit →
      (value opened cs).LeadsTo opened (2 * cs.length + 1 ≤ fuel) (readValue room fuel cs)
  | 0, room, opened, cs, _ => by
    rw [readValue]
    exact fun henough => absurd (henough rfl) (by omega)
  | fuel + 1, room, opened, cs, hroom => by
    rw [readValue.eq_def]
    dsimp only
    split
    · next rest =>
      cases hread : readString [] rest with
      | error e => exact leadsTo_error (by simp [next, hread, Except.map])
      | ok r => exact leadsTo_ok (by simp [next, hread, Except.map])
    · next rest =>
      have hskip := length_skipSpace_le rest
      split
      · next hfull =>
        have hopened : nestingLimit ≤ opened.length := by simp at hfull; omega
        exact leadsTo_error (enter_of_full hopened)
      · next hfree =>
        have hpos : 0 < room := by simp at hfree; omega
        split
        · next hclose => exact leadsTo_ok (enter_of_close (b := .array) (by omega) hclose)
        · next hclose =>
          refine .of_next (enter_of_item (b := .array) (by omega) hclose)
            ((leadsTo_readItems (by omega)).mono ?_)
          simp only [List.length_cons]
          omega
    · next rest =>
      have hskip := length_skipSpace_le rest
      split
      · next hfull =>
        have hopened : nestingLimit ≤ opened.length := by simp at hfull; omega
        exact leadsTo_error (enter_of_full hopened)
      · next hfree =>
        have hpos : 0 < room := by simp at hfree; omega
        split
        · next hclose => exact leadsTo_ok (enter_of_close (b := .object) (by omega) hclose)
        · next hclose =>
          refine .of_next (enter_of_item (b := .object) (by omega) hclose)
            ((leadsTo_readFields (by omega)).mono ?_)
          simp only [List.length_cons]
          omega
    · next hquote harray hobject =>
      have hnext : (value opened cs).next = match readWord? cs with
          | some r => .ok (after opened r.2)
          | none => (readNumber cs).map fun r => after opened r.2 := by
        simp only [next]
      split
      · next r hword => exact leadsTo_ok (by rw [hnext, hword])
      · next hword =>
        rw [hword] at hnext
        cases hread : readNumber cs with
        | error e => exact leadsTo_error (by simp [hnext, hread, Except.map])
        | ok r => exact leadsTo_ok (by simp [hnext, hread, Except.map])

lemma leadsTo_readItems : ∀ {fuel room : Nat} {opened : List Bracket} {cs : List Char}
    {acc : List Value}, room + 1 + opened.length = nestingLimit →
      (value (.array :: opened) cs).LeadsTo opened (2 * cs.length + 2 ≤ fuel)
        (readItems room fuel acc cs)
  | 0, room, opened, cs, acc, _ => by
    rw [readItems]
    exact fun henough => absurd (henough rfl) (by omega)
  | fuel + 1, room, opened, cs, acc, hroom => by
    have hvalue : (value (.array :: opened) cs).LeadsTo (.array :: opened)
        (2 * cs.length + 1 ≤ fuel)
        (readValue room fuel cs) := leadsTo_readValue (by simp only [List.length_cons]; omega)
    rw [readItems.eq_def]
    dsimp only
    split
    · next hread =>
      rw [hread] at hvalue
      exact fun henough => hvalue fun he => by have := henough he; omega
    · next v rest hread =>
      rw [hread] at hvalue
      refine .of_reaches hvalue ?_
      have hlength : rest.length < cs.length := by
        simpa [Stage.rest] using length_of_reaches hvalue
      split
      · next rest' hcomma =>
        have hlt := length_of_skipSpace hcomma
        have hskip := length_skipSpace_le rest'
        refine .of_next (next_of_comma (b := .array) hcomma) ((leadsTo_readItems hroom).mono ?_)
        omega
      · next rest' hclose => exact leadsTo_ok (next_of_close (b := .array) hclose)
      · next hcomma hclose => exact leadsTo_error (next_of_other (b := .array) hcomma hclose)

lemma leadsTo_readFields : ∀ {fuel room : Nat} {opened : List Bracket} {cs : List Char}
    {acc : List (Value × Value)}, room + 1 + opened.length = nestingLimit →
      (key (.object :: opened) cs).LeadsTo opened (2 * cs.length + 2 ≤ fuel)
        (readFields room fuel acc cs)
  | 0, room, opened, cs, acc, _ => by
    rw [readFields]
    exact fun henough => absurd (henough rfl) (by omega)
  | fuel + 1, room, opened, cs, acc, hroom => by
    rw [readFields.eq_def]
    dsimp only
    split
    · next body =>
      split
      · next hname => exact leadsTo_error (by simp only [next, hname])
      · next rest hname =>
        have hbody : rest.length < body.length := length_of_readString hname
        split
        · next rest' hcolon =>
          have hrest := length_of_skipSpace hcolon
          have hskip := length_skipSpace_le rest'
          have hvalue : (value (.object :: opened) (skipSpace rest')).LeadsTo (.object :: opened)
              (2 * (skipSpace rest').length + 1 ≤ fuel) (readValue room fuel (skipSpace rest')) :=
            leadsTo_readValue (by simp only [List.length_cons]; omega)
          have hnext : (key (.object :: opened) ('"' :: body)).next =
              .ok (value (.object :: opened) (skipSpace rest')) := by
            simp only [next, hname, hcolon]
          refine .of_next hnext ?_
          split
          · next hread =>
            rw [hread] at hvalue
            refine fun henough => hvalue fun he => ?_
            have hfuel := henough he
            simp only [List.length_cons] at hfuel
            omega
          · next after' hread =>
            rw [hread] at hvalue
            refine .of_reaches hvalue ?_
            have hlength : after'.length < (skipSpace rest').length := by
              simpa [Stage.rest] using length_of_reaches hvalue
            split
            · next more hcomma =>
              have hlt := length_of_skipSpace hcomma
              have hskip' := length_skipSpace_le more
              refine .of_next (next_of_comma (b := .object) hcomma)
                ((leadsTo_readFields hroom).mono ?_)
              simp only [List.length_cons]
              omega
            · next hclose => exact leadsTo_ok (next_of_close (b := .object) hclose)
            · next hcomma hclose => exact leadsTo_error (next_of_other (b := .object) hcomma hclose)
        · next hcolon =>
          refine leadsTo_error ?_
          simp only [next, hname]
    · next hquote =>
      refine leadsTo_error ?_
      simp only [next]

end

end Stage

/-! ## Faults of a text -/

open Stage

variable {cs : List Char}

/-- The first place in a text. -/
def start (cs : List Char) : Stage :=
  value [] (skipSpace cs)

lemma leadsTo_read (cs : List Char) : (start cs).LeadsTo [] True
    (readValue nestingLimit (2 * cs.length + 2) (skipSpace cs)) := by
  have hskip := length_skipSpace_le cs
  exact (leadsTo_readValue rfl).mono fun _ => by omega

/-- A text that is read is so because the steps lead to its end, and one that is not read is refused
for the fault of the last place to which they lead. -/
lemma exists_reaches_of_read_eq_error {e : Fault} (h : read cs = .error e) :
    ∃ s, (start cs).Reaches s ∧ s.next = .error e := by
  have hread := leadsTo_read cs
  unfold read at h
  split at h
  · next heq =>
    obtain rfl := Except.error.inj h
    rw [heq] at hread
    exact hread fun _ => trivial
  · next rest heq =>
    rw [heq] at hread
    split at h
    · cases h
    · obtain rfl := Except.error.inj h
      exact ⟨after [] rest, hread, rfl⟩

lemma exists_reaches_of_read_eq_ok {v : Value} (h : read cs = .ok v) :
    ∃ s, (start cs).Reaches s ∧ s.next = .error .malformed := by
  have hread := leadsTo_read cs
  unfold read at h
  split at h
  · cases h
  · next rest heq =>
    rw [heq] at hread
    exact ⟨after [] rest, hread, rfl⟩

lemma read_eq_error_iff {e : Fault} (he : e ≠ .malformed) :
    read cs = .error e ↔ ∃ s, (start cs).Reaches s ∧ s.next = .error e := by
  refine ⟨exists_reaches_of_read_eq_error, ?_⟩
  rintro ⟨s, hs, hnext⟩
  have hfault {t : Stage} {e' : Fault} (ht : (start cs).Reaches t) (hnext' : t.next = .error e') :
      e' = e := by
    rw [ht.eq_of_error hs hnext' hnext, hnext] at hnext'
    exact (Except.error.inj hnext').symm
  cases hread : read cs with
  | ok v =>
    obtain ⟨t, ht, hnext'⟩ := exists_reaches_of_read_eq_ok hread
    exact absurd (hfault ht hnext').symm he
  | error e' =>
    obtain ⟨t, ht, hnext'⟩ := exists_reaches_of_read_eq_error hread
    rw [hfault ht hnext']

/-- At some place another array or object opens where as many are open as may be nested. -/
def TooDeep (cs : List Char) : Prop :=
  ∃ opened rest, (start cs).Reaches (value opened rest) ∧ nestingLimit ≤ opened.length ∧
    (rest.head? = some '[' ∨ rest.head? = some '\x7b')

/-- At some place stands an integer with more digits than are converted. -/
def TooLong (cs : List Char) : Prop :=
  ∃ opened rest, (start cs).Reaches (value opened rest) ∧ LongInteger rest

lemma ne_tooDeep_of_readUnsigned {negative : Bool} {e : Fault}
    (h : readUnsigned negative cs = .error e) : e ≠ .tooDeep := by
  rintro rfl
  simp only [readUnsigned] at h
  repeat' split at h
  all_goals cases h

lemma ne_tooDeep_of_readNumber {e : Fault} (h : readNumber cs = .error e) : e ≠ .tooDeep := by
  unfold readNumber at h
  split at h <;> exact ne_tooDeep_of_readUnsigned h

/-- An array or object may be opened, or it would be nested too deeply. -/
lemma enter_eq_error {b : Bracket} {opened : List Bracket} {e : Fault}
    (h : enter b opened cs = .error e) : e = .tooDeep ∧ nestingLimit ≤ opened.length := by
  unfold enter at h
  split at h
  · next hfull => exact ⟨(Except.error.inj h).symm, hfull⟩
  · split at h <;> cases h

/-- Where a text cannot go on though it is well formed so far. -/
lemma next_eq_error {s : Stage} {e : Fault} (h : s.next = .error e) (he : e ≠ .malformed) :
    ∃ opened rest, s = value opened rest ∧
      ((e = .tooDeep ∧ nestingLimit ≤ opened.length ∧
        (rest.head? = some '[' ∨ rest.head? = some '\x7b')) ∨ readNumber rest = .error e) := by
  cases s with
  | value opened rest =>
    refine ⟨opened, rest, rfl, ?_⟩
    simp only [next] at h
    split at h
    · exact absurd (eq_malformed_of_readString (map_eq_error_iff.1 h)) he
    · exact .inl ⟨(enter_eq_error h).1, (enter_eq_error h).2, .inl rfl⟩
    · exact .inl ⟨(enter_eq_error h).1, (enter_eq_error h).2, .inr rfl⟩
    · split at h
      · cases h
      · exact .inr (map_eq_error_iff.1 h)
  | key opened rest =>
    -- whatever keeps a field from beginning here makes the text malformed
    refine absurd ?_ he
    simp only [next] at h
    split at h
    · split at h
      · next hname =>
        obtain rfl := Except.error.inj h
        exact eq_malformed_of_readString hname
      · split at h
        · cases h
        · exact (Except.error.inj h).symm
    · exact (Except.error.inj h).symm
  | after opened rest =>
    refine absurd ?_ he
    cases opened with
    | nil => exact (Except.error.inj h).symm
    | cons b opened =>
      simp only [next] at h
      split at h
      · exact (Except.error.inj h).symm
      · split at h
        · cases h
        · split at h
          · cases h
          · exact (Except.error.inj h).symm

lemma next_eq_tooDeep_iff {s : Stage} : s.next = .error .tooDeep ↔
    ∃ opened rest, s = value opened rest ∧ nestingLimit ≤ opened.length ∧
      (rest.head? = some '[' ∨ rest.head? = some '\x7b') := by
  constructor
  · intro h
    obtain ⟨opened, rest, rfl, ⟨-, hplace⟩ | hnumber⟩ := next_eq_error h (by decide)
    · exact ⟨opened, rest, rfl, hplace⟩
    · exact absurd rfl (ne_tooDeep_of_readNumber hnumber)
  · rintro ⟨opened, rest, rfl, hfull, hhead | hhead⟩ <;>
      obtain ⟨rest, rfl⟩ := List.head?_eq_some_iff.1 hhead <;>
      exact enter_of_full hfull

lemma LongDigits.exists_cons (h : LongDigits cs) : ∃ c rest, cs = c :: rest ∧ c.isDigit = true := by
  obtain ⟨hdigits, -, hlong, -, -, -⟩ := h
  next digits after =>
  cases digits with
  | nil => simp at hlong
  | cons c digits => exact ⟨c, digits ++ after, rfl, hdigits c (by simp)⟩

lemma readNumber_eq_tooManyDigits_iff :
    readNumber cs = .error .tooManyDigits ↔ LongInteger cs := by
  have hminus {body : List Char} : ¬ LongDigits ('-' :: body) := by
    intro h
    obtain ⟨c, rest, heq, hc⟩ := h.exists_cons
    obtain ⟨rfl, -⟩ := List.cons.inj heq
    exact absurd hc (by decide)
  unfold readNumber
  split
  · next body => simp [readUnsigned_eq_tooManyDigits_iff, LongInteger, hminus]
  · next hsign =>
    rw [readUnsigned_eq_tooManyDigits_iff, LongInteger, or_iff_left]
    rintro ⟨body, rfl, -⟩
    exact hsign body rfl

/-- No word and no string, array or object starts like an integer. -/
lemma LongInteger.next_eq {opened : List Bracket} (h : LongInteger cs) :
    (value opened cs).next = (readNumber cs).map fun r => after opened r.2 := by
  obtain ⟨c, rest, hcs, hc⟩ : ∃ c rest, (cs = c :: rest ∨ cs = '-' :: c :: rest) ∧
      c.isDigit = true := by
    rcases h with h | ⟨body, rfl, h⟩
    · obtain ⟨c, rest, rfl, hc⟩ := h.exists_cons
      exact ⟨c, rest, .inl rfl, hc⟩
    · obtain ⟨c, rest, rfl, hc⟩ := h.exists_cons
      exact ⟨c, rest, .inr rfl, hc⟩
  have hne {d : Char} (hd : d.isDigit = false) : d ≠ c := by
    rintro rfl
    rw [hc] at hd
    cases hd
  -- no word begins with a digit, nor with a minus sign and a digit
  have hword : readWord? cs = none := by
    rw [readWord?, List.findSome?_eq_none_iff]
    intro word hword
    refine Option.map_eq_none_iff.2 (Text.dropPrefix?_eq_none fun hprefix => ?_)
    simp only [wordValues, List.mem_cons, List.not_mem_nil, or_false] at hword
    rcases hword with rfl | rfl | rfl | rfl | rfl | rfl <;> rcases hcs with rfl | rfl <;>
      simp [hne] at hprefix
  have hhead {d : Char} (hd : d.isDigit = false) (hminus : d ≠ '-') (tail : List Char) :
      cs ≠ d :: tail := by
    rcases hcs with rfl | rfl
    · simp [(hne hd).symm]
    · simp [hminus.symm]
  simp only [next]
  split
  · exact absurd rfl (hhead (by decide) (by decide) _)
  · exact absurd rfl (hhead (by decide) (by decide) _)
  · exact absurd rfl (hhead (by decide) (by decide) _)
  · rw [hword]

lemma next_eq_tooManyDigits_iff {s : Stage} : s.next = .error .tooManyDigits ↔
    ∃ opened rest, s = value opened rest ∧ LongInteger rest := by
  constructor
  · intro h
    obtain ⟨opened, rest, rfl, ⟨hdeep, -⟩ | hnumber⟩ := next_eq_error h (by decide)
    · cases hdeep
    · exact ⟨opened, rest, rfl, readNumber_eq_tooManyDigits_iff.1 hnumber⟩
  · rintro ⟨opened, rest, rfl, hlong⟩
    rw [hlong.next_eq, readNumber_eq_tooManyDigits_iff.2 hlong]
    rfl

/-- A text is refused for its depth exactly if it opens too many arrays and objects. -/
lemma read_eq_tooDeep_iff : read cs = .error .tooDeep ↔ TooDeep cs := by
  rw [read_eq_error_iff (by decide), TooDeep]
  constructor
  · rintro ⟨s, hs, hnext⟩
    obtain ⟨opened, rest, rfl, hplace⟩ := next_eq_tooDeep_iff.1 hnext
    exact ⟨opened, rest, hs, hplace⟩
  · rintro ⟨opened, rest, hs, hplace⟩
    exact ⟨_, hs, next_eq_tooDeep_iff.2 ⟨opened, rest, rfl, hplace⟩⟩

/-- A text is refused for an integer exactly if that is too long. -/
lemma read_eq_tooManyDigits_iff : read cs = .error .tooManyDigits ↔ TooLong cs := by
  rw [read_eq_error_iff (by decide), TooLong]
  constructor
  · rintro ⟨s, hs, hnext⟩
    obtain ⟨opened, rest, rfl, hlong⟩ := next_eq_tooManyDigits_iff.1 hnext
    exact ⟨opened, rest, hs, hlong⟩
  · rintro ⟨opened, rest, hs, hlong⟩
    exact ⟨_, hs, next_eq_tooManyDigits_iff.2 ⟨opened, rest, rfl, hlong⟩⟩

end TypedFetch.Json
