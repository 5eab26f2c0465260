import Mathlib.Data.List.Basic
import TypedFetch.Proofs.Attempts
import TypedFetch.Text.Utf8

/-!
# Decoding undoes encoding

Bytes are decoded to a text exactly if they are what the text is encoded to
(`decodeUtf8_eq_ok_iff`).  One character is decoded from as many bytes as it is encoded to, whatever
stands behind them.
-/

namespace TypedFetch.Text

/-! ## Bytes and characters by their numbers -/

/-- The number is that of a character. -/
def IsScalar (n : Nat) : Prop :=
  n < 0xD800 ∨ 0xDFFF < n ∧ n < 0x110000

lemma isScalar_toNat (c : Char) : IsScalar c.toNat :=
  c.valid

lemma toNat_ofNat {n : Nat} (h : IsScalar n) : (Char.ofNat n).val.toNat = n := by
  have hn : n.isValidChar := h
  rw [Char.ofNat, dif_pos hn]
  rfl

lemma ofNat_toNat_eq {b : UInt8} {n : Nat} (h : b.toNat = n) : UInt8.ofNat n = b := by
  rw [← h, UInt8.ofNat_toNat]

lemma exists_byte {n : Nat} (h : n < 256) : ∃ b : UInt8, b.toNat = n :=
  ⟨UInt8.ofNat n, by rw [UInt8.toNat_ofNat', Nat.mod_eq_of_lt h]⟩

lemma isContinuation_iff {b : UInt8} :
    isContinuation b = true ↔ 0x80 ≤ b.toNat ∧ b.toNat < 0xC0 := by
  rw [isContinuation, Bool.and_eq_true, decide_eq_true_eq, decide_eq_true_eq, UInt8.le_iff_toNat_le,
    UInt8.lt_iff_toNat_lt]
  rfl

/-- The first byte is that at one of the ends of its range. -/
lemma ite_beq_iff {p : Prop} [Decidable p] {b x y : UInt8} :
    (if p then b == x else b == y) = true ↔
      p ∧ b.toNat = x.toNat ∨ ¬ p ∧ b.toNat = y.toNat := by
  split <;> simp_all [← UInt8.toNat_inj]

/-! ## One character -/

/-- The bytes of the character with a number, by how many there are. -/
inductive Encodes (n : Nat) : List UInt8 → Prop
  | one {b : UInt8} : n < 0x80 → b.toNat = n → Encodes n [b]
  | two {b c : UInt8} : 0x80 ≤ n → n < 0x800 → b.toNat = n / 64 + 192 →
      c.toNat = n % 64 + 128 → Encodes n [b, c]
  | three {b c d : UInt8} : IsScalar n → 0x800 ≤ n → n < 0x10000 → b.toNat = n / 4096 + 224 →
      c.toNat = n / 64 % 64 + 128 → d.toNat = n % 64 + 128 → Encodes n [b, c, d]
  | four {b c d e : UInt8} : 0x10000 ≤ n → n < 0x110000 → b.toNat = n / 262144 + 240 →
      c.toNat = n / 4096 % 64 + 128 → d.toNat = n / 64 % 64 + 128 → e.toNat = n % 64 + 128 →
      Encodes n [b, c, d, e]

section Encoding

variable {n : Nat} {bytes more rest : List UInt8} {b : UInt8}

/-- The number of every character has its bytes. -/
lemma exists_encodes (hn : IsScalar n) : ∃ b more, Encodes n (b :: more) := by
  have hmax : n < 0x110000 := by
    rw [IsScalar] at hn
    omega
  by_cases h1 : n < 0x80
  · obtain ⟨b, hb⟩ := exists_byte (n := n) (by omega)
    exact ⟨b, [], .one h1 hb⟩
  by_cases h2 : n < 0x800
  · obtain ⟨b, hb⟩ := exists_byte (n := n / 64 + 192) (by omega)
    obtain ⟨c, hc⟩ := exists_byte (n := n % 64 + 128) (by omega)
    exact ⟨b, [c], .two (by omega) h2 hb hc⟩
  by_cases h3 : n < 0x10000
  · obtain ⟨b, hb⟩ := exists_byte (n := n / 4096 + 224) (by omega)
    obtain ⟨c, hc⟩ := exists_byte (n := n / 64 % 64 + 128) (by omega)
    obtain ⟨d, hd⟩ := exists_byte (n := n % 64 + 128) (by omega)
    exact ⟨b, [c, d], .three hn (by omega) h3 hb hc hd⟩
  · obtain ⟨b, hb⟩ := exists_byte (n := n / 262144 + 240) (by omega)
    obtain ⟨c, hc⟩ := exists_byte (n := n / 4096 % 64 + 128) (by omega)
    obtain ⟨d, hd⟩ := exists_byte (n := n / 64 % 64 + 128) (by omega)
    obtain ⟨e, he⟩ := exists_byte (n := n % 64 + 128) (by omega)
    exact ⟨b, [c, d, e], .four (by omega) hmax hb hc hd he⟩

lemma utf8EncodeChar_of_encodes (h : Encodes n bytes) :
    String.utf8EncodeChar (Char.ofNat n) = bytes := by
  cases h with
  | one h hb =>
    have hn := toNat_ofNat (n := n) (.inl (by omega))
    simp only [String.utf8EncodeChar, hn]
    rw [if_pos (by omega), ofNat_toNat_eq hb]
  | two h h' hb hc =>
    have hn := toNat_ofNat (n := n) (.inl (by omega))
    simp only [String.utf8EncodeChar, hn]
    rw [if_neg (by omega), if_pos (by omega), Nat.mod_eq_of_lt (by omega : n / 64 < 32),
      ofNat_toNat_eq hb, ofNat_toNat_eq hc]
  | three hn h h' hb hc hd =>
    simp only [String.utf8EncodeChar, toNat_ofNat hn]
    rw [if_neg (by omega), if_neg (by omega), if_pos (by omega),
      Nat.mod_eq_of_lt (by omega : n / 4096 < 16), ofNat_toNat_eq hb, ofNat_toNat_eq hc,
      ofNat_toNat_eq hd]
  | four h h' hb hc hd he =>
    have hn := toNat_ofNat (n := n) (.inr (by omega))
    simp only [String.utf8EncodeChar, hn]
    rw [if_neg (by omega), if_neg (by omega), if_neg (by omega),
      Nat.mod_eq_of_lt (by omega : n / 262144 < 8), ofNat_toNat_eq hb, ofNat_toNat_eq hc,
      ofNat_toNat_eq hd, ofNat_toNat_eq he]

/-- The bytes of a character are decoded as this character, whatever stands behind them. -/
lemma decodeOne_of_encodes (h : Encodes n (b :: more)) (rest : List UInt8) :
    decodeOne b (more ++ rest) = .ok (Char.ofNat n, more.length + 1) := by
  cases h with
  | one h hb => simp [decodeOne, UInt8.lt_iff_toNat_lt, hb, h]
  | @two _ c h h' hb hc =>
    have hsum : (b.toNat - 192) * 64 + c.toNat % 64 = n := by omega
    simp only [decodeOne, UInt8.lt_iff_toNat_lt, UInt8.reduceToNat, List.cons_append]
    rw [if_neg (by omega), if_neg (by omega), if_pos (by omega),
      if_pos (isContinuation_iff.2 (by omega)), hsum]
    rfl
  | @three _ c d hn h h' hb hc hd =>
    rw [IsScalar] at hn
    have hsum : (b.toNat - 224) * 4096 + c.toNat % 64 * 64 + d.toNat % 64 = n := by omega
    simp only [decodeOne, UInt8.lt_iff_toNat_lt, UInt8.reduceToNat, List.cons_append,
      Bool.or_eq_true, Bool.not_eq_true', ← Bool.not_eq_true, isContinuation_iff, ite_beq_iff]
    rw [if_neg (by omega), if_neg (by omega), if_neg (by omega), if_pos (by omega),
      if_neg (by omega), if_pos (by omega), hsum]
    rfl
  | @four _ c d e h h' hb hc hd he =>
    have hsum : (b.toNat - 240) * 262144 + c.toNat % 64 * 4096 + d.toNat % 64 * 64 +
        e.toNat % 64 = n := by omega
    simp only [decodeOne, UInt8.lt_iff_toNat_lt, UInt8.reduceToNat, List.cons_append,
      Bool.or_eq_true, Bool.not_eq_true', ← Bool.not_eq_true, isContinuation_iff, ite_beq_iff]
    rw [if_neg (by omega), if_neg (by omega), if_neg (by omega), if_neg (by omega),
      if_pos (by omega), if_neg (by omega), if_neg (by omega), if_pos (by omega), hsum]
    rfl

/-- A character is decoded from its bytes. -/
lemma encodes_of_decodeOne {ch : Char} {width : Nat} (h : decodeOne b rest = .ok (ch, width)) :
    ∃ n more after, Encodes n (b :: more) ∧ ch = Char.ofNat n ∧ rest = more ++ after ∧
      more.length + 1 = width := by
  have hb := b.toNat_lt
  unfold decodeOne at h
  simp only [UInt8.lt_iff_toNat_lt, UInt8.reduceToNat, Bool.or_eq_true, Bool.not_eq_true',
    ← Bool.not_eq_true, isContinuation_iff, ite_beq_iff] at h
  split at h
  · next hlt =>
    obtain ⟨rfl, rfl⟩ := Prod.mk.inj (Except.ok.inj h)
    exact ⟨_, [], rest, .one hlt rfl, rfl, rfl, rfl⟩
  split at h
  · cases h
  split at h
  · split at h
    · cases h
    · next c after =>
      split at h
      · obtain ⟨rfl, rfl⟩ := Prod.mk.inj (Except.ok.inj h)
        exact ⟨_, [c], after, .two (by omega) (by omega) (by omega) (by omega), rfl, rfl, rfl⟩
      · cases h
  split at h
  · split at h
    · cases h
    · next c rest =>
      split at h
      · cases h
      split at h
      · cases h
      · next d after =>
        split at h
        · obtain ⟨rfl, rfl⟩ := Prod.mk.inj (Except.ok.inj h)
          refine ⟨_, [c, d], after, .three ?_ ?_ ?_ ?_ ?_ ?_, rfl, rfl, rfl⟩
          · rw [IsScalar]
            omega
          all_goals omega
        · cases h
  split at h
  · split at h
    · cases h
    · next c rest =>
      split at h
      · cases h
      split at h
      · cases h
      · next d rest =>
        split at h
        · cases h
        split at h
        · cases h
        · next e after =>
          split at h
          · obtain ⟨rfl, rfl⟩ := Prod.mk.inj (Except.ok.inj h)
            exact ⟨_, [c, d, e], after, .four (by omega) (by omega) (by omega) (by omega)
              (by omega) (by omega), rfl, rfl, rfl⟩
          · cases h
  · cases h

end Encoding

/-- A character is decoded from bytes that it is encoded to. -/
lemma utf8EncodeChar_of_decodeOne {b : UInt8} {rest : List UInt8} {ch : Char} {width : Nat}
    (h : decodeOne b rest = .ok (ch, width)) :
    ∃ more after, rest = more ++ after ∧ more.length + 1 = width ∧
      String.utf8EncodeChar ch = b :: more := by
  obtain ⟨n, more, after, hbytes, rfl, hrest, hwidth⟩ := encodes_of_decodeOne h
  exact ⟨more, after, hrest, hwidth, utf8EncodeChar_of_encodes hbytes⟩

/-- What a character is encoded to is decoded as this character. -/
lemma decodeOne_of_utf8EncodeChar (ch : Char) (rest : List UInt8) :
    ∃ b more, String.utf8EncodeChar ch = b :: more ∧
      decodeOne b (more ++ rest) = .ok (ch, more.length + 1) := by
  obtain ⟨n, hn, rfl⟩ : ∃ n, IsScalar n ∧ Char.ofNat n = ch :=
    ⟨ch.toNat, isScalar_toNat ch, Char.ofNat_toNat ch⟩
  obtain ⟨b, more, hbytes⟩ := exists_encodes hn
  exact ⟨b, more, utf8EncodeChar_of_encodes hbytes, decodeOne_of_encodes hbytes rest⟩

/-! ## Texts -/

lemma decodeFrom_skip {position : Nat} (front rest : List UInt8) :
    decodeFrom position front.length (front ++ rest) =
      decodeFrom (position + front.length) 0 rest := by
  induction front generalizing position with
  | nil => rfl
  | cons b front ih =>
    rw [List.length_cons, List.cons_append, decodeFrom, ih]
    congr 1
    omega

/-- The first character, and then what stands behind its bytes. -/
lemma decodeFrom_of_decodeOne {position : Nat} {b : UInt8} {more rest : List UInt8} {ch : Char}
    (h : decodeOne b (more ++ rest) = .ok (ch, more.length + 1)) :
    decodeFrom position 0 (b :: (more ++ rest)) =
      (decodeFrom (position + 1 + more.length) 0 rest).map (ch :: ·) := by
  rw [decodeFrom, h]
  dsimp only
  rw [Nat.add_sub_cancel, decodeFrom_skip]

lemma eq_flatMap_of_decodeFrom {position : Nat} {bytes : List UInt8} {cs : List Char}
    (h : decodeFrom position 0 bytes = .ok cs) : bytes = cs.flatMap String.utf8EncodeChar := by
  match bytes with
  | [] =>
    obtain rfl := Except.ok.inj h
    rfl
  | b :: rest =>
    cases hone : decodeOne b rest with
    | error fault =>
      rw [decodeFrom, hone] at h
      cases h
    | ok found =>
      obtain ⟨ch, width⟩ := found
      obtain ⟨more, after, rfl, rfl, hencode⟩ := utf8EncodeChar_of_decodeOne hone
      rw [decodeFrom_of_decodeOne hone] at h
      obtain ⟨cs, hcs, rfl⟩ := map_eq_ok h
      have hlength : after.length < (b :: (more ++ after)).length := by
        simp only [List.length_cons, List.length_append]
        omega
      rw [List.flatMap_cons, hencode, ← eq_flatMap_of_decodeFrom hcs]
      rfl
termination_by bytes.length

lemma decodeFrom_flatMap {position : Nat} (cs : List Char) :
    decodeFrom position 0 (cs.flatMap String.utf8EncodeChar) = .ok cs := by
  induction cs generalizing position with
  | nil => rfl
  | cons ch cs ih =>
    obtain ⟨b, more, hencode, hone⟩ :=
      decodeOne_of_utf8EncodeChar ch (cs.flatMap String.utf8EncodeChar)
    rw [List.flatMap_cons, hencode, List.cons_append, decodeFrom_of_decodeOne hone, ih]
    rfl

/-- Bytes are decoded to a text exactly if the text is encoded to them. -/
theorem decodeUtf8_eq_ok_iff {bytes : List UInt8} {cs : List Char} :
    decodeUtf8 bytes = .ok cs ↔ bytes = cs.flatMap String.utf8EncodeChar := by
  refine ⟨eq_flatMap_of_decodeFrom, ?_⟩
  rintro rfl
  exact decodeFrom_flatMap cs

end TypedFetch.Text
