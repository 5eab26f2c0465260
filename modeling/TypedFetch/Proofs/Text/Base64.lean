import Mathlib.Tactic.Lemma
import TypedFetch.Text.Base64

/-!
# Base 64 read back

Bytes that are written in base 64 for addresses, without padding, are read back once the padding is
restored.  How much of it is missing shows in the length of the text alone: three bytes make four
digits, and one or two bytes at the end make two or three.  The main statement is
`decode_pad_encodeUrl`.
-/

namespace TypedFetch.Text.Base64

/-! ## Digits -/

/-- The digits are characters of ASCII, and neither the padding nor a point is among them. -/
lemma urlDigit_cases {n : Nat} (hn : n < 64) :
    digit? (urlDigit n) = some n ∧ urlDigit n ≠ '=' ∧ urlDigit n ≠ '.' ∧
      (urlDigit n).toNat < 128 := by
  revert n
  decide

variable {g : Group} {pads : Nat} {cs : List Char}

lemma decodeFrom_urlDigit {n : Nat} (hn : n < 64) :
    decodeFrom g pads (urlDigit n :: cs) =
      (decodeFrom (g.push n).2 0 cs).map ((g.push n).1 ++ ·) := by
  obtain ⟨hdigit, hpad, -⟩ := urlDigit_cases hn
  rw [decodeFrom]
  simp only [beq_iff_eq, hpad, ↓reduceIte, hdigit]

/-- Two characters of padding complete a group of two digits. -/
lemma decodeFrom_two_pads (left : Nat) : decodeFrom (.two left) 0 ['=', '='] = some [] := rfl

/-- One character of padding completes a group of three digits. -/
lemma decodeFrom_one_pad (left : Nat) : decodeFrom (.three left) 0 ['='] = some [] := rfl

/-! ## Bytes -/

lemma encodeUrl_one (a : UInt8) :
    encodeUrl [a] = [urlDigit (a.toNat / 4), urlDigit (a.toNat % 4 * 16)] :=
  rfl

lemma encodeUrl_two (a b : UInt8) :
    encodeUrl [a, b] = [urlDigit (a.toNat / 4), urlDigit (a.toNat % 4 * 16 + b.toNat / 16),
      urlDigit (b.toNat % 16 * 4)] :=
  rfl

lemma encodeUrl_three (a b c : UInt8) (rest : List UInt8) :
    encodeUrl (a :: b :: c :: rest) =
      urlDigit (a.toNat / 4) :: urlDigit (a.toNat % 4 * 16 + b.toNat / 16) ::
        urlDigit (b.toNat % 16 * 4 + c.toNat / 64) :: urlDigit (c.toNat % 64) ::
          encodeUrl rest :=
  rfl

/-- A byte is put together from the bits that two digits hold of it. -/
lemma ofNat_joined {b : UInt8} {n : Nat} (h : n = b.toNat) : UInt8.ofNat n = b := by
  rw [h, UInt8.ofNat_toNat]

section Bytes

variable (a b c : UInt8)

lemma decodeFrom_one_byte :
    decodeFrom .start 0 (encodeUrl [a] ++ ['=', '=']) = some [a] := by
  have ha := a.toNat_lt
  simp only [encodeUrl_one, List.cons_append, List.nil_append]
  rw [decodeFrom_urlDigit (by omega), Group.push, decodeFrom_urlDigit (by omega), Group.push,
    decodeFrom_two_pads]
  simp only [Option.map_some, List.append_nil, List.nil_append]
  rw [ofNat_joined (b := a) (by omega)]

lemma decodeFrom_two_bytes :
    decodeFrom .start 0 (encodeUrl [a, b] ++ ['=']) = some [a, b] := by
  have ha := a.toNat_lt
  have hb := b.toNat_lt
  simp only [encodeUrl_two, List.cons_append, List.nil_append]
  rw [decodeFrom_urlDigit (by omega), Group.push, decodeFrom_urlDigit (by omega), Group.push,
    decodeFrom_urlDigit (by omega), Group.push, decodeFrom_one_pad]
  simp only [Option.map_some, List.nil_append, List.cons_append]
  rw [ofNat_joined (b := a) (by omega), ofNat_joined (b := b) (by omega)]

/-- Four digits give three bytes, and reading starts anew. -/
lemma decodeFrom_three_bytes (rest : List UInt8) :
    decodeFrom .start 0 (encodeUrl (a :: b :: c :: rest) ++ cs) =
      (decodeFrom .start 0 (encodeUrl rest ++ cs)).map ([a, b, c] ++ ·) := by
  have ha := a.toNat_lt
  have hb := b.toNat_lt
  have hc := c.toNat_lt
  simp only [encodeUrl_three, List.cons_append]
  rw [decodeFrom_urlDigit (by omega), Group.push, decodeFrom_urlDigit (by omega), Group.push,
    decodeFrom_urlDigit (by omega), Group.push, decodeFrom_urlDigit (by omega), Group.push]
  simp only [Option.map_map, Function.comp_def, List.nil_append, List.cons_append]
  rw [ofNat_joined (b := a) (by omega), ofNat_joined (b := b) (by omega),
    ofNat_joined (b := c) (by omega)]

end Bytes

/-! ## Texts -/

/-- The padding that a text with this many characters lacks. -/
def missingPads (length : Nat) : List Char :=
  List.replicate ((4 - length % 4) % 4) '='

lemma pad_eq : pad cs = cs ++ missingPads cs.length := rfl

lemma decodeFrom_encodeUrl (bytes : List UInt8) :
    decodeFrom .start 0 (pad (encodeUrl bytes)) = some bytes := by
  induction bytes using encodeUrl.induct with
  | case1 => rfl
  | case2 a => exact decodeFrom_one_byte a
  | case3 a b => exact decodeFrom_two_bytes a b
  | case4 a b c rest ih =>
    -- four more digits lack the same padding
    have hpads : missingPads (encodeUrl (a :: b :: c :: rest)).length =
        missingPads (encodeUrl rest).length := by
      simp only [missingPads, encodeUrl_three, List.length_cons]
      congr 2
      omega
    rw [pad_eq] at ih ⊢
    rw [decodeFrom_three_bytes, hpads, ih]
    rfl

lemma exists_of_mem_encodeUrl {bytes : List UInt8} {ch : Char} (h : ch ∈ encodeUrl bytes) :
    ∃ n < 64, ch = urlDigit n := by
  induction bytes using encodeUrl.induct with
  | case1 => exact absurd h List.not_mem_nil
  | case2 a =>
    have ha := a.toNat_lt
    simp only [encodeUrl_one, List.mem_cons, List.not_mem_nil, or_false] at h
    rcases h with rfl | rfl <;> exact ⟨_, by omega, rfl⟩
  | case3 a b =>
    have ha := a.toNat_lt
    have hb := b.toNat_lt
    simp only [encodeUrl_two, List.mem_cons, List.not_mem_nil, or_false] at h
    rcases h with rfl | rfl | rfl <;> exact ⟨_, by omega, rfl⟩
  | case4 a b c rest ih =>
    have ha := a.toNat_lt
    have hb := b.toNat_lt
    have hc := c.toNat_lt
    simp only [encodeUrl_three, List.mem_cons] at h
    rcases h with rfl | rfl | rfl | rfl | h
    · exact ⟨_, by omega, rfl⟩
    · exact ⟨_, by omega, rfl⟩
    · exact ⟨_, by omega, rfl⟩
    · exact ⟨_, by omega, rfl⟩
    · exact ih h

/-- Bytes without padding hold no point. -/
lemma point_not_mem_encodeUrl (bytes : List UInt8) : '.' ∉ encodeUrl bytes := by
  intro h
  obtain ⟨n, hn, hpoint⟩ := exists_of_mem_encodeUrl h
  exact (urlDigit_cases hn).2.2.1 hpoint.symm

lemma encodeUrl_ne_nil {bytes : List UInt8} (h : bytes ≠ []) : encodeUrl bytes ≠ [] := by
  match bytes with
  | [] => exact absurd rfl h
  | [_] | [_, _] | _ :: _ :: _ :: _ => exact List.cons_ne_nil _ _

/-- Bytes are read back from their digits, once the padding is restored. -/
theorem decode_pad_encodeUrl (bytes : List UInt8) :
    decode (pad (encodeUrl bytes)) = some bytes := by
  have hascii : (pad (encodeUrl bytes)).all (fun c => c.toNat < 128) = true := by
    rw [List.all_eq_true]
    intro ch hch
    rw [pad, List.mem_append] at hch
    rcases hch with hch | hch
    · obtain ⟨n, hn, rfl⟩ := exists_of_mem_encodeUrl hch
      exact decide_eq_true (urlDigit_cases hn).2.2.2
    · rw [List.eq_of_mem_replicate hch]
      rfl
  rw [decode, if_pos hascii, decodeFrom_encodeUrl]

example : encodeUrl [0xFB, 0xFF, 0x4D, 0x61] = "-_9NYQ".toList := by decide

end TypedFetch.Text.Base64
