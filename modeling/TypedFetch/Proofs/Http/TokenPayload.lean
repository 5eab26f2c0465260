import TypedFetch.Http.Token
import TypedFetch.Proofs.Text.Base64
import TypedFetch.Proofs.Text.Cut

/-!
# Payloads of tokens

A token is read part by part: it must have three of them between points, and the middle one is the
payload.  Reading undoes writing: a payload that is written in base 64 without padding, whatever
stands before and behind it, gives the entries that its bytes hold (`parseToken_undoes_encoding`).
-/

namespace TypedFetch.Http

open TypedFetch.Text (cutAt)

/-! ## Parts -/

/-- A text that consists of three parts between points, of which the middle one is not empty. -/
structure ThreeParts (token header payload signature : List Char) : Prop where
  eq_join : token = header ++ '.' :: (payload ++ '.' :: signature)
  not_mem_header : '.' ∉ header
  not_mem_payload : '.' ∉ payload
  not_mem_signature : '.' ∉ signature
  payload_ne_nil : payload ≠ []

variable {token header payload signature : List Char}

lemma ThreeParts.cutAt (h : ThreeParts token header payload signature) :
    cutAt '.' token = [header, payload, signature] := by
  rw [h.eq_join, Text.cutAt_append h.not_mem_header, Text.cutAt_append h.not_mem_payload,
    Text.cutAt_of_not_mem h.not_mem_signature]

lemma tokenPayload?_eq_some_iff :
    tokenPayload? token = some payload ↔
      ∃ header signature, ThreeParts token header payload signature := by
  constructor
  · intro h
    unfold tokenPayload? at h
    split at h
    · rename_i header payload' signature hcut
      split at h
      · cases h
      · rename_i hempty
        obtain rfl := Option.some.inj h
        have hparts : ∀ part ∈ cutAt '.' token, '.' ∉ part := Text.not_mem_of_mem_cutAt
        rw [hcut] at hparts
        refine ⟨header, signature, ?_, hparts _ (by simp), hparts _ (by simp),
          hparts _ (by simp), by simpa using hempty⟩
        have hjoin := Text.intercalate_cutAt '.' token
        rw [hcut] at hjoin
        simpa [List.intercalate] using hjoin.symm
    · cases h
  · rintro ⟨header, signature, h⟩
    have hempty : payload.isEmpty = false := by simpa using h.payload_ne_nil
    rw [tokenPayload?, h.cutAt]
    simp [hempty]

/-! ## Tokens -/

/-- A token whose payload holds some bytes in base 64. -/
def encodedToken (header signature : String) (bytes : List UInt8) : String :=
  header ++ "." ++ String.ofList (Text.Base64.encodeUrl bytes) ++ "." ++ signature

lemma threeParts_encodedToken {header signature : String} {bytes : List UInt8}
    (hheader : '.' ∉ header.toList) (hsignature : '.' ∉ signature.toList) (hbytes : bytes ≠ []) :
    ThreeParts (encodedToken header signature bytes).toList header.toList
      (Text.Base64.encodeUrl bytes) signature.toList where
  eq_join := by simp [encodedToken]
  not_mem_header := hheader
  not_mem_payload := Text.Base64.point_not_mem_encodeUrl bytes
  not_mem_signature := hsignature
  payload_ne_nil := Text.Base64.encodeUrl_ne_nil hbytes

/-- The bytes of a payload are read back. -/
lemma tokenBytes?_encodedToken {header signature : String} {bytes : List UInt8}
    (hheader : '.' ∉ header.toList) (hsignature : '.' ∉ signature.toList) (hbytes : bytes ≠ []) :
    tokenBytes? (encodedToken header signature bytes).toList = some bytes := by
  have hpayload := tokenPayload?_eq_some_iff.2
    ⟨_, _, threeParts_encodedToken hheader hsignature hbytes⟩
  rw [tokenBytes?, hpayload]
  exact Text.Base64.decode_pad_encodeUrl bytes

lemma ne_nil_of_readBytes {bytes : List UInt8} {v : Value} (h : Json.readBytes bytes = .ok v) :
    bytes ≠ [] := by
  rintro rfl
  have hnone : Json.readBytes [] = .error .malformed := by rfl
  exact absurd (hnone.symm.trans h) (by simp)

/-- **Reading undoes writing.**  Bytes that hold a JSON object are read from the payload of a token
in which they are written in base 64 without padding, between any two parts without points.  A text
that has not three parts, or an empty one in the middle, is refused with status 401. -/
theorem parseToken_undoes_encoding :
    (∀ (header signature : String) (bytes : List UInt8) (entries : List (Value × Value)),
      '.' ∉ header.toList → '.' ∉ signature.toList →
      Json.readBytes bytes = .ok (.map entries) →
        parseToken (encodedToken header signature bytes) = .ok entries) ∧
    ∀ token : String,
      (¬ ∃ header payload signature, ThreeParts token.toList header payload signature) →
        ∃ e, parseToken token = .error (.api e) ∧ e.status = 401 := by
  constructor
  · intro header signature bytes entries hheader hsignature hread
    have hbytes := tokenBytes?_encodedToken hheader hsignature (ne_nil_of_readBytes hread)
    simp only [parseToken, hbytes, hread]
  · intro token hparts
    have hpayload : tokenPayload? token.toList = none := by
      rw [Option.eq_none_iff_forall_ne_some]
      intro payload hpayload
      obtain ⟨header, signature, h⟩ := tokenPayload?_eq_some_iff.1 hpayload
      exact hparts ⟨header, payload, signature, h⟩
    have hbytes : tokenBytes? token.toList = none := by
      rw [tokenBytes?, hpayload]
      rfl
    exact ⟨.authentication "Invalid JWT token format", by simp only [parseToken, hbytes]; rfl, rfl⟩

/-- The text of a payload that says when it expires. -/
def expiryText (digits : String) : String :=
  "\x7b\"exp\":" ++ digits ++ "\x7d"

/-- The bytes of a payload of plain characters. -/
def payloadBytes (s : String) : List UInt8 :=
  s.toList.map fun c => UInt8.ofNat c.toNat

/-- Payloads of nine, ten and eleven bytes are read back, and a token with an empty payload is
refused. -/
theorem parseToken_undoes_encoding_threeLengths :
    [(expiryText "1"), (expiryText "12"), (expiryText "123")].map (·.length % 3) = [0, 1, 2] ∧
    parseToken (encodedToken "h" "" (payloadBytes (expiryText "1"))) =
      .ok [(.text "exp", .int 1)] ∧
    parseToken (encodedToken "" "s" (payloadBytes (expiryText "12"))) =
      .ok [(.text "exp", .int 12)] ∧
    parseToken (encodedToken "h" "s" (payloadBytes (expiryText "123"))) =
      .ok [(.text "exp", .int 123)] ∧
    ∃ e, parseToken "h..s" = .error (.api e) ∧ e.status = 401 := by
  have hread : ∀ e ∈ [("1", (1 : Int)), ("12", 12), ("123", 123)],
      Json.readBytes (payloadBytes (expiryText e.1)) = .ok (.map [(.text "exp", .int e.2)]) := by
    intro e he
    have htext : ∀ e ∈ [("1", (1 : Int)), ("12", 12), ("123", 123)],
        Json.textOfBytes? (payloadBytes (expiryText e.1)) = some (expiryText e.1).toList := by
      decide +kernel
    rw [Json.readBytes, htext e he]
    simp only [List.mem_cons, List.not_mem_nil, or_false] at he
    rcases he with rfl | rfl | rfl <;>
      simp [expiryText, Json.read, Json.skipSpace, Json.isSpace, Json.readValue,
        Json.nestingLimit, Json.readFields, Json.readString, Json.readWord?, Json.wordValues,
        Text.dropPrefix?, Json.readNumber, Json.readUnsigned,
        Json.wholePart, Json.cutFraction, Number.readExponent, Json.digitLimit, Number.signed,
        Number.digitsValue, Value.collect, Value.insertEntry]
  have hparse := parseToken_undoes_encoding.1
  refine ⟨by decide, hparse _ _ _ _ (by decide) (by decide) (hread ("1", 1) (by simp)),
    hparse _ _ _ _ (by decide) (by decide) (hread ("12", 12) (by simp)),
    hparse _ _ _ _ (by decide) (by decide) (hread ("123", 123) (by simp)),
    parseToken_undoes_encoding.2 _ ?_⟩
  rintro ⟨header, payload, signature, h⟩
  have hcut : [header, payload, signature] = [['h'], [], ['s']] := h.cutAt.symm.trans (by decide)
  exact h.payload_ne_nil (by simpa using (List.cons.inj (List.cons.inj hcut).2).1)

end TypedFetch.Http
