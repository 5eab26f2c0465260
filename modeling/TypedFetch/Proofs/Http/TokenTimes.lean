import TypedFetch.Proofs.Attempts
import TypedFetch.Proofs.Json.Reading
import TypedFetch.Proofs.Number.Double
import TypedFetch.Proofs.Time.Calendar
import TypedFetch.Http.Token

/-!
# When tokens expire

What a token says about its expiry may be anything, and questions about it have an answer for most
tokens, but not for all.  `tokenTimes_iff` tells for each question which these are: no question is
answered where the payload is nested too deeply or an integer is too large for a double, and the
later ones are not answered either where the time is no date, or where the time that is left is not
finite.
-/

namespace TypedFetch.Http

/-! ## What a token says -/

/-- The text that the payload of a token holds. -/
def payloadText? (token : String) : Option (List Char) :=
  (tokenBytes? token.toList).bind Json.textOfBytes?

/-- An entry of the payload of a token. -/
def payloadValue? (token key : String) : Option Value :=
  (parseToken token).toOption.bind (Value.lookup · key)

/-- What a token says about its expiry can be read: the payload is not nested too deeply, and an
integer is not too large for a double. -/
structure HasReadableExpiry (token : String) : Prop where
  depth : ∀ text, payloadText? token = some text → ¬ Json.TooDeep text
  size : ∀ i, payloadValue? token "exp" = some (.int i) → i.natAbs < Number.overflowLimit

/-- A token says that it expires at a point in time. -/
def ExpiresAt (token : String) (x : Float) : Prop :=
  ∃ v, payloadValue? token "exp" = some v ∧ numberOf v = .ok (some x)

/-- The seconds that a double counts, rounded to microseconds, lie in the years from 1 to 9999. -/
def HasDate (x : Float) : Prop :=
  ∃ seconds micros, splitSeconds x = .ok (seconds, micros) ∧
    -62135596800 ≤ seconds ∧ seconds ≤ 253402300799

variable {token : String} {x : Float}

/-! ## Reading the expiry -/

lemma parseToken_eq_tooDeep_iff : parseToken token = .error .tooDeep ↔
    ∃ text, payloadText? token = some text ∧ Json.TooDeep text := by
  unfold parseToken payloadText?
  cases hbytes : tokenBytes? token.toList with
  | none => simp [badToken]
  | some bytes =>
    cases htext : Json.textOfBytes? bytes with
    | none => simp [badToken, Json.readBytes, htext]
    | some text =>
      have hread : Json.readBytes bytes = Json.read text := by rw [Json.readBytes, htext]
      simp only [Option.bind_some, htext, hread, Option.some.injEq, exists_eq_left',
        ← Json.read_eq_tooDeep_iff]
      split <;> simp_all [badToken]

/-- A token that is not parsed has no right form, or its payload is nested too deeply. -/
lemma parseToken_eq_error {e : Failure} (h : parseToken token = .error e) :
    (∃ error, e = .api error) ∨ e = .tooDeep := by
  unfold parseToken at h
  split at h
  · exact .inl ⟨_, (Except.error.inj h).symm⟩
  · split at h
    · cases h
    · exact .inr (Except.error.inj h).symm
    · exact .inl ⟨_, (Except.error.inj h).symm⟩

lemma exists_numberOf_iff {v : Value} :
    (∃ found, numberOf v = .ok found) ↔ ∀ i, v = .int i → i.natAbs < Number.overflowLimit := by
  unfold numberOf
  split
  · simp
  · next i =>
    by_cases hlarge : Number.overflowLimit ≤ i.natAbs
    · simp [Number.ofInt?, hlarge]
    · simp [Number.ofInt?, hlarge, Nat.lt_of_not_le hlarge]
  · simp
  · next hint _ => simpa using fun i hv => absurd hv (hint i)

/-- Without an entry there is nothing to be read. -/
lemma numberOf_getD (v : Option Value) :
    numberOf (v.getD .null) = (v.elim (.ok none) numberOf) := by
  cases v <;> rfl

lemma expiry_of_parseToken {entries : List (Value × Value)} (h : parseToken token = .ok entries) :
    expiry token = ((payloadValue? token "exp").elim (.ok none) numberOf).map some := by
  rw [expiry, payloadValue?, h, ← numberOf_getD]
  rfl

lemma payloadValue?_of_error {e : Failure} (key : String) (h : parseToken token = .error e) :
    payloadValue? token key = none := by
  rw [payloadValue?, h]
  rfl

lemma exists_expiry_iff : (∃ found, expiry token = .ok found) ↔ HasReadableExpiry token := by
  have hdepth : (∀ text, payloadText? token = some text → ¬ Json.TooDeep text) ↔
      parseToken token ≠ .error .tooDeep := by
    rw [ne_eq, parseToken_eq_tooDeep_iff]
    simp
  cases hparse : parseToken token with
  | error e =>
    have hentry := payloadValue?_of_error "exp" hparse
    rcases parseToken_eq_error hparse with ⟨error, rfl⟩ | rfl
    · refine iff_of_true ⟨none, by rw [expiry, hparse]⟩ ⟨hdepth.2 (by simp [hparse]), ?_⟩
      simp [hentry]
    · refine iff_of_false (by simp [expiry, hparse]) fun h => hdepth.1 h.depth hparse
  | ok entries =>
    have hread : HasReadableExpiry token ↔
        ∀ i, payloadValue? token "exp" = some (.int i) → i.natAbs < Number.overflowLimit :=
      ⟨HasReadableExpiry.size, fun h => ⟨hdepth.2 (by simp [hparse]), h⟩⟩
    rw [hread, expiry_of_parseToken hparse]
    cases payloadValue? token "exp" with
    | none => simp [Except.map]
    | some v =>
      simp only [Option.elim_some, Option.some.injEq]
      rw [← exists_numberOf_iff]
      cases numberOf v <;> simp [Except.map]

lemma expiry_eq_some_iff : expiry token = .ok (some (some x)) ↔ ExpiresAt token x := by
  cases hparse : parseToken token with
  | error e =>
    have hentry := payloadValue?_of_error "exp" hparse
    rcases parseToken_eq_error hparse with ⟨error, rfl⟩ | rfl <;>
      simp [expiry, ExpiresAt, hparse, hentry]
  | ok entries =>
    rw [expiry_of_parseToken hparse, ExpiresAt]
    cases payloadValue? token "exp" with
    | none => simp [Except.map]
    | some v => cases hv : numberOf v <;> simp [Except.map, hv]

/-! ## Points in time -/

lemma exists_integerPart_iff : (∃ n, integerPart x = .ok n) ↔ x.isFinite = true := by
  rw [Number.isFinite_iff, integerPart]
  split <;> simp_all

/-- The seconds of the years from 1 to 9999 are those of the days that have a date in them. -/
lemma exists_ofSeconds?_iff {seconds : Int} {micros : Nat} :
    (∃ t, Time.Instant.ofSeconds? seconds micros = some t) ↔
      -62135596800 ≤ seconds ∧ seconds ≤ 253402300799 := by
  have hdays : (-719162 ≤ seconds / 86400 ∧ seconds / 86400 ≤ 2932896) ↔
      -62135596800 ≤ seconds ∧ seconds ≤ 253402300799 := by omega
  rw [← hdays, ← Time.isValid_ofDays_iff, Time.Instant.ofSeconds?]
  split <;> simp_all

lemma exists_instantOf_iff : (∃ v, instantOf x = .ok v) ↔ HasDate x := by
  unfold HasDate instantOf
  cases splitSeconds x with
  | error e => simp [bind, Except.bind]
  | ok found =>
    obtain ⟨seconds, micros⟩ := found
    by_cases hrange : -62135596800 ≤ seconds ∧ seconds ≤ 253402300799
    · obtain ⟨t, ht⟩ : ∃ t, Time.Instant.ofSeconds? seconds micros = some t :=
        exists_ofSeconds?_iff.2 hrange
      have hclock : ¬ seconds < clockRange.1 ∧ ¬ clockRange.2 < seconds := by
        rw [clockRange]
        omega
      have hcalendar : ¬ seconds < calendarRange.1 ∧ ¬ calendarRange.2 < seconds := by
        rw [calendarRange]
        omega
      -- a date in range passes the clock and the calendar, whose ranges are wider
      refine iff_of_true ⟨.instant t, ?_⟩ ⟨seconds, micros, rfl, hrange⟩
      simp [bind, Except.bind, hclock, hcalendar, ht, pure, Except.pure]
    · have hnone : Time.Instant.ofSeconds? seconds micros = none := by
        rw [Option.eq_none_iff_forall_ne_some]
        exact fun t ht => hrange (exists_ofSeconds?_iff.1 ⟨t, ht⟩)
      refine iff_of_false ?_ ?_
      · rintro ⟨v, h⟩
        simp only [bind, Except.bind, hnone, throw, throwThe, MonadExceptOf.throw] at h
        repeat' split at h
        all_goals cases h
      · rintro ⟨seconds', micros', heq, h⟩
        obtain ⟨rfl, rfl⟩ := Prod.mk.inj (Except.ok.inj heq)
        exact hrange h

/-! ## Questions about a token -/

/-- A question about the time when a token expires has an answer if the expiry can be read and each
time that it may be has one. -/
lemma exists_answer_iff {α : Type} {answer : Float → Except Failure α} :
    (∃ found, (expiry token >>= fun
      | some (some exp) => some <$> answer exp
      | _ => pure none) = .ok found) ↔
      HasReadableExpiry token ∧ ∀ x, ExpiresAt token x → ∃ a, answer x = .ok a := by
  simp only [← exists_expiry_iff, ← expiry_eq_some_iff]
  cases expiry token with
  | error e => simp [bind, Except.bind]
  | ok found =>
    match found with
    | none | some none => simp [bind, Except.bind, pure, Except.pure]
    | some (some exp) =>
      simp only [bind, Except.bind]
      cases hanswer : answer exp <;> simp [hanswer]

/-- **Times of tokens.**  Whether a token is out of date, when it expires and how long it is valid
is known exactly under these conditions. -/
theorem tokenTimes_iff (token : String) (now : Float) :
    ((∃ b, isExpired token now = .ok b) ↔ HasReadableExpiry token) ∧
    ((∃ t, expiration token = .ok t) ↔
      HasReadableExpiry token ∧ ∀ x, ExpiresAt token x → HasDate x) ∧
    ((∃ n, remaining token now = .ok n) ↔
      HasReadableExpiry token ∧ ∀ x, ExpiresAt token x → (x - now).isFinite = true) := by
  refine ⟨?_, ?_, ?_⟩
  · rw [← exists_expiry_iff, isExpired]
    cases expiry token <;> simp [Except.map]
  · simp only [← exists_instantOf_iff]
    exact exists_answer_iff
  · have hleft (x : Float) : (∃ n, Int.toNat <$> integerPart (x - now) = .ok n) ↔
        (x - now).isFinite = true := by
      rw [← exists_integerPart_iff]
      cases integerPart (x - now) <;> simp [Functor.map, Except.map]
    simp only [← hleft]
    exact exists_answer_iff

end TypedFetch.Http
