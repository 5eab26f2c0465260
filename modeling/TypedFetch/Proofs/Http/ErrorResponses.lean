import TypedFetch.Http.Exchange
import TypedFetch.Proofs.Attempts

/-!
# Error responses

A response whose status reports an error ends the call with an `ApiError` of that status, whatever
the reason and the body are, with two exceptions: arrays and objects in the body are nested too
deeply, or the body is an object whose details are not of a form that can be read.  The first part
of this file says which values are in a body at all, the second which of them can be read as
details, and the third follows a call from the request to its failure.
-/

namespace TypedFetch

/-! ## Values of JSON texts -/

/-- The value can be the content of a JSON text: the keys of its mappings are texts. -/
inductive Value.IsJson : Value → Prop
  | null : IsJson .null
  | bool (b : Bool) : IsJson (.bool b)
  | int (i : Int) : IsJson (.int i)
  | double (x : Float) : IsJson (.double x)
  | text (s : String) : IsJson (.text s)
  | list {items : List Value} (h : ∀ v ∈ items, IsJson v) : IsJson (.list items)
  | map {entries : List (Value × Value)} (hkeys : ∀ e ∈ entries, ∃ name, e.1 = .text name)
      (hvalues : ∀ e ∈ entries, IsJson e.2) : IsJson (.map entries)

namespace Json

/-- The entries are fields of an object. -/
def AreFields (entries : List (Value × Value)) : Prop :=
  ∀ e ∈ entries, (∃ name, e.1 = .text name) ∧ e.2.IsJson

lemma AreFields.isJson {entries : List (Value × Value)} (h : AreFields entries) :
    (Value.map entries).IsJson :=
  .map (fun e he => (h e he).1) fun e he => (h e he).2

lemma AreFields.insertEntry {entries : List (Value × Value)} {name : String} {v : Value}
    (h : AreFields entries) (hv : v.IsJson) :
    AreFields (Value.insertEntry (.text name) v entries) := by
  induction entries with
  | nil => simpa [Value.insertEntry, AreFields] using hv
  | cons e rest ih =>
    have hrest : AreFields rest := fun e' he' => h e' (by simp [he'])
    have he := h e (by simp)
    obtain ⟨k, w⟩ := e
    rw [Value.insertEntry]
    split
    · intro e' he'
      obtain rfl | he' := List.mem_cons.1 he'
      · exact ⟨he.1, hv⟩
      · exact hrest e' he'
    · intro e' he'
      obtain rfl | he' := List.mem_cons.1 he'
      · exact he
      · exact ih hrest e' he'

lemma AreFields.collect {entries : List (Value × Value)} (h : AreFields entries) :
    AreFields (Value.collect entries) := by
  have hfold : ∀ (entries acc : List (Value × Value)), AreFields entries → AreFields acc →
      AreFields (entries.foldl (fun acc e => Value.insertEntry e.1 e.2 acc) acc) := by
    intro entries
    induction entries with
    | nil => exact fun acc _ hacc => hacc
    | cons e rest ih =>
      intro acc h hacc
      obtain ⟨⟨name, hname⟩, hv⟩ := h e (by simp)
      refine ih _ (fun e' he' => h e' (by simp [he'])) ?_
      simp only [hname]
      exact hacc.insertEntry hv
  exact hfold entries [] h (by simp [AreFields])

lemma isJson_of_readWord {cs rest : List Char} {v : Value} (h : readWord? cs = some (v, rest)) :
    v.IsJson := by
  obtain ⟨⟨word, w⟩, hmem, hw⟩ := List.exists_of_findSome?_eq_some h
  obtain ⟨rest', -, heq⟩ := Option.map_eq_some_iff.1 hw
  obtain ⟨rfl, -⟩ := Prod.mk.inj heq
  simp only [wordValues, List.mem_cons, Prod.mk.injEq, List.not_mem_nil, or_false] at hmem
  obtain ⟨-, rfl⟩ | ⟨-, rfl⟩ | ⟨-, rfl⟩ | ⟨-, rfl⟩ | ⟨-, rfl⟩ | ⟨-, rfl⟩ := hmem <;> constructor

lemma isJson_of_readUnsigned {negative : Bool} {cs rest : List Char} {v : Value}
    (h : readUnsigned negative cs = .ok (v, rest)) : v.IsJson := by
  unfold readUnsigned at h
  extract_lets whole at h
  split at h
  · cases h
  · rcases cutFraction (cs.drop whole.length) with ⟨fraction, tail⟩
    dsimp only at h
    -- the numeral has an exponent, or is an integer, or has a fraction
    split at h
    · cases h
      exact .double _
    · split at h
      · split at h
        · cases h
        · cases h
          exact .int _
      · cases h
        exact .double _

lemma isJson_of_readNumber {cs rest : List Char} {v : Value}
    (h : readNumber cs = .ok (v, rest)) : v.IsJson := by
  unfold readNumber at h
  split at h <;> exact isJson_of_readUnsigned h

mutual

/-- Reading with some fuel gives values of JSON texts, if the items or fields that were read before
are such values. -/
lemma isJson_of_readValue : ∀ {fuel room : Nat} {cs rest : List Char} {v : Value},
    readValue room fuel cs = .ok (v, rest) → v.IsJson
  | 0, room, cs, rest, v, h => by simp [readValue] at h
  | fuel + 1, room, cs, rest, v, h => by
    unfold readValue at h
    split at h
    · obtain ⟨⟨s, tail⟩, -, heq⟩ := map_eq_ok h
      cases heq
      exact .text s
    · split at h
      · cases h
      · split at h
        · cases h
          exact .list (by simp)
        · exact isJson_of_readItems (by simp) h
    · split at h
      · cases h
      · split at h
        · cases h
          exact .map (by simp) (by simp)
        · exact isJson_of_readFields (by simp [AreFields]) h
    · split at h
      · next r hword =>
        cases h
        exact isJson_of_readWord hword
      · exact isJson_of_readNumber h

lemma isJson_of_readItems : ∀ {fuel room : Nat} {acc : List Value} {cs rest : List Char}
    {v : Value}, (∀ item ∈ acc, item.IsJson) →
      readItems room fuel acc cs = .ok (v, rest) → v.IsJson
  | 0, room, acc, cs, rest, v, _, h => by simp [readItems] at h
  | fuel + 1, room, acc, cs, rest, v, hacc, h => by
    unfold readItems at h
    split at h
    · cases h
    · next item tail hitem =>
      have hitems : ∀ w ∈ item :: acc, w.IsJson :=
        List.forall_mem_cons.2 ⟨isJson_of_readValue hitem, hacc⟩
      split at h
      · exact isJson_of_readItems hitems h
      · cases h
        exact .list fun w hw => hitems w (List.mem_reverse.1 hw)
      · cases h

lemma isJson_of_readFields : ∀ {fuel room : Nat} {acc : List (Value × Value)}
    {cs rest : List Char} {v : Value}, AreFields acc →
      readFields room fuel acc cs = .ok (v, rest) → v.IsJson
  | 0, room, acc, cs, rest, v, _, h => by simp [readFields] at h
  | fuel + 1, room, acc, cs, rest, v, hacc, h => by
    unfold readFields at h
    split at h
    · split at h
      · cases h
      · next name tail hname =>
        split at h
        · split at h
          · cases h
          · next w tail' hw =>
            have hfields : AreFields ((.text name, w) :: acc) :=
              List.forall_mem_cons.2 ⟨⟨⟨name, rfl⟩, isJson_of_readValue hw⟩, hacc⟩
            dsimp only at h
            split at h
            · exact isJson_of_readFields hfields h
            · cases h
              have hreverse : AreFields ((Value.text name, w) :: acc).reverse :=
                fun e he => hfields e (List.mem_reverse.1 he)
              exact hreverse.collect.isJson
            · cases h
        · cases h
    · cases h

end

lemma isJson_of_read {cs : List Char} {v : Value} (h : read cs = .ok v) : v.IsJson := by
  unfold read at h
  split at h
  · cases h
  · rename_i w rest hread
    split at h
    · cases h
      exact isJson_of_readValue hread
    · cases h

end Json

namespace Http

/-! ## Details that can be read -/

/-- The value can be read as a pair: it is a list of two items of which the first can be a key, a
text of two characters, or an object of two fields. -/
inductive IsPair : Value → Prop
  | list {key v : Value} (hkey : key.isKey = true) : IsPair (.list [key, v])
  | text {s : String} (hs : s.length = 2) : IsPair (.text s)
  | map {e e' : Value × Value} : IsPair (.map [e, e'])

/-- The value can be read as one detail: it is an object, a list of pairs, or the empty text. -/
inductive IsDetail : Value → Prop
  | map (entries : List (Value × Value)) : IsDetail (.map entries)
  | list {items : List Value} (h : ∀ item ∈ items, IsPair item) : IsDetail (.list items)
  | text : IsDetail (.text "")

/-- The value can be read as details: it counts as false, or it is a list of details, or an object
whose only field has no name. -/
inductive AreDetails : Value → Prop
  | absent {v : Value} (h : v.truthy = false) : AreDetails v
  | list {items : List Value} (h : ∀ item ∈ items, IsDetail item) : AreDetails (.list items)
  | map {entries : List (Value × Value)} (h : ∀ e ∈ entries, e.1 = .text "") :
      AreDetails (.map entries)

/-- The failures of values that have not the form that is needed. -/
inductive IsFormFault : Failure → Prop
  | notIterable : IsFormFault .notIterable
  | notPair : IsFormFault .notPair
  | unusableKey : IsFormFault .unusableKey

namespace ApiError

/-- Values that hold items are read as pairs if they hold two, and the first can be a key. -/
lemma exists_pairOf_iff_of_iterate {item : Value} {items : List Value}
    (h : iterate item = .ok items) :
    (∃ pair, pairOf item = .ok pair) ↔ ∃ k v, items = [k, v] ∧ k.isKey = true := by
  unfold pairOf
  rw [h]
  constructor
  · rintro ⟨pair, hpair⟩
    split at hpair
    · contradiction
    · rename_i k v heq
      split at hpair
      · rename_i hkey
        exact ⟨k, v, by cases heq; rfl, hkey⟩
      · cases hpair
    · cases hpair
  · rintro ⟨k, v, rfl, hkey⟩
    exact ⟨(k, v), by simp [hkey]⟩

lemma exists_pairOf_iff {item : Value} (hitem : item.IsJson) :
    (∃ pair, pairOf item = .ok pair) ↔ IsPair item := by
  cases hitem with
  | null | bool | int | double =>
    constructor
    · rintro ⟨pair, hpair⟩
      cases hpair
    · rintro ⟨⟩
  | text s =>
    rw [exists_pairOf_iff_of_iterate rfl]
    constructor
    · rintro ⟨k, v, hchars, -⟩
      refine .text (String.length_toList.symm.trans ?_)
      simpa using congrArg List.length hchars
    · rintro (_ | hs)
      obtain ⟨a, b, hchars⟩ := List.length_eq_two.1 (String.length_toList.trans hs)
      exact ⟨_, _, by rw [hchars]; rfl, rfl⟩
  | list =>
    rw [exists_pairOf_iff_of_iterate rfl]
    constructor
    · rintro ⟨k, v, rfl, hkey⟩
      exact .list hkey
    · rintro (hkey | _)
      exact ⟨_, _, rfl, hkey⟩
  | map hkeys _ =>
    rw [exists_pairOf_iff_of_iterate rfl]
    constructor
    · rintro ⟨k, v, hnames, -⟩
      obtain ⟨e, e', rfl⟩ := List.length_eq_two.1
        ((List.length_map _).symm.trans (congrArg List.length hnames))
      exact .map
    · rintro ⟨⟩
      obtain ⟨name, hname⟩ := hkeys _ (List.mem_cons_self ..)
      exact ⟨_, _, rfl, by simp only [hname]; rfl⟩

/-- The characters of a text are no pairs. -/
lemma not_isPair_singleton (c : Char) : ¬ IsPair (.text (String.singleton c)) := by
  rintro (_ | hlength)
  simp at hlength

lemma exists_collect_iff (items : List Value) :
    (∃ entries, (do return Value.collect (← items.mapM pairOf)) = Except.ok entries) ↔
      ∀ item ∈ items, ∃ pair, pairOf item = .ok pair := by
  rw [← exists_mapM_eq_ok_iff]
  constructor
  · rintro ⟨entries, hentries⟩
    obtain ⟨pairs, hpairs, -⟩ := bind_eq_ok hentries
    exact ⟨pairs, hpairs⟩
  · exact fun hpairs => exists_bind_eq_ok hpairs fun pairs => ⟨_, rfl⟩

lemma exists_entriesOf_iff {v : Value} (hv : v.IsJson) :
    (∃ entries, entriesOf v = .ok entries) ↔ IsDetail v := by
  cases hv with
  | null | bool | int | double =>
    constructor
    · rintro ⟨entries, hentries⟩
      cases hentries
    · rintro ⟨⟩
  | text s =>
    refine (exists_collect_iff (s.toList.map fun c => .text (String.singleton c))).trans ?_
    constructor
    · intro h
      cases hs : s.toList with
      | nil =>
        obtain rfl : s = "" := String.toList_eq_nil_iff.1 hs
        exact .text
      | cons c cs =>
        have hpair := h (.text (String.singleton c)) (by simp [hs])
        exact absurd ((exists_pairOf_iff (.text _)).1 hpair) (not_isPair_singleton c)
    · rintro ⟨⟩
      simp
  | list hitems =>
    refine (exists_collect_iff _).trans ?_
    constructor
    · exact fun h => .list fun item hitem =>
        (exists_pairOf_iff (hitems item hitem)).1 (h item hitem)
    · rintro (_ | hpairs) item hitem
      exact (exists_pairOf_iff (hitems item hitem)).2 (hpairs item hitem)
  | map => exact ⟨fun _ => .map _, fun _ => ⟨_, rfl⟩⟩

/-- A text is read as a detail only if it is empty. -/
lemma exists_entriesOf_text_iff {s : String} :
    (∃ entries, entriesOf (.text s) = .ok entries) ↔ s = "" := by
  rw [exists_entriesOf_iff (.text s)]
  constructor
  · rintro ⟨⟩
    rfl
  · rintro rfl
    exact .text

/-- A value that counts as true and holds items has details if every item is one. -/
lemma exists_detailsOf_iff_of_iterate {v : Value} {items : List Value} (htruthy : v.truthy = true)
    (h : iterate v = .ok items) :
    (∃ details, detailsOf v = .ok details) ↔
      ∀ item ∈ items, ∃ entries, entriesOf item = .ok entries := by
  rw [detailsOf, if_pos htruthy, h]
  exact exists_mapM_eq_ok_iff

/-- The characters of a text are no details, so only the empty text has details. -/
lemma not_exists_detailsOf_text {s : String} (htruthy : (Value.text s).truthy = true) :
    ¬ ∃ details, detailsOf (.text s) = .ok details := by
  rw [exists_detailsOf_iff_of_iterate htruthy rfl]
  intro h
  cases hs : s.toList with
  | nil =>
    obtain rfl : s = "" := String.toList_eq_nil_iff.1 hs
    cases htruthy
  | cons c cs =>
    have hdetail := h (.text (String.singleton c)) (by simp [hs])
    have hsingle := exists_entriesOf_text_iff.1 hdetail
    exact absurd (congrArg String.length hsingle) (by simp)

lemma exists_detailsOf_iff {v : Value} (hv : v.IsJson) :
    (∃ details, detailsOf v = .ok details) ↔ AreDetails v := by
  by_cases htruthy : v.truthy = true
  · have habsent : v.truthy ≠ false := by simp [htruthy]
    cases hv with
    | null => cases htruthy
    | bool | int | double =>
      rw [detailsOf, if_pos htruthy]
      constructor
      · rintro ⟨details, hdetails⟩
        cases hdetails
      · rintro ⟨h⟩
        exact absurd h habsent
    | text s =>
      refine iff_of_false (not_exists_detailsOf_text htruthy) ?_
      rintro ⟨h⟩
      exact absurd h habsent
    | list hitems =>
      rw [exists_detailsOf_iff_of_iterate htruthy rfl]
      constructor
      · exact fun h => .list fun item hitem =>
          (exists_entriesOf_iff (hitems item hitem)).1 (h item hitem)
      · rintro (h | h) item hitem
        · exact absurd h habsent
        · exact (exists_entriesOf_iff (hitems item hitem)).2 (h item hitem)
    | map hkeys _ =>
      -- the items of an object are the names of its fields, which are texts
      rw [exists_detailsOf_iff_of_iterate htruthy rfl]
      constructor
      · refine fun h => .map fun e he => ?_
        obtain ⟨name, hname⟩ := hkeys e he
        have hdetail := h e.1 (List.mem_map_of_mem he)
        rw [hname] at hdetail ⊢
        rw [exists_entriesOf_text_iff.1 hdetail]
      · rintro (h | _ | h) item hitem
        · exact absurd h habsent
        · obtain ⟨e, he, rfl⟩ := List.mem_map.1 hitem
          rw [h e he]
          exact exists_entriesOf_text_iff.2 rfl
  · have hfalse : v.truthy = false := by simpa using htruthy
    rw [detailsOf, if_neg htruthy]
    exact ⟨fun _ => .absent hfalse, fun _ => ⟨[], rfl⟩⟩

lemma isFormFault_of_iterate {v : Value} {failure : Failure}
    (h : iterate v = .error failure) : IsFormFault failure := by
  unfold iterate at h
  split at h
  all_goals cases h
  exact .notIterable

lemma isFormFault_of_pairOf {item : Value} {failure : Failure}
    (h : pairOf item = .error failure) : IsFormFault failure := by
  unfold pairOf at h
  split at h
  · rename_i hitems
    cases h
    exact isFormFault_of_iterate hitems
  · split at h
    · cases h
    · cases h
      exact .unusableKey
  · cases h
    exact .notPair

lemma isFormFault_of_entriesOf {v : Value} {failure : Failure}
    (h : entriesOf v = .error failure) : IsFormFault failure := by
  unfold entriesOf at h
  split at h
  · cases h
  · cases h
  · obtain hitems | ⟨items, -, h⟩ := bind_eq_error h
    · exact isFormFault_of_iterate hitems
    · obtain hpairs | ⟨pairs, -, h⟩ := bind_eq_error h
      · obtain ⟨item, -, hitem⟩ := exists_of_mapM_eq_error hpairs
        exact isFormFault_of_pairOf hitem
      · cases h

lemma isFormFault_of_detailsOf {v : Value} {failure : Failure}
    (h : detailsOf v = .error failure) : IsFormFault failure := by
  unfold detailsOf at h
  split at h
  · obtain hitems | ⟨items, -, h⟩ := bind_eq_error h
    · exact isFormFault_of_iterate hitems
    · obtain ⟨item, -, hitem⟩ := exists_of_mapM_eq_error h
      exact isFormFault_of_entriesOf hitem
  · cases h

end ApiError

/-! ## Hooks that keep their input -/

section Hooks

variable {m : Type → Type} [Monad m] {α : Type}

/-- What a hook makes of its input is that input. -/
def KeepsInput (hook : α → m (Option α)) : Prop :=
  ∀ a, (fun changed => changed.getD a) <$> hook a = (fun _ => a) <$> hook a

/-- The hooks around a request keep their input. -/
structure Hooks.KeepInput (hooks : Hooks m) : Prop where
  beforeRequest : ∀ hook ∈ hooks.beforeRequest, KeepsInput hook
  afterResponse : ∀ hook ∈ hooks.afterResponse, KeepsInput hook
  beforeError : ∀ hook ∈ hooks.beforeError, KeepsInput hook

/-- Shows a value to hooks one after the other. -/
def showTo (hooks : List (α → m (Option α))) (a : α) : m PUnit :=
  hooks.forM fun hook => discard (hook a)

variable [LawfulMonad m]

/-- Hooks that keep their input all see it, and it is what they leave. -/
lemma runHooks_of_keepsInput {hooks : List (α → m (Option α))}
    (h : ∀ hook ∈ hooks, KeepsInput hook) (a : α) :
    runHooks hooks a = showTo hooks a >>= fun _ => pure a := by
  induction hooks with
  | nil => simp [runHooks, showTo]
  | cons hook rest ih =>
    have hkeeps := h hook (by simp) a
    have hrest := ih fun hook' hmem => h hook' (by simp [hmem])
    calc runHooks (hook :: rest) a
        = ((fun changed => changed.getD a) <$> hook a) >>= runHooks rest := by
          rw [bind_map_left]
          rfl
      _ = hook a >>= fun _ => runHooks rest a := by rw [hkeeps, bind_map_left]
      _ = showTo (hook :: rest) a >>= fun _ => pure a := by
          simp [hrest, showTo, discard, Functor.discard, map_const]

end Hooks

/-! ## From the response to the failure -/

/-- The response can be told as an error of the interface: its body is not nested too deeply and, if
it is an object, its details can be read. -/
def Response.Explains (r : Response) : Prop :=
  match bodyValue r.content with
  | .ok (.map entries) => ∀ v, Value.lookup entries "details" = some v → AreDetails v
  | .error fault => fault ≠ .tooDeep
  | .ok _ => True

/-- The failure that a response with the status of an error leads to. -/
def Response.failure (r : Response) : Failure :=
  match errorOf r with
  | .ok e => .api e
  | .error failure => failure

/-- Shows the error that a response describes, if there is one, to the hooks. -/
def Hooks.showError {m : Type → Type} [Monad m] (hooks : Hooks m) (r : Response) : m PUnit :=
  match errorOf r with
  | .ok e => showTo hooks.beforeError e
  | .error _ => pure ⟨⟩

lemma isJson_of_bodyValue {bytes : List UInt8} {v : Value} (h : bodyValue bytes = .ok v) :
    v.IsJson :=
  Json.isJson_of_read h

lemma isJson_of_lookup {entries : List (Value × Value)} {key : String} {v : Value}
    (hentries : (Value.map entries).IsJson) (h : Value.lookup entries key = some v) :
    v.IsJson := by
  obtain ⟨e, he, rfl⟩ := Option.map_eq_some_iff.1 h
  cases hentries with
  | map _ hvalues => exact hvalues e (List.mem_of_find?_eq_some he)

/-- What an object in the body says about the details, absent ones included. -/
lemma exists_detailsOf_lookup_iff {entries : List (Value × Value)}
    (hentries : (Value.map entries).IsJson) :
    (∃ details, ApiError.detailsOf ((Value.lookup entries "details").getD .null) = .ok details) ↔
      ∀ v, Value.lookup entries "details" = some v → AreDetails v := by
  cases hlookup : Value.lookup entries "details" with
  | none => exact ⟨fun _ v hv => (nomatch hv), fun _ => ⟨[], rfl⟩⟩
  | some v =>
    have hv := ApiError.exists_detailsOf_iff (isJson_of_lookup hentries hlookup)
    exact ⟨fun h w hw => Option.some.inj hw ▸ hv.1 h, fun h => hv.2 (h v rfl)⟩

/-- The response describes an error if it explains itself, and otherwise its body is nested too
deeply or has details of no known form. -/
lemma errorOf_cases (r : Response) :
    (r.Explains ∧ ∃ e, errorOf r = .ok e ∧ e.status = r.status) ∨
      ¬ r.Explains ∧ ∃ failure, errorOf r = .error failure ∧
        (failure = .tooDeep ∨ IsFormFault failure) := by
  unfold Response.Explains errorOf
  cases hbody : bodyValue r.content with
  | error fault =>
    cases fault with
    | tooDeep => exact .inr ⟨by simp, .tooDeep, rfl, .inl rfl⟩
    | malformed | tooManyDigits => exact .inl ⟨by simp, _, rfl, rfl⟩
  | ok v =>
    have hjson := isJson_of_bodyValue hbody
    cases hjson with
    | map hkeys hvalues =>
      have hdetails := exists_detailsOf_lookup_iff (.map hkeys hvalues)
      dsimp only
      rw [← hdetails]
      unfold ApiError.build
      cases h : ApiError.detailsOf _ with
      | ok details => exact .inl ⟨⟨details, rfl⟩, _, rfl, rfl⟩
      | error failure =>
        exact .inr ⟨by simp, failure, rfl, .inr (ApiError.isFormFault_of_detailsOf h)⟩
    | null | bool | int | double | text | list => exact .inl ⟨trivial, _, rfl, rfl⟩

section Exchange

variable {m : Type → Type} [Monad m] [LawfulMonad m] {hooks : Hooks m}

/-- A response with the status of an error is shown to the hooks, and so is the error made from it;
then the call fails. -/
lemma judge_of_isFailure (hkeep : hooks.KeepInput) {r : Response} (hr : r.isFailure = true) :
    judge hooks (.response r) = (do
      showTo hooks.afterResponse r
      hooks.showError r
      pure (.error r.failure)) := by
  unfold judge Hooks.showError Response.failure
  simp only [runHooks_of_keepsInput hkeep.afterResponse, bind_assoc, pure_bind, hr, ↓reduceIte]
  cases errorOf r with
  | error failure => simp
  | ok e => simp [runHooks_of_keepsInput hkeep.beforeError]

end Exchange

/-- A body of plain characters. -/
def plainBody (s : String) : List UInt8 :=
  s.toList.map fun c => UInt8.ofNat c.toNat

/-- A response about a book that is gone, with a code and a detail. -/
def bookGone : Response :=
  ⟨404, .text "Not Found", plainBody
    "\x7b\"code\": \"GONE\", \"details\": [\x7b\"field\": \"id\"\x7d]\x7d"⟩

/-- A response with a detail in the place of a list of details. -/
def loneDetail : Response :=
  ⟨400, .text "Bad Request", plainBody "\x7b\"details\": \x7b\"field\": \"id\"\x7d\x7d"⟩

/-- Hooks that note the statuses of the responses that they see. -/
def statusNotes : Hooks (StateM (List Int)) where
  afterResponse := [fun r => do modify (· ++ [r.status]); return none]

/-- A session that has only one response. -/
def onlyResponse (r : Response) (_ : Outgoing) : StateM (List Int) Delivery :=
  pure (.response r)

/-- A client without further settings. -/
def plainConfig : ClientConfig := { baseUrl := "https://api.example.com" }

/-- A call for a book. -/
def bookCall : Call := { method := "get", path := "/books/7" }

end Http

end TypedFetch
