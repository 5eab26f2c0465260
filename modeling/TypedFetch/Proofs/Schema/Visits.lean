import Mathlib.Data.List.Nodup
import Mathlib.Data.List.Perm.Subperm
import TypedFetch.Schema.DependencyOrder

/-!
# Visits without a bound

`visit` goes down through the fields of messages to a given depth and stops silently there.  The
relation `Visits` is the same walk without a depth: a derivation of it is a visit that has come to
an end by itself.  The main statement is `walk_induction`: the whole walk consists of such visits,
one for each message of the list, so the depth is never used up, whatever cycles the fields form.

The messages under way have distinct names, and these are names of the list.  So there are never
more of them than messages, and this bounds the depth.
-/

namespace TypedFetch.Schema

variable {messages : List Message}

lemma mem_of_messageNamed? {name : String} {m : Message}
    (h : messageNamed? messages name = some m) :
    m ∈ messages :=
  List.mem_reverse.1 (List.mem_of_find?_eq_some h)

lemma name_of_messageNamed? {name : String} {m : Message}
    (h : messageNamed? messages name = some m) :
    m.name = name := by
  simpa using List.find?_some h

lemma exists_messageNamed? {m : Message} (h : m ∈ messages) :
    ∃ d, messageNamed? messages m.name = some d := by
  rw [← Option.isSome_iff_exists, messageNamed?, List.find?_isSome]
  exact ⟨m, List.mem_reverse.2 h, by simp⟩

lemma done_iff {w : Walk} {name : String} :
    w.done name = true ↔ name ∈ w.finished.map (·.name) := by
  simp [Walk.done]

/-! ## Finished visits -/

/-- What is to be done on a walk. -/
inductive Errand where
  /-- A message is to be visited. -/
  | message (m : Message)
  /-- The messages that fields refer to are to be visited. -/
  | fields (fields : List Field)

/-- A finished visit, from what the walk has found before it to what it has found after it; `path`
holds the messages under way, the last one first. -/
inductive Visits (messages : List Message) : List Message → Walk → Errand → Walk → Prop
  /-- A message whose name is finished is not visited again. -/
  | known {path w m} : w.done m.name → Visits messages path w (.message m) w
  /-- The walk comes back to a message under way. -/
  | cycle {path w m} : ¬ w.done m.name → m.name ∈ path.map (·.name) →
      Visits messages path w (.message m) { w with cycles := m.name :: w.cycles }
  /-- A message is finished after the messages that its fields refer to. -/
  | finish {path w m w'} : ¬ w.done m.name → m.name ∉ path.map (·.name) →
      Visits messages (m :: path) w (.fields m.fields) w' →
      Visits messages path w (.message m) { w' with finished := m :: w'.finished }
  | nil {path w} : Visits messages path w (.fields []) w
  /-- A field that refers to no message is passed over. -/
  | pass {path w f fields w'} : messageNamed? messages (referredName f.typeName) = none →
      Visits messages path w (.fields fields) w' →
      Visits messages path w (.fields (f :: fields)) w'
  | follow {path w f fields d w₁ w'} :
      messageNamed? messages (referredName f.typeName) = some d →
      Visits messages path w (.message d) w₁ → Visits messages path w₁ (.fields fields) w' →
      Visits messages path w (.fields (f :: fields)) w'

/-- The walk through the messages that fields refer to. -/
def visitFields (messages : List Message) (fuel : Nat) (path : List String) (w : Walk)
    (fields : List Field) : Walk :=
  fields.foldl
    (fun w f =>
      match messageNamed? messages (referredName f.typeName) with
      | some d => if w.done d.name then w else visit messages fuel path w d
      | none => w)
    w

/-- What a visit does: nothing where the message is finished, a report where it is under way, and
otherwise it finishes the message after the messages of its fields. -/
lemma visit_succ (fuel : Nat) (path : List String) (w : Walk) (m : Message) :
    visit messages (fuel + 1) path w m =
      if w.done m.name then w
      else if path.contains m.name then { w with cycles := m.name :: w.cycles }
      else
        let w' := visitFields messages fuel (m.name :: path) w m.fields
        { w' with finished := m :: w'.finished } := rfl

lemma visits_visitFields {fuel : Nat} {path : List Message}
    (hvisit : ∀ w d, d ∈ messages →
      Visits messages path w (.message d) (visit messages fuel (path.map (·.name)) w d))
    (fields : List Field) :
    ∀ w, Visits messages path w (.fields fields)
      (visitFields messages fuel (path.map (·.name)) w fields) := by
  induction fields with
  | nil => intro w; exact .nil
  | cons f fields ih =>
    intro w
    rw [visitFields, List.foldl_cons]
    split
    · next d hd =>
      split
      · next hdone => exact .follow hd (.known hdone) (ih w)
      · exact .follow hd (hvisit w d (mem_of_messageNamed? hd)) (ih _)
    · next hnone => exact .pass hnone (ih w)

/-- A visit with enough depth comes to an end by itself: the depth that is left and the messages
under way are together more than there are messages. -/
lemma visits_visit (fuel : Nat) :
    ∀ (path : List Message) (w : Walk) (m : Message), (path.map (·.name)).Nodup →
      path ⊆ messages → m ∈ messages → messages.length < fuel + path.length →
      Visits messages path w (.message m) (visit messages fuel (path.map (·.name)) w m) := by
  induction fuel with
  | zero =>
    intro path w m hnodup hpath _ hdepth
    have hle : path.length ≤ messages.length :=
      (List.subperm_of_subset (List.Nodup.of_map _ hnodup) hpath).length_le
    omega
  | succ fuel ih =>
    intro path w m hnodup hpath hm hdepth
    rw [visit_succ]
    split
    · next hdone => exact .known hdone
    · next hdone =>
      split
      · next hcycle => exact .cycle hdone (by simpa using hcycle)
      · next hnew =>
        have hname : m.name ∉ path.map (·.name) := by simpa using hnew
        refine .finish hdone hname (visits_visitFields (fun w d hd => ?_) m.fields w)
        refine ih (m :: path) w d (List.nodup_cons.2 ⟨hname, hnodup⟩) ?_ hd ?_
        · exact List.cons_subset.2 ⟨hm, hpath⟩
        · rw [List.length_cons]
          omega

/-- What holds of the walk at its start, and is kept when the next message of the list has been
visited, holds at the end. -/
theorem walk_induction {P : List Message → Walk → Prop} (hstart : P [] {})
    (hstep : ∀ before m after w w', messages = before ++ m :: after → P before w →
      Visits messages [] w (.message m) w' → P (before ++ [m]) w') :
    P messages (walk messages) := by
  have hrest : ∀ (rest before : List Message) (w : Walk), messages = before ++ rest → P before w →
      P messages (rest.foldl (fun w m => visit messages (messages.length + 2) [] w m) w) := by
    intro rest
    induction rest with
    | nil =>
      intro before w hsplit hw
      rw [List.append_nil] at hsplit
      rwa [hsplit]
    | cons m rest ih =>
      intro before w hsplit hw
      have hm : m ∈ messages := by rw [hsplit]; simp
      have hvisit := visits_visit (messages.length + 2) [] w m (by simp) (by simp) hm (by simp)
      exact ih (before ++ [m]) _ (by simpa using hsplit)
        (hstep before m rest w _ hsplit hw hvisit)
  exact hrest messages [] {} rfl hstart

/-! ## What a visit leaves -/

variable {path : List Message} {w w' : Walk} {errand : Errand}

lemma Visits.finished_suffix (h : Visits messages path w errand w') :
    w.finished <:+ w'.finished := by
  induction h with
  | known _ => exact List.suffix_refl _
  | cycle _ _ => exact List.suffix_refl _
  | finish _ _ _ ih => exact ih.trans (List.suffix_cons _ _)
  | nil => exact List.suffix_refl _
  | pass _ _ ih => exact ih
  | follow _ _ _ ih₁ ih₂ => exact ih₁.trans ih₂

lemma Visits.cycles_suffix (h : Visits messages path w errand w') :
    w.cycles <:+ w'.cycles := by
  induction h with
  | known _ => exact List.suffix_refl _
  | cycle _ _ => exact List.suffix_cons _ _
  | finish _ _ _ ih => exact ih
  | nil => exact List.suffix_refl _
  | pass _ _ ih => exact ih
  | follow _ _ _ ih₁ ih₂ => exact ih₁.trans ih₂

lemma Visits.name_mem (h : Visits messages path w errand w') {n : String}
    (hn : n ∈ w.finished.map (·.name)) : n ∈ w'.finished.map (·.name) :=
  (h.finished_suffix.map _).subset hn

/-- What a visit finishes is the message that is to be visited, or the last message of its name,
since fields refer to that one. -/
lemma Visits.finished_cases (h : Visits messages path w errand w') :
    ∀ x ∈ w'.finished, x ∈ w.finished ∨ errand = .message x ∨
      messageNamed? messages x.name = some x := by
  induction h with
  | known _ => exact fun x hx => Or.inl hx
  | cycle _ _ => exact fun x hx => Or.inl hx
  | finish _ _ _ ih =>
    intro x hx
    rcases List.mem_cons.1 hx with rfl | hx
    · exact Or.inr (Or.inl rfl)
    · rcases ih x hx with hold | hfields | hlast
      · exact Or.inl hold
      · exact absurd hfields (by simp)
      · exact Or.inr (Or.inr hlast)
  | nil => exact fun x hx => Or.inl hx
  | pass _ _ ih =>
    intro x hx
    rcases ih x hx with hold | hfields | hlast
    · exact Or.inl hold
    · exact absurd hfields (by simp)
    · exact Or.inr (Or.inr hlast)
  | follow hd _ _ ih₁ ih₂ =>
    intro x hx
    rcases ih₂ x hx with hfirst | hfields | hlast
    -- the field refers to the last message of the name, so this is what is finished
    · rcases ih₁ x hfirst with hold | hmessage | hlast
      · exact Or.inl hold
      · obtain rfl := Errand.message.inj hmessage
        exact Or.inr (Or.inr (by rw [name_of_messageNamed? hd, hd]))
      · exact Or.inr (Or.inr hlast)
    · exact absurd hfields (by simp)
    · exact Or.inr (Or.inr hlast)

/-- The finished messages have distinct names, none of them under way. -/
structure Walk.Clear (path : List Message) (w : Walk) : Prop where
  nodup : (w.finished.map (·.name)).Nodup
  unfinished : ∀ x ∈ path, x.name ∉ w.finished.map (·.name)

/-- A message that is neither finished nor under way may get under way; it is finished when all
messages visited on the way are, and these leave its name alone. -/
lemma Visits.clear (h : Visits messages path w errand w') (hw : w.Clear path) : w'.Clear path := by
  induction h with
  | known _ => exact hw
  | cycle _ _ => exact ⟨hw.nodup, hw.unfinished⟩
  | @finish path w m w' hdone hnew _ ih =>
    have hfields : w'.Clear (m :: path) := by
      refine ih ⟨hw.nodup, List.forall_mem_cons.2 ⟨fun h => hdone (done_iff.2 h), hw.unfinished⟩⟩
    obtain ⟨hm, hpath⟩ := List.forall_mem_cons.1 hfields.unfinished
    refine ⟨?_, fun x hx => ?_⟩
    · rw [List.map_cons, List.nodup_cons]
      exact ⟨hm, hfields.nodup⟩
    · rw [List.map_cons, List.mem_cons, not_or]
      exact ⟨fun hname => hnew (hname ▸ List.mem_map_of_mem hx), hpath x hx⟩
  | nil => exact hw
  | pass _ _ ih => exact ih hw
  | follow _ _ _ ih₁ ih₂ => exact ih₂ (ih₁ hw)

end TypedFetch.Schema
