import TypedFetch.Proofs.Schema.Dependencies
import TypedFetch.Proofs.TypeScript.FirstOfEachName

/-!
# Which declaration of a name is kept

Several files may declare messages of one name, and the order keeps one of them.  A visit that
starts at a message of the list keeps the first message of its name.  A visit that comes from the
field of another message looks the name up, and finds the last one.  So the last one is kept exactly
if the name is overtaken: if a kept message whose name is declared earlier leads to it.

Builder classes are always made from the first message of a name, and interfaces from the one that
is kept.  The two have the same fields unless the name is overtaken by a last message with other
fields.  The main statement is `kept_declaration`.
-/

namespace TypedFetch.Schema

open Relation (ReflTransGen TransGen)
open TypedFetch.TypeScript

variable {messages : List Message}

/-- A kept message whose name is declared earlier leads to the message. -/
def Overtaken (messages : List Message) (m : Message) : Prop :=
  ∃ x ∈ dependencyOrder messages,
    (messages.map (·.name)).idxOf x.name < (messages.map (·.name)).idxOf m.name ∧
      TransGen (Dependency (dependencyOrder messages)) x m

/-! ## What a visit leads to -/

/-- The errand leads to a message through kept messages. -/
def Errand.LeadsTo (kept : List Message) (x : Message) : Errand → Prop
  | .message m => x = m ∨ TransGen (Dependency kept) m x
  | .fields fs => ∃ f ∈ fs, ∃ d ∈ kept, d.name = referredName f.typeName ∧
      ReflTransGen (Dependency kept) d x

lemma Visits.leadsTo {kept path : List Message} {w w' : Walk} {errand : Errand}
    (h : Visits messages path w errand w') (hfinished : w'.finished ⊆ kept) :
    ∀ x ∈ w'.finished, x ∈ w.finished ∨ errand.LeadsTo kept x := by
  induction h with
  | known _ => exact fun x hx => Or.inl hx
  | cycle _ _ => exact fun x hx => Or.inl hx
  | finish _ _ _ ih =>
    intro x hx
    -- a message leads to itself, and through its fields to what they lead to
    obtain ⟨hm, hrest⟩ := List.cons_subset.1 hfinished
    rcases List.mem_cons.1 hx with rfl | hx
    · exact Or.inr (Or.inl rfl)
    · refine (ih hrest x hx).imp_right ?_
      rintro ⟨f, hf, d, hd, hname, hlead⟩
      exact Or.inr (TransGen.head' ⟨hm, hd, f, hf, hname.symm⟩ hlead)
  | nil => exact fun x hx => Or.inl hx
  | pass _ _ ih =>
    intro x hx
    refine (ih hfinished x hx).imp_right ?_
    rintro ⟨f, hf, hlead⟩
    exact ⟨f, List.mem_cons_of_mem _ hf, hlead⟩
  | @follow path w f fs d w₁ w' hd _ hrest ih₁ ih₂ =>
    intro x hx
    -- finished by the first field that is followed, or by a later one
    rcases ih₂ hfinished x hx with hfirst | ⟨f', hf', hlead⟩
    · refine (ih₁ (List.Subset.trans hrest.finished_suffix.subset hfinished) x hfirst).imp_right ?_
      intro hlead
      refine ⟨f, List.mem_cons_self, d, ?_, name_of_messageNamed? hd, ?_⟩
      · rcases hlead with rfl | hlead
        · exact hfinished hx
        · obtain ⟨y, hedge, -⟩ := TransGen.head'_iff.1 hlead
          exact hedge.1
      · rcases hlead with rfl | hlead
        · exact .refl
        · exact hlead.to_reflTransGen
    · exact Or.inr ⟨f', List.mem_cons_of_mem _ hf', hlead⟩

/-- All that finished messages refer to is met. -/
def Walk.Closed (messages path : List Message) (w : Walk) : Prop :=
  ∀ k ∈ w.finished, (Errand.fields k.fields).MetIn messages path w

lemma Visits.closed {path : List Message} {w w' : Walk} {errand : Errand}
    (h : Visits messages path w errand w') (hw : w.Closed messages path) :
    w'.Closed messages path := by
  induction h with
  | known _ => exact hw
  | @cycle path w m hdone hpath =>
    have hcycle : Visits messages path w (.message m) { w with cycles := m.name :: w.cycles } :=
      .cycle hdone hpath
    exact fun k hk f hf d hd => hcycle.met_of_met (hw k hk f hf d hd)
  | @finish path w m w' hdone hnew hfields ih =>
    have hw' : w'.Closed messages (m :: path) := by
      refine ih fun k hk f hf d hd => (hw k hk f hf d hd).imp_right ?_
      exact fun hunder => ⟨List.mem_cons_of_mem _ hunder.1, hunder.2⟩
    -- once the message itself is finished, nothing is met by its being under way
    have hpush : ∀ n, w'.Met (m :: path) n →
        Walk.Met path { w' with finished := m :: w'.finished } n := by
      rintro n (hn | ⟨hn, hcycles⟩)
      · exact Or.inl (List.mem_cons_of_mem _ hn)
      · rcases List.mem_cons.1 hn with rfl | hn
        · exact Or.inl List.mem_cons_self
        · exact Or.inr ⟨hn, hcycles⟩
    intro k hk f hf d hd
    rcases List.mem_cons.1 hk with rfl | hk
    · exact hpush _ (hfields.met f hf d hd)
    · exact hpush _ (hw' k hk f hf d hd)
  | nil => exact hw
  | pass _ _ ih => exact ih hw
  | follow _ _ _ ih₁ ih₂ => exact ih₂ (ih₁ hw)

/-! ## Which message of a name is finished -/

/-- The messages of a part of the list have been visited: their names are finished with all that
they lead to, and each finished message is the first of its name, or the last if it is overtaken. -/
structure Walk.Traced (messages before : List Message) (w : Walk) : Prop where
  visited : ∀ y ∈ before, y.name ∈ w.finished.map (·.name)
  closed : w.Closed messages []
  first : ∀ k ∈ w.finished, ¬ Overtaken messages k → messages.find? (·.name == k.name) = some k
  last : ∀ k ∈ w.finished, Overtaken messages k → messageNamed? messages k.name = some k

/-- Kept messages of one name are the same. -/
lemma eq_of_name_eq {x y : Message} (hx : x ∈ dependencyOrder messages)
    (hy : y ∈ dependencyOrder messages) (hname : x.name = y.name) : x = y :=
  List.inj_on_of_nodup_map nodup_map_name_dependencyOrder hx hy hname

/-- A kept message whose name is finished is finished itself. -/
lemma mem_finished_of_name_mem {w : Walk} (hfinished : w.finished ⊆ dependencyOrder messages)
    {x : Message} (hx : x ∈ dependencyOrder messages) (hname : x.name ∈ w.finished.map (·.name)) :
    x ∈ w.finished := by
  obtain ⟨y, hy, hyname⟩ := List.mem_map.1 hname
  rwa [← eq_of_name_eq (hfinished hy) hx hyname]

/-- With a message all that it leads to is finished. -/
lemma Walk.Closed.mem_of_leads {w : Walk} (hw : w.Closed messages [])
    (hfinished : w.finished ⊆ dependencyOrder messages) {x y : Message} (hx : x ∈ w.finished)
    (hlead : TransGen (Dependency (dependencyOrder messages)) x y) : y ∈ w.finished := by
  have hedge : ∀ a ∈ w.finished, ∀ b, Dependency (dependencyOrder messages) a b →
      b ∈ w.finished := by
    rintro a ha b ⟨-, hb, f, hf, hname⟩
    obtain ⟨d, hd⟩ := exists_messageNamed? (mem_of_mem_dependencyOrder hb)
    refine mem_finished_of_name_mem hfinished hb ?_
    rw [← name_of_messageNamed? hd]
    simpa [Walk.Met] using hw a ha f hf d (by rw [hname, hd])
  induction hlead with
  | single hab => exact hedge _ hx _ hab
  | tail _ hbc ih => exact hedge _ ih _ hbc

lemma idxOf_append_cons {before after : List String} {n : String} (h : n ∉ before) :
    (before ++ n :: after).idxOf n = before.length := by
  rw [List.idxOf_append_of_notMem h, List.idxOf_cons_self, Nat.add_zero]

lemma length_lt_idxOf {before after : List String} {n n' : String} (h : n' ∉ before)
    (hne : n ≠ n') : before.length < (before ++ n :: after).idxOf n' := by
  rw [List.idxOf_append_of_notMem h, List.idxOf_cons_ne _ hne]
  omega

lemma mem_of_idxOf_lt {before after : List String} {n : String}
    (h : (before ++ after).idxOf n < before.length) : n ∈ before := by
  by_contra hn
  rw [List.idxOf_append_of_notMem hn] at h
  omega

section Step

variable {before after : List Message} {m : Message} {w w' : Walk}

/-- A message that is visited in its turn is the first of its name, and not overtaken: whatever
could lead to it would have finished its name before. -/
lemma Walk.Traced.turn (hsplit : messages = before ++ m :: after) (hw : w.Traced messages before)
    (hfinished : w.finished ⊆ dependencyOrder messages) (hm : m.name ∉ w.finished.map (·.name)) :
    messages.find? (·.name == m.name) = some m ∧ ¬ Overtaken messages m := by
  have hnew : m.name ∉ before.map (·.name) := by
    intro h
    obtain ⟨y, hy, hname⟩ := List.mem_map.1 h
    exact hm (hname ▸ hw.visited y hy)
  constructor
  · have hnone : before.find? (·.name == m.name) = none := by simpa using hnew
    rw [hsplit, List.find?_append, hnone]
    simp
  · rintro ⟨x, hx, hidx, hlead⟩
    have hbefore : x.name ∈ before.map (·.name) := by
      rw [hsplit, List.map_append, List.map_cons, idxOf_append_cons hnew] at hidx
      exact mem_of_idxOf_lt (by simpa using hidx)
    obtain ⟨y, hy, hname⟩ := List.mem_map.1 hbefore
    have hxw := mem_finished_of_name_mem hfinished hx (hname ▸ hw.visited y hy)
    exact hm (List.mem_map_of_mem (hw.closed.mem_of_leads hfinished hxw hlead))

/-- What a visit finishes on its way from a message is overtaken by that message. -/
lemma Walk.Traced.overtaken (hsplit : messages = before ++ m :: after)
    (hw : w.Traced messages before) (hfinished : w.finished ⊆ dependencyOrder messages)
    {k : Message} (hk : k.name ∉ w.finished.map (·.name)) (hne : k ≠ m)
    (hlead : TransGen (Dependency (dependencyOrder messages)) m k) : Overtaken messages k := by
  have hm : m ∈ dependencyOrder messages := by
    obtain ⟨y, hedge, -⟩ := TransGen.head'_iff.1 hlead
    exact hedge.1
  have hkept : k ∈ dependencyOrder messages := by
    obtain ⟨y, -, hedge⟩ := TransGen.tail'_iff.1 hlead
    exact hedge.2.1
  have hbefore : ∀ x ∈ dependencyOrder messages, x ∉ w.finished →
      x.name ∉ before.map (·.name) := by
    intro x hx hxw h
    obtain ⟨y, hy, hname⟩ := List.mem_map.1 h
    exact hxw (mem_finished_of_name_mem hfinished hx (hname ▸ hw.visited y hy))
  have hkw : k ∉ w.finished := fun h => hk (List.mem_map_of_mem h)
  have hmw : m ∉ w.finished := fun h => hkw (hw.closed.mem_of_leads hfinished h hlead)
  refine ⟨m, hm, ?_, hlead⟩
  rw [hsplit, List.map_append, List.map_cons, idxOf_append_cons (hbefore m hm hmw)]
  exact length_lt_idxOf (hbefore k hkept hkw) fun hname => hne (eq_of_name_eq hm hkept hname).symm

/-- The next visit keeps track. -/
lemma Walk.Traced.step (hsplit : messages = before ++ m :: after) (hw : w.Traced messages before)
    (hvisit : Visits messages [] w (.message m) w')
    (hfinished : w'.finished ⊆ dependencyOrder messages) : w'.Traced messages (before ++ [m]) := by
  have hwfinished := List.Subset.trans hvisit.finished_suffix.subset hfinished
  -- a message that is new is the one whose turn it is, or the last of its name, reached from there
  have hnew : ∀ k ∈ w'.finished, k ∉ w.finished →
      (k = m ∧ messages.find? (·.name == k.name) = some k ∧ ¬ Overtaken messages k) ∨
      (messageNamed? messages k.name = some k ∧ Overtaken messages k) := by
    intro k hk hkw
    have hkname : k.name ∉ w.finished.map (·.name) := fun h =>
      hkw (mem_finished_of_name_mem hwfinished (hfinished hk) h)
    by_cases hkm : k = m
    · subst hkm
      exact Or.inl ⟨rfl, hw.turn hsplit hwfinished hkname⟩
    · have hlast := ((hvisit.finished_cases k hk).resolve_left hkw).resolve_left
        fun h => hkm (Errand.message.inj h).symm
      have hlead := ((hvisit.leadsTo hfinished k hk).resolve_left hkw).resolve_left hkm
      exact Or.inr ⟨hlast, hw.overtaken hsplit hwfinished hkname hkm hlead⟩
  refine ⟨?_, hvisit.closed hw.closed, fun k hk hnot => ?_, fun k hk hover => ?_⟩
  · intro y hy
    rcases List.mem_append.1 hy with hy | hy
    · exact hvisit.name_mem (hw.visited y hy)
    · obtain rfl := List.mem_singleton.1 hy
      exact hvisit.name_mem_of_not_mem (by simp)
  · by_cases hkw : k ∈ w.finished
    · exact hw.first k hkw hnot
    · rcases hnew k hk hkw with ⟨-, hfirst, -⟩ | ⟨-, hover⟩
      · exact hfirst
      · exact absurd hover hnot
  · by_cases hkw : k ∈ w.finished
    · exact hw.last k hkw hover
    · rcases hnew k hk hkw with ⟨-, -, hnot⟩ | ⟨hlast, -⟩
      · exact absurd hover hnot
      · exact hlast

end Step

lemma traced_walk : (walk messages).Traced messages messages := by
  have hwalk : (walk messages).finished ⊆ dependencyOrder messages →
      (walk messages).Traced messages messages := by
    refine walk_induction (P := fun before w => w.finished ⊆ dependencyOrder messages →
      w.Traced messages before) (fun _ => ⟨by simp, by simp [Walk.Closed], by simp, by simp⟩) ?_
    intro before m after w w' hsplit hw hvisit hfinished
    have hwfinished := List.Subset.trans hvisit.finished_suffix.subset hfinished
    exact (hw hwfinished).step hsplit hvisit hfinished
  exact hwalk fun x hx => List.mem_reverse.2 hx

/-! ## Interfaces and builders -/

/-- The only kept message of its name. -/
lemma filter_name_eq {k : Message} (hk : k ∈ dependencyOrder messages) :
    (dependencyOrder messages).filter (·.name == k.name) = [k] := by
  have hnodup : ((dependencyOrder messages).map (·.name)).Nodup := nodup_map_name_dependencyOrder
  obtain ⟨before, after, hsplit⟩ := List.append_of_mem hk
  rw [hsplit, List.map_append, List.map_cons, List.nodup_append, List.nodup_cons] at hnodup
  obtain ⟨-, ⟨hafter, -⟩, hbefore⟩ := hnodup
  rw [hsplit, List.filter_append, List.filter_cons_of_pos (by simp)]
  have hnone : ∀ l : List Message, k.name ∉ l.map (·.name) →
      l.filter (·.name == k.name) = [] := by
    intro l hl
    rw [List.filter_eq_nil_iff]
    intro x hx hname
    exact hl (eq_of_beq hname ▸ List.mem_map_of_mem hx)
  rw [hnone after hafter, hnone before fun h => hbefore _ h _ List.mem_cons_self rfl]
  rfl

/-- Of the messages of one name the first is kept, unless the name is overtaken: then it is the
last. -/
lemma kept_cases {messages : List Message} {k : Message} (hk : k ∈ dependencyOrder messages) :
    (¬ Overtaken messages k → messages.find? (·.name == k.name) = some k) ∧
      (Overtaken messages k → messageNamed? messages k.name = some k) :=
  ⟨traced_walk.first k (List.mem_reverse.1 hk), traced_walk.last k (List.mem_reverse.1 hk)⟩

/-- **First and last declarations.**  Of the messages of one name the first is kept, or the last if
a message whose name is declared earlier leads to it.  The interface under the name of a builder
class is made from the kept one, which has the fields of the message that the class is made from
unless it is overtaken by a last message with other fields. -/
theorem kept_declaration (messages : List Message) (policy : TypePolicy) (features : Features)
    (schema : Schema) (marker : String) :
    (∀ k ∈ dependencyOrder messages,
      (¬ Overtaken messages k → messages.find? (·.name == k.name) = some k) ∧
      (Overtaken messages k → messageNamed? messages k.name = some k)) ∧
    ∀ b ∈ messagesMarked marker schema.messages, ∃ k ∈ dependencyOrder schema.messages,
      (schemaDeclarations policy features schema).1.filter (·.name == b.name) =
        [interfaceOf policy features k] ∧
      (k.fields = b.fields ↔ (Overtaken schema.messages k →
        ∀ l, messageNamed? schema.messages b.name = some l → l.fields = b.fields)) := by
  refine ⟨fun k => kept_cases, fun b hb => ?_⟩
  have hfirst := List.mem_of_mem_filter hb
  have hname : b.name ∈ (dependencyOrder schema.messages).map (·.name) :=
    mem_map_name_dependencyOrder.2 (List.mem_map_of_mem (mem_of_mem_firstOfEachName _ hfirst))
  obtain ⟨k, hk, hkname⟩ := List.mem_map.1 hname
  refine ⟨k, hk, ?_, ?_⟩
  · rw [schemaDeclarations, List.filter_map, ← hkname]
    exact congrArg _ (filter_name_eq hk)
  · by_cases hover : Overtaken schema.messages k
    · have hlast := (kept_cases hk).2 hover
      rw [hkname] at hlast
      constructor
      · intro hfields _ l hl
        obtain rfl := Option.some.inj (hlast.symm.trans hl)
        exact hfields
      · exact fun h => h hover k hlast
    · have hfirstk := (kept_cases hk).1 hover
      rw [hkname, find?_of_mem_firstOfEachName _ hfirst] at hfirstk
      obtain rfl := Option.some.inj hfirstk
      exact ⟨fun _ h => absurd h hover, fun _ => rfl⟩

-- the request is declared before both filters and refers to their name, so the last one is kept
example :
    let request : Message :=
      { name := "Find", fields := [{ name := "by", typeName := "Filter", number := 1 }] }
    let first : Message := { name := "Filter" }
    let last : Message :=
      { name := "Filter", fields := [{ name := "id", typeName := "int32", number := 1 }] }
    dependencyOrder [request, first, last] = [last, request] := by
  decide

end TypedFetch.Schema
