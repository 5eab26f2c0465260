import TypedFetch.Proofs.Schema.Dependencies

/-!
# The order is stable

Where each message already follows those that its fields refer to (`InOrder`), the walk has nothing
to move: when it comes to a message, everything that the fields refer to is finished
(`Visits.eq_of_done`), so the messages are finished as they are listed (`walk_of_inOrder`).  What
the order gives of messages without cycles is such a list, so ordering it again changes nothing.

The main statement is `dependencyOrder_stable`.
-/

namespace TypedFetch.Schema

open Relation (ReflTransGen TransGen)
open scoped List

variable {messages : List Message}

/-- Each message comes after those of the list that its fields refer to. -/
def InOrder (messages : List Message) : Prop :=
  ∀ m ∈ messages, ∀ d ∈ messages, m.DependsOn d → [d, m] <+ messages

instance (m d : Message) : Decidable (m.DependsOn d) :=
  inferInstanceAs (Decidable (∃ f ∈ m.fields, referredName f.typeName = d.name))

instance (messages : List Message) : Decidable (InOrder messages) :=
  inferInstanceAs (Decidable (∀ m ∈ messages, ∀ d ∈ messages, m.DependsOn d → [d, m] <+ messages))

/-! ## Lists in order -/

/-- In a list without repetition, what comes before an element stands in front of it. -/
lemma mem_of_pair_sublist {α : Type} {before after : List α} {d m : α}
    (hnodup : (before ++ m :: after).Nodup) (h : [d, m] <+ before ++ m :: after) : d ∈ before := by
  have hm : m ∉ after := (List.nodup_cons.1 hnodup.of_append_right).1
  obtain ⟨front, back, hsplit, hfront, hback⟩ := List.sublist_append_iff.1 h
  cases front with
  | nil =>
    -- nothing of the pair is in front, so `m` is found behind itself
    obtain rfl : back = [d, m] := hsplit.symm
    have hafter : m ∈ after := by
      rcases List.sublist_cons_iff.1 hback with hlater | ⟨rest, hrest, hlater⟩
      · exact hlater.subset (by simp)
      · obtain ⟨-, rfl⟩ := List.cons.inj hrest
        exact hlater.subset (by simp)
    exact absurd hafter hm
  | cons x front =>
    obtain ⟨rfl, -⟩ := List.cons.inj hsplit
    exact hfront.subset List.mem_cons_self

/-- Messages in order lead back nowhere. -/
lemma InOrder.acyclic (hnodup : messages.Nodup) (h : InOrder messages) (m : Message) :
    ¬ TransGen (Dependency messages) m m := by
  have hbefore : ∀ a b, TransGen (Dependency messages) a b → [b, a] <+ messages := by
    intro a b hab
    induction hab with
    | single hedge => exact h _ hedge.1 _ hedge.2.1 hedge.2.2
    | tail _ hedge ih =>
      exact pair_sublist_trans hnodup (h _ hedge.1 _ hedge.2.1 hedge.2.2) ih
  intro hm
  exact absurd (hnodup.sublist (hbefore m m hm)) (by simp)

/-- More messages keep all chains of dependencies. -/
lemma leads_of_subset {kept : List Message} (hkept : kept ⊆ messages) {m d : Message}
    (h : TransGen (Dependency kept) m d) : TransGen (Dependency messages) m d :=
  TransGen.mono (fun _ _ hedge => ⟨hkept hedge.1, hkept hedge.2.1, hedge.2.2⟩) m d h

/-! ## The walk through a list in order -/

/-- Fields that refer to finished messages only lead nowhere. -/
lemma Visits.eq_of_done {path : List Message} {w w' : Walk} {fields : List Field}
    (h : Visits messages path w (.fields fields) w')
    (hdone : ∀ f ∈ fields, ∀ d, messageNamed? messages (referredName f.typeName) = some d →
      w.done d.name) : w' = w := by
  induction fields generalizing w with
  | nil =>
    cases h
    rfl
  | cons f fields ih =>
    have hrest := fun g hg => hdone g (List.mem_cons_of_mem f hg)
    cases h with
    | pass _ hfields => exact ih hfields hrest
    | follow hd hfirst hfields =>
      have hknown := hdone f List.mem_cons_self _ hd
      cases hfirst with
      | known _ => exact ih hfields hrest
      | cycle hnew _ => exact absurd hknown hnew
      | finish hnew _ _ => exact absurd hknown hnew

/-- Messages in order are finished as they are listed, and none is met while it is under way. -/
lemma walk_of_inOrder (hnames : (messages.map (·.name)).Nodup) (h : InOrder messages) :
    (walk messages).finished = messages.reverse ∧ (walk messages).cycles = [] := by
  refine walk_induction (P := fun before w => w.finished = before.reverse ∧ w.cycles = [])
    ⟨rfl, rfl⟩ ?_
  rintro before m after w w' hsplit ⟨hfinished, hcycles⟩ hvisit
  have hdone : ∀ x, w.done x = true ↔ x ∈ before.map (·.name) := by
    intro x
    rw [done_iff, hfinished, List.map_reverse, List.mem_reverse]
  have hnew : ¬ w.done m.name := by
    rw [hsplit, List.map_append, List.map_cons, List.nodup_append'] at hnames
    rw [hdone]
    exact fun hm => hnames.2.2 hm List.mem_cons_self
  cases hvisit with
  | known hknown => exact absurd hknown hnew
  | cycle _ hpath => exact absurd hpath (by simp)
  | @finish _ _ _ w'' _ _ hfields =>
    -- what the fields refer to stands earlier in the list, so it is finished already
    have hsame : w'' = w := by
      refine hfields.eq_of_done fun f hf d hd => (hdone _).2 ?_
      have hpair : [d, m] <+ messages := h m (by simp [hsplit]) d (mem_of_messageNamed? hd)
        ⟨f, hf, (name_of_messageNamed? hd).symm⟩
      have hmessages : messages.Nodup := hnames.of_map
      rw [hsplit] at hpair hmessages
      exact List.mem_map_of_mem (mem_of_pair_sublist hmessages hpair)
    subst hsame
    simp [hfinished, hcycles]

lemma dependencyOrder_eq_self (hnames : (messages.map (·.name)).Nodup) (h : InOrder messages) :
    dependencyOrder messages = messages := by
  rw [dependencyOrder, (walk_of_inOrder hnames h).1, List.reverse_reverse]

/-! ## Ordering without cycles -/

section Acyclic

variable (hacyclic : ∀ m, ¬ TransGen (Dependency messages) m m)

include hacyclic

/-- The kept messages have no other dependencies than all messages. -/
lemma not_leads_back_dependencyOrder (m : Message) :
    ¬ TransGen (Dependency (dependencyOrder messages)) m m :=
  fun hm => hacyclic m (leads_of_subset (fun _ => mem_of_mem_dependencyOrder) hm)

lemma inOrder_dependencyOrder : InOrder (dependencyOrder messages) := by
  intro m hm d hd hdep
  have hedge : Dependency (dependencyOrder messages) m d := ⟨hm, hd, hdep⟩
  rcases ordered_walk.follows m (List.mem_reverse.1 hm) d hedge with hbefore | ⟨hback, -⟩
  · exact List.reverse_sublist.2 hbefore
  · exact absurd (TransGen.head' hedge hback) (not_leads_back_dependencyOrder hacyclic m)

lemma cycleEvents_eq_nil : TypeScript.cycleEvents messages = [] := by
  have hcycles : (walk messages).cycles = [] := by
    by_contra hne
    obtain ⟨m, hm⟩ := ordered_walk.cyclic hne
    exact not_leads_back_dependencyOrder hacyclic m hm
  simp [TypeScript.cycleEvents, dependencyCycles, hcycles]

end Acyclic

/-- **Stability.**  Messages with distinct names and no cycle of dependencies stay as they are just
if each of them already follows those that its fields refer to.  So ordering what has been ordered
changes nothing; and no warning is given, neither the first nor the second time. -/
theorem dependencyOrder_stable (hnames : (messages.map (·.name)).Nodup)
    (hacyclic : ∀ m, ¬ TransGen (Dependency messages) m m) :
    (dependencyOrder messages = messages ↔ InOrder messages) ∧
    dependencyOrder (dependencyOrder messages) = dependencyOrder messages ∧
    TypeScript.cycleEvents messages = [] ∧
    TypeScript.cycleEvents (dependencyOrder messages) = [] := by
  have horder := inOrder_dependencyOrder hacyclic
  refine ⟨⟨fun hsame => hsame ▸ horder, dependencyOrder_eq_self hnames⟩, ?_,
    cycleEvents_eq_nil hacyclic, ?_⟩
  · exact dependencyOrder_eq_self nodup_map_name_dependencyOrder horder
  · exact cycleEvents_eq_nil (not_leads_back_dependencyOrder hacyclic)

/-- A street with a number. -/
def addressMessage : Message :=
  { name := "Address", fields := [{ name := "street", typeName := "string", number := 1 }] }

/-- A user with several addresses. -/
def userMessage : Message :=
  { name := "User"
    fields := [
      { name := "home", typeName := "Address", number := 1 },
      { name := "others", typeName := "Address[]", repeated := true, number := 2 }] }

/-- Users by their names. -/
def directoryMessage : Message :=
  { name := "Directory"
    fields := [{ name := "users", typeName := "User", mapKeyType := some "string", number := 1 }] }

/-- A directory that is declared before its users and their addresses comes behind them, and stays
there. -/
theorem dependencyOrder_stable_directory :
    dependencyOrder [directoryMessage, addressMessage, userMessage] =
      [addressMessage, userMessage, directoryMessage] ∧
    dependencyOrder [addressMessage, userMessage, directoryMessage] =
      [addressMessage, userMessage, directoryMessage] ∧
    TypeScript.cycleEvents [addressMessage, userMessage, directoryMessage] = [] := by
  have hsorted : dependencyOrder [directoryMessage, addressMessage, userMessage] =
      [addressMessage, userMessage, directoryMessage] := by decide
  have hacyclic : ∀ m, ¬ TransGen
      (Dependency [directoryMessage, addressMessage, userMessage]) m m := by
    have horder : InOrder [addressMessage, userMessage, directoryMessage] := by decide
    exact fun m hm => horder.acyclic (by decide) m (leads_of_subset (by simp) hm)
  obtain ⟨-, hagain, -, hquiet⟩ := dependencyOrder_stable (by decide) hacyclic
  rw [hsorted] at hagain hquiet
  exact ⟨hsorted, hagain, hquiet⟩

end TypedFetch.Schema
