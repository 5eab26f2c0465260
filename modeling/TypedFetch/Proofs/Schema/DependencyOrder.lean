import TypedFetch.Proofs.Schema.Visits

/-!
# What the order of messages contains

The order holds messages of the given list only, and every name of the list occurs in it once.  A
message may be left out where a walk comes back to it, but a visit that starts at a message of the
list has nothing under way and ends with the name of that message finished.
-/

namespace TypedFetch.Schema

variable {messages : List Message}

/-- A visit of a message that is not under way finishes its name. -/
lemma Visits.name_mem_of_not_mem {path : List Message} {w w' : Walk} {m : Message}
    (h : Visits messages path w (.message m) w') (hpath : m.name ∉ path.map (·.name)) :
    m.name ∈ w'.finished.map (·.name) := by
  cases h with
  | known hdone => exact done_iff.1 hdone
  | cycle _ hcycle => exact absurd hcycle hpath
  | finish _ _ _ => exact List.mem_map_of_mem List.mem_cons_self

lemma mem_finished_walk : ∀ x ∈ (walk messages).finished, x ∈ messages := by
  refine walk_induction (P := fun _ w => ∀ x ∈ w.finished, x ∈ messages) (by simp) ?_
  intro before m after w w' hsplit hw hvisit x hx
  rcases hvisit.finished_cases x hx with hold | hmessage | hlast
  · exact hw x hold
  · obtain rfl := Errand.message.inj hmessage
    rw [hsplit]
    simp
  · exact mem_of_messageNamed? hlast

lemma name_mem_walk :
    ∀ m ∈ messages, m.name ∈ (walk messages).finished.map (·.name) := by
  refine walk_induction
    (P := fun before w => ∀ m ∈ before, m.name ∈ w.finished.map (·.name)) (by simp) ?_
  intro before m after w w' _ hw hvisit x hx
  rcases List.mem_append.1 hx with hx | hx
  · exact hvisit.name_mem (hw x hx)
  · obtain rfl := List.mem_singleton.1 hx
    exact hvisit.name_mem_of_not_mem (by simp)

/-- The order holds messages of the list only. -/
theorem mem_of_mem_dependencyOrder {m : Message} (h : m ∈ dependencyOrder messages) :
    m ∈ messages :=
  mem_finished_walk m (List.mem_reverse.1 h)

/-- The names in the order are the names of the list. -/
theorem mem_map_name_dependencyOrder {n : String} :
    n ∈ (dependencyOrder messages).map (·.name) ↔ n ∈ messages.map (·.name) := by
  constructor
  · intro hn
    obtain ⟨m, hm, rfl⟩ := List.mem_map.1 hn
    exact List.mem_map_of_mem (mem_of_mem_dependencyOrder hm)
  · intro hn
    obtain ⟨m, hm, rfl⟩ := List.mem_map.1 hn
    rw [dependencyOrder, List.map_reverse, List.mem_reverse]
    exact name_mem_walk m hm

/-- The order holds each name once. -/
theorem nodup_map_name_dependencyOrder : ((dependencyOrder messages).map (·.name)).Nodup := by
  have hwalk : Walk.Clear [] (walk messages) :=
    walk_induction (P := fun _ w => Walk.Clear [] w) ⟨by simp, by simp⟩
      fun _ _ _ _ _ _ hw hvisit => hvisit.clear hw
  rw [dependencyOrder, List.map_reverse, List.nodup_reverse]
  exact hwalk.nodup

end TypedFetch.Schema
