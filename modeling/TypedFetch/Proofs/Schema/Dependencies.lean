import Mathlib.Logic.Relation
import TypedFetch.Proofs.Schema.DependencyOrder
import TypedFetch.TypeScript.Types

/-!
# The order follows the dependencies

A message depends on those that its fields refer to.  Among the messages of the order, a message
comes after one that it depends on, unless that one leads back to it; and a cycle is reported
exactly if there is one.  The main statement is `dependencyOrder_bestEffort`.

The messages under way are a chain of dependencies, each leading to what is visited next
(`Errand.LedBy`).  So when a visit comes back to a message under way, this message leads back to
itself.  Conversely, a dependency that is not finished before the message that has it was under way
at that time, and meeting it was reported.  As long as nothing is reported, all dependencies of
finished messages are finished before them, and there can be no cycle.
-/

namespace TypedFetch.Schema

open Relation (ReflTransGen TransGen)
open scoped List

variable {messages : List Message}

/-- A field of the message refers to another one by its name. -/
def Message.DependsOn (m d : Message) : Prop :=
  ∃ f ∈ m.fields, referredName f.typeName = d.name

/-- A message depends on another one, and both are kept. -/
def Dependency (kept : List Message) (m d : Message) : Prop :=
  m ∈ kept ∧ d ∈ kept ∧ m.DependsOn d

/-! ## What is met on the way -/

/-- The name is finished, or it was under way and a cycle is reported. -/
def Walk.Met (path : List Message) (w : Walk) (name : String) : Prop :=
  name ∈ w.finished.map (·.name) ∨ (name ∈ path.map (·.name) ∧ w.cycles ≠ [])

lemma Visits.met_of_met {path : List Message} {w w' : Walk} {errand : Errand}
    (h : Visits messages path w errand w') {name : String} (hname : w.Met path name) :
    w'.Met path name := by
  rcases hname with hfinished | ⟨hpath, hcycles⟩
  · exact Or.inl (h.name_mem hfinished)
  · refine Or.inr ⟨hpath, fun hnil => hcycles ?_⟩
    rw [← List.suffix_nil, ← hnil]
    exact h.cycles_suffix

/-- Everything that was to be visited is met. -/
def Errand.MetIn (messages path : List Message) (w : Walk) : Errand → Prop
  | .message m => w.Met path m.name
  | .fields fs => ∀ f ∈ fs, ∀ d,
      messageNamed? messages (referredName f.typeName) = some d → w.Met path d.name

lemma Visits.met {path : List Message} {w w' : Walk} {errand : Errand}
    (h : Visits messages path w errand w') : errand.MetIn messages path w' := by
  induction h with
  | known hdone => exact Or.inl (done_iff.1 hdone)
  | cycle _ hpath => exact Or.inr ⟨hpath, by simp⟩
  | finish _ _ _ _ => exact Or.inl (List.mem_map_of_mem List.mem_cons_self)
  | nil => exact fun f hf => absurd hf List.not_mem_nil
  | pass hnone _ ih =>
    intro f hf d hd
    rcases List.mem_cons.1 hf with rfl | hf
    · rw [hnone] at hd
      exact absurd hd (by simp)
    · exact ih f hf d hd
  | follow hd _ hrest ih₁ ih₂ =>
    intro f hf d' hd'
    rcases List.mem_cons.1 hf with rfl | hf
    · obtain rfl := Option.some.inj (hd.symm.trans hd')
      exact hrest.met_of_met ih₁
    · exact ih₂ f hf d' hd'

/-! ## Finished messages and their dependencies -/

/-- Finished messages come after their dependencies, the last one first; where one does not, the
dependency leads back to the message and a cycle is reported.  Reported cycles exist. -/
structure Walk.Ordered (kept : List Message) (w : Walk) : Prop where
  follows : ∀ m ∈ w.finished, ∀ d, Dependency kept m d →
    [m, d] <+ w.finished ∨ (ReflTransGen (Dependency kept) d m ∧ w.cycles ≠ [])
  cyclic : w.cycles ≠ [] → ∃ m, TransGen (Dependency kept) m m

lemma Walk.Ordered.report {kept : List Message} {w : Walk} (hw : w.Ordered kept) {x : Message}
    (hx : TransGen (Dependency kept) x x) (name : String) :
    Walk.Ordered kept { w with cycles := name :: w.cycles } := by
  refine ⟨fun m hm d hd => ?_, fun _ => ⟨x, hx⟩⟩
  rcases hw.follows m hm d hd with hbefore | ⟨hback, -⟩
  · exact Or.inl hbefore
  · exact Or.inr ⟨hback, by simp⟩

/-- All messages under way lead to the kept message that is visited next. -/
def Errand.LedBy (kept path : List Message) : Errand → Prop
  | .message m => ∀ d ∈ kept, d.name = m.name → ∀ x ∈ path, TransGen (Dependency kept) x d
  | .fields fs => ∀ f ∈ fs, ∀ d ∈ kept, d.name = referredName f.typeName →
      ∀ x ∈ path, TransGen (Dependency kept) x d

/-- The messages under way, and a message that joins them, lead to what its fields refer to. -/
lemma Errand.LedBy.fields {kept path : List Message} {m : Message} (hm : m ∈ kept)
    (hlead : (Errand.message m).LedBy kept path) :
    (Errand.fields m.fields).LedBy kept (m :: path) := by
  intro f hf d hd hname x hx
  have hedge : Dependency kept m d := ⟨hm, hd, f, hf, hname.symm⟩
  rcases List.mem_cons.1 hx with rfl | hx
  · exact .single hedge
  · exact (hlead m hm rfl x hx).tail hedge

section Kept

variable {kept : List Message} (hnodup : (kept.map (·.name)).Nodup) (hkept : kept ⊆ messages)

include hnodup hkept

/-- A message is finished after its dependencies, which are all met. -/
lemma Walk.Ordered.finish {path : List Message} {w : Walk} {m : Message} (hw : w.Ordered kept)
    (hmet : (Errand.fields m.fields).MetIn messages (m :: path) w)
    (hlead : (Errand.message m).LedBy kept path) (hm : m ∈ kept) (hpath : path ⊆ kept)
    (hfinished : w.finished ⊆ kept) :
    Walk.Ordered kept { w with finished := m :: w.finished } := by
  refine ⟨fun k hk d hd => ?_, hw.cyclic⟩
  rcases List.mem_cons.1 hk with rfl | hk
  · obtain ⟨-, hdkept, f, hf, hname⟩ := hd
    obtain ⟨d', hd'⟩ := exists_messageNamed? (hkept hdkept)
    have hmetd : w.Met (k :: path) d.name := by
      rw [← name_of_messageNamed? hd']
      exact hmet f hf d' (by rw [hname, hd'])
    have hsame : ∀ x ∈ kept, x.name = d.name → x = d := fun x hx hx' =>
      List.inj_on_of_nodup_map hnodup hx hdkept hx'
    rcases hmetd with hdone | ⟨hunder, hcycles⟩
    · obtain ⟨x, hx, hxname⟩ := List.mem_map.1 hdone
      obtain rfl := hsame x (hfinished hx) hxname
      exact Or.inl ((List.singleton_sublist.2 hx).cons_cons k)
    · obtain ⟨x, hx, hxname⟩ := List.mem_map.1 hunder
      obtain rfl := hsame x (List.cons_subset.2 ⟨hm, hpath⟩ hx) hxname
      refine Or.inr ⟨?_, hcycles⟩
      rcases List.mem_cons.1 hx with rfl | hx
      · exact .refl
      · exact (hlead k hm rfl x hx).to_reflTransGen
  · rcases hw.follows k hk d hd with hbefore | hback
    · exact Or.inl (hbefore.cons _)
    · exact Or.inr hback

/-- A visit keeps finished messages in order, as long as the kept messages are those that the walk
finishes in the end. -/
lemma Visits.ordered {path : List Message} {w w' : Walk} {errand : Errand}
    (h : Visits messages path w errand w') (hfinished : w'.finished ⊆ kept) (hpath : path ⊆ kept)
    (hlead : errand.LedBy kept path) (hw : w.Ordered kept) : w'.Ordered kept := by
  induction h with
  | known _ => exact hw
  | cycle _ hcycle =>
    obtain ⟨x, hx, hname⟩ := List.mem_map.1 hcycle
    exact hw.report (hlead x (hpath hx) hname x hx) _
  | @finish path w m w' _ _ hfields ih =>
    obtain ⟨hm, hrest⟩ := List.cons_subset.1 hfinished
    have hw' := ih hrest (List.cons_subset.2 ⟨hm, hpath⟩) (hlead.fields hm) hw
    exact hw'.finish hnodup hkept hfields.met hlead hm hpath hrest
  | nil => exact hw
  | pass _ _ ih => exact ih hfinished hpath (fun f hf => hlead f (List.mem_cons_of_mem _ hf)) hw
  | follow hd _ hrest ih₁ ih₂ =>
    have hfirst := hlead _ List.mem_cons_self
    rw [← name_of_messageNamed? hd] at hfirst
    exact ih₂ hfinished hpath (fun f hf => hlead f (List.mem_cons_of_mem _ hf))
      (ih₁ (List.Subset.trans hrest.finished_suffix.subset hfinished) hpath hfirst hw)

end Kept

/-- The whole walk keeps finished messages in order. -/
lemma ordered_walk : (walk messages).Ordered (dependencyOrder messages) := by
  have hwalk : (walk messages).finished ⊆ dependencyOrder messages →
      (walk messages).Ordered (dependencyOrder messages) := by
    refine walk_induction (P := fun _ w => w.finished ⊆ dependencyOrder messages →
      w.Ordered (dependencyOrder messages)) (fun _ => ⟨by simp, by simp⟩) ?_
    intro before m after w w' _ hw hvisit hfinished
    refine hvisit.ordered nodup_map_name_dependencyOrder (fun _ => mem_of_mem_dependencyOrder)
      hfinished (List.nil_subset _) (fun _ _ _ x hx => absurd hx List.not_mem_nil) (hw ?_)
    exact List.Subset.trans hvisit.finished_suffix.subset hfinished
  exact hwalk fun x hx => List.mem_reverse.2 hx

/-! ## The order -/

/-- In a list without repetition, what comes before something comes before all that follows it. -/
lemma pair_sublist_trans {α : Type} {l : List α} (hnodup : l.Nodup) {a b c : α}
    (hab : [a, b] <+ l) (hbc : [b, c] <+ l) : [a, c] <+ l := by
  induction l with
  | nil => exact absurd hab (by simp)
  | cons x l ih =>
    obtain ⟨hx, hl⟩ := List.nodup_cons.1 hnodup
    rcases List.sublist_cons_iff.1 hbc with hbc' | ⟨r, hr, hc⟩
    · have hcl : c ∈ l := hbc'.subset (by simp)
      rcases List.sublist_cons_iff.1 hab with hab' | ⟨s, hs, hb⟩
      · exact (ih hl hab' hbc').cons x
      · obtain ⟨rfl, rfl⟩ := List.cons.inj hs
        exact (List.singleton_sublist.2 hcl).cons_cons a
    · -- `b` comes first, so nothing comes before it
      obtain ⟨rfl, rfl⟩ := List.cons.inj hr
      rcases List.sublist_cons_iff.1 hab with hab' | ⟨s, hs, hb⟩
      · exact absurd (hab'.subset (by simp)) hx
      · obtain ⟨rfl, rfl⟩ := List.cons.inj hs
        exact absurd (hb.subset (by simp)) hx

/-- A walk that reports no cycle finishes whatever a message leads to before the message. -/
lemma pair_sublist_of_leads (hcycles : (walk messages).cycles = []) {m d : Message}
    (h : TransGen (Dependency (dependencyOrder messages)) m d) :
    [m, d] <+ (walk messages).finished := by
  have hnodup : (walk messages).finished.Nodup := by
    have horder : ((dependencyOrder messages).map (·.name)).Nodup := nodup_map_name_dependencyOrder
    exact List.nodup_reverse.1 horder.of_map
  have hedge : ∀ a b, Dependency (dependencyOrder messages) a b →
      [a, b] <+ (walk messages).finished := by
    intro a b hab
    refine (ordered_walk.follows a (List.mem_reverse.1 hab.1) b hab).resolve_right ?_
    exact fun hback => hback.2 hcycles
  induction h with
  | single hab => exact hedge _ _ hab
  | tail _ hbc ih => exact pair_sublist_trans hnodup ih (hedge _ _ hbc)

/-- A cycle is reported exactly if a message leads back to itself. -/
lemma cycles_walk_ne_nil_iff : (walk messages).cycles ≠ [] ↔
    ∃ m, TransGen (Dependency (dependencyOrder messages)) m m := by
  refine ⟨ordered_walk.cyclic, ?_⟩
  rintro ⟨m, hm⟩ hcycles
  have hpair := List.reverse_sublist.2 (pair_sublist_of_leads hcycles hm)
  have horder : ((dependencyOrder messages).map (·.name)).Nodup := nodup_map_name_dependencyOrder
  exact absurd (horder.of_map.sublist hpair) (by simp)

end TypedFetch.Schema
