import TypedFetch.Proofs.Attempts
import TypedFetch.Yaml.Reader
import Mathlib.Data.List.Perm.Subperm

/-!
# Faults of construction

The construction of a document goes through the collections in the order in which they were met, and
what stops it is the first that cannot be constructed (`FaultAt`).  A collection is met only once,
even if aliases make it a part of itself, so that the construction ends after as many collections as
there are nodes (`finish_eq_error_iff`), and a source is refused exactly if it cannot be parsed or
the construction of its document meets a fault (`read_eq_error_iff`).
-/

namespace TypedFetch.Yaml

/-- The construction that goes on from here meets a fault. -/
inductive FaultAt : Construction → Fault → Prop
  /-- The first collection that waits cannot be constructed. -/
  | here {s : Construction} {k : CollectionKind} {n : Nat} {rest : List (CollectionKind × Nat)}
      {e : Fault} (hwaiting : s.waiting = (k, n) :: rest)
      (hfault : { s with waiting := rest }.construct k n = .error e) : FaultAt s e
  /-- It can be constructed, and the fault is met after it. -/
  | further {s t : Construction} {k : CollectionKind} {n : Nat}
      {rest : List (CollectionKind × Nat)} {e : Fault} (hwaiting : s.waiting = (k, n) :: rest)
      (hnext : { s with waiting := rest }.construct k n = .ok t) (hfault : FaultAt t e) :
      FaultAt s e

/-- The construction of a document meets a fault. -/
def Document.HasFault (d : Document) (e : Fault) : Prop :=
  d.start = .error e ∨ ∃ s, d.start = .ok s ∧ FaultAt s e

variable {s t : Construction} {e : Fault}

lemma not_faultAt_of_nil (h : s.waiting = []) : ¬ FaultAt s e := by
  rintro (⟨hwaiting, -⟩ | ⟨hwaiting, -, -⟩) <;> simp [h] at hwaiting

lemma faultAt_iff {k : CollectionKind} {n : Nat} {rest : List (CollectionKind × Nat)}
    (h : s.waiting = (k, n) :: rest) :
    FaultAt s e ↔ { s with waiting := rest }.construct k n = .error e ∨
      ∃ t, { s with waiting := rest }.construct k n = .ok t ∧ FaultAt t e := by
  constructor
  · rintro (⟨hwaiting, hfault⟩ | ⟨hwaiting, hnext, hfault⟩) <;>
      obtain ⟨⟨rfl, rfl⟩, rfl⟩ := by simpa [h] using hwaiting
    · exact .inl hfault
    · exact .inr ⟨_, hnext, hfault⟩
  · rintro (hfault | ⟨t, hnext, hfault⟩)
    · exact .here h hfault
    · exact .further h hnext hfault

/-! ## Collections that are left -/

namespace Construction

/-- The collections that were met are nodes of the document, each of them once. -/
structure Regular (s : Construction) : Prop where
  nodup : s.collections.Nodup
  lt : ∀ n ∈ s.collections, n < s.graph.size

/-- How many collections there are to construct at most: those that wait, and every node that was
not met as a collection. -/
def left (s : Construction) : Nat :=
  s.waiting.length + (s.graph.size - s.collections.length)

lemma Regular.length_le (h : s.Regular) : s.collections.length ≤ s.graph.size := by
  have hsub : s.collections ⊆ List.range s.graph.size := fun n hn => List.mem_range.2 (h.lt n hn)
  simpa using (h.nodup.subperm hsub).length_le

/-- A part of the construction that takes no collection from those that wait. -/
structure Keeps (s t : Construction) : Prop where
  regular : s.Regular → t.Regular
  left_eq : s.Regular → t.left = s.left

lemma Keeps.refl (s : Construction) : Keeps s s :=
  ⟨id, fun _ => rfl⟩

lemma Keeps.trans {u : Construction} (h : Keeps s t) (h' : Keeps t u) : Keeps s u :=
  ⟨fun hs => h'.regular (h.regular hs),
    fun hs => (h'.left_eq (h.regular hs)).trans (h.left_eq hs)⟩

lemma lt_size_of_kind {g : Graph} {n : Nat} {k : Kind} (h : (g.node n).kind = some k) :
    n < g.size := by
  by_contra hn
  simp [Graph.node, Array.getElem?_eq_none (Nat.le_of_not_lt hn)] at h

/-- A collection that is met for the first time is one more that waits, and one less that was not
met. -/
lemma keeps_meet {n : Nat} (h : s.meet n = .ok t) : Keeps s t := by
  rw [meet] at h
  split at h
  · obtain rfl : s = t := Except.ok.inj h
    exact .refl s
  · next hmet =>
    split at h
    · next k hkind =>
      obtain rfl := Except.ok.inj h
      have hnew : n ∉ s.collections := fun hn => hmet (by simp [isMet, hn])
      have hregular (hs : s.Regular) : Regular
          { s with collections := n :: s.collections, waiting := s.waiting ++ [(k, n)] } :=
        ⟨List.nodup_cons.2 ⟨hnew, hs.nodup⟩,
          List.forall_mem_cons.2 ⟨lt_size_of_kind hkind, hs.lt⟩⟩
      refine ⟨hregular, fun hs => ?_⟩
      have hle : (n :: s.collections).length ≤ s.graph.size := (hregular hs).length_le
      simp only [left, List.length_append, List.length_cons, List.length_nil] at hle ⊢
      omega
    · obtain ⟨v, -, rfl⟩ := map_eq_ok h
      exact ⟨fun hs => ⟨hs.nodup, hs.lt⟩, fun _ => rfl⟩
    · cases h

lemma keeps_meetEntry {entry : Nat × Nat} (h : s.meetEntry entry = .ok t) : Keeps s t := by
  obtain ⟨s', hkey, h⟩ := bind_eq_ok h
  split at h
  · cases h
  · exact (keeps_meet hkey).trans (keeps_meet h)

lemma keeps_meetPair {item : Nat} (h : s.meetPair item = .ok t) : Keeps s t := by
  rw [meetPair] at h
  split at h
  · obtain ⟨s', hkey, h⟩ := bind_eq_ok h
    exact (keeps_meet hkey).trans (keeps_meet h)
  · cases h

lemma keeps_foldlM {α : Type} {step : Construction → α → Except Fault Construction}
    (hstep : ∀ {s t a}, step s a = .ok t → Keeps s t) {as : List α} (h : as.foldlM step s = .ok t) :
    Keeps s t := by
  induction as generalizing s with
  | nil =>
    obtain rfl : s = t := by simpa [pure, Except.pure] using h
    exact .refl s
  | cons a as ih =>
    rw [List.foldlM_cons] at h
    obtain ⟨s', ha, h⟩ := bind_eq_ok h
    exact (hstep ha).trans (ih h)

end Construction

/-! ## Merging -/

namespace Graph

variable {g g' : Graph} {n : Nat} {found : List (Nat × Nat)}
  {inner : Nat → Graph → Except Fault Graph}

@[simp] lemma size_setContent (c : Content) : (g.setContent n c).size = g.size := by
  simp [setContent]

@[simp] lemma size_setKind (k : Kind) : (g.setKind n k).size = g.size := by
  simp [setKind]

@[simp] lemma size_dropMergeEntry : (g.dropMergeEntry n).size = g.size := by
  simp [dropMergeEntry]

@[simp] lemma size_unmarkKeys : (g.unmarkKeys n).size = g.size := by
  rw [unmarkKeys]
  generalize g.entries n = entries
  induction entries generalizing g with
  | nil => rfl
  | cons entry entries ih =>
    rw [List.foldl_cons, ih]
    dsimp only
    split <;> simp

section Taking

variable (hinner : ∀ {n g g'}, inner n g = .ok g' → g'.size = g.size)
include hinner

lemma size_itemEntries {items : List Nat} (h : itemEntries inner items g = .ok (found, g')) :
    g'.size = g.size := by
  induction items generalizing g found with
  | nil =>
    obtain ⟨-, rfl⟩ := by simpa [itemEntries] using h
    rfl
  | cons item items ih =>
    rw [itemEntries] at h
    split at h
    · cases h
    · obtain ⟨g₁, hitem, h⟩ := bind_eq_ok h
      obtain ⟨⟨others, g₂⟩, hothers, h⟩ := bind_eq_ok h
      obtain ⟨-, rfl⟩ := by simpa [pure, Except.pure] using h
      rw [ih hothers, hinner hitem]

lemma size_givenEntries (h : givenEntries inner n g = .ok (found, g')) : g'.size = g.size := by
  rw [givenEntries] at h
  split at h
  · obtain ⟨g₁, hn, h⟩ := bind_eq_ok h
    obtain ⟨-, rfl⟩ := by simpa [pure, Except.pure] using h
    exact hinner hn
  · exact size_itemEntries hinner h
  · cases h

lemma size_takenEntries {count : Nat} (h : takenEntries inner n count g = .ok (found, g')) :
    g'.size = g.size := by
  induction count generalizing g found with
  | zero =>
    obtain ⟨-, rfl⟩ := by simpa [takenEntries] using h
    rfl
  | succ count ih =>
    rw [takenEntries] at h
    split at h
    · obtain ⟨-, rfl⟩ := by simpa using h
      rfl
    · obtain ⟨⟨first, g₁⟩, hfirst, h⟩ := bind_eq_ok h
      obtain ⟨⟨others, g₂⟩, hothers, h⟩ := bind_eq_ok h
      obtain ⟨-, rfl⟩ := by simpa [pure, Except.pure] using h
      rw [ih hothers, size_givenEntries hinner hfirst, size_dropMergeEntry]

end Taking

/-- Merging changes nodes, but adds none. -/
lemma size_merge {depth : Nat} (h : merge depth n g = .ok g') : g'.size = g.size := by
  induction depth generalizing n g g' with
  | zero => cases h
  | succ depth ih =>
    rw [merge] at h
    obtain ⟨⟨taken, g₁⟩, htaken, h⟩ := bind_eq_ok h
    obtain rfl := by simpa [pure, Except.pure] using h
    rw [size_setContent, size_takenEntries ih htaken, size_unmarkKeys]

end Graph

/-! ## Runs -/

namespace Construction

/-- After merging, the entries of the mapping are met. -/
lemma keeps_merge {n depth : Nat} {graph : Graph} (hmerge : Graph.merge depth n s.graph = .ok graph)
    (h : (graph.entries n).foldlM meetEntry { s with graph } = .ok t) : Keeps s t := by
  have hsize : graph.size = s.graph.size := Graph.size_merge hmerge
  have hmerged : Keeps s { s with graph } :=
    ⟨fun hs => ⟨hs.nodup, hsize ▸ hs.lt⟩, fun _ => by simp [left, hsize]⟩
  exact hmerged.trans (keeps_foldlM keeps_meetEntry h)

lemma keeps_construct {k : CollectionKind} {n : Nat} (h : s.construct k n = .ok t) :
    Keeps s t := by
  unfold construct at h
  split at h
  · exact keeps_foldlM keeps_meet h
  · exact keeps_foldlM keeps_meetPair h
  -- mappings and sets alike
  · obtain ⟨graph, hmerge, h⟩ := bind_eq_ok h
    exact keeps_merge hmerge h
  · obtain ⟨graph, hmerge, h⟩ := bind_eq_ok h
    exact keeps_merge hmerge h
  · cases h

/-- With fuel for all collections that are left, the construction fails exactly with the fault that
it meets. -/
lemma finish_eq_error_iff {fuel : Nat} (hs : s.Regular) (hfuel : s.left < fuel) :
    s.finish fuel = .error e ↔ FaultAt s e := by
  induction fuel generalizing s with
  | zero => exact absurd hfuel (Nat.not_lt_zero _)
  | succ fuel ih =>
    cases hwaiting : s.waiting with
    | nil =>
      rw [finish, hwaiting]
      exact iff_of_false (by simp) (not_faultAt_of_nil hwaiting)
    | cons first rest =>
      obtain ⟨k, n⟩ := first
      have hrest : Regular { s with waiting := rest } := ⟨hs.nodup, hs.lt⟩
      have hless : left { s with waiting := rest } + 1 = s.left := by
        simp only [left, hwaiting, List.length_cons]
        omega
      rw [faultAt_iff hwaiting, finish, hwaiting]
      show ({ s with waiting := rest }.construct k n >>= _) = _ ↔ _
      cases hnext : { s with waiting := rest }.construct k n with
      | error e' => simp [bind, Except.bind]
      | ok t =>
        have hkeeps : Keeps { s with waiting := rest } t := keeps_construct hnext
        have hfuel' : t.left < fuel := by
          rw [hkeeps.left_eq hrest]
          omega
        simpa [bind, Except.bind] using ih (hkeeps.regular hrest) hfuel'

end Construction

lemma Document.construct_eq_error_iff {d : Document} :
    d.construct = .error e ↔ d.HasFault e := by
  rw [Document.construct, Document.HasFault]
  cases hstart : d.start with
  | error e' => simp [bind, Except.bind]
  | ok s =>
    have hkeeps : Construction.Keeps { graph := d.graph } s := Construction.keeps_meet hstart
    have hempty : Construction.Regular { graph := d.graph } := ⟨.nil, by simp⟩
    have hfuel : s.left < d.graph.size + 1 := by
      rw [hkeeps.left_eq hempty]
      simp [Construction.left]
    simpa [bind, Except.bind] using
      Construction.finish_eq_error_iff (e := e) (hkeeps.regular hempty) hfuel

/-- A source is refused exactly for what stops its parsing, or for a fault that the construction of
its document meets. -/
lemma read_eq_error_iff {source : Source} {stop : Stop} : read source = .error stop ↔
    parse source = .error stop ∨
      ∃ d e, parse source = .ok (some d) ∧ d.HasFault e ∧ stop = .fault e := by
  unfold read
  cases parse source with
  | error stop' => simp [bind, Except.bind]
  | ok document =>
    cases document with
    | none => simp [bind, Except.bind, pure, Except.pure]
    | some d =>
      simp only [bind, Except.bind, reduceCtorEq, Except.ok.injEq, Option.some.injEq, false_or,
        ← Document.construct_eq_error_iff]
      cases hd : d.construct with
      | error e => simp [throw, throwThe, MonadExceptOf.throw, eq_comm, hd]
      | ok s => simp [pure, Except.pure, eq_comm, hd]

/-- A source cannot be read, but not because it is not well formed: something in it stands for no
value, is nested too deeply or is no text. -/
def HasValueFault (source : Source) : Prop :=
  ∃ stop, stop ≠ .fault .malformed ∧
    (parse source = .error stop ∨
      ∃ d e, parse source = .ok (some d) ∧ d.HasFault e ∧ stop = .fault e)

lemma hasValueFault_iff {source : Source} :
    HasValueFault source ↔ ∃ stop, stop ≠ .fault .malformed ∧ read source = .error stop := by
  simp only [HasValueFault, read_eq_error_iff]

end TypedFetch.Yaml
