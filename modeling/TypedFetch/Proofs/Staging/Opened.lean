import TypedFetch.Proofs.Files.Kinds
import TypedFetch.Proofs.Staging.Closure

/-!
# Which files staging depends on

Staging opens some files and looks at nothing else but the kinds of what is in the tree: the place
that an import comes from is decided by where there are files, not by what is in them.  So two
libraries of the same kinds that agree on the files opened in one of them stage a root alike,
whether that succeeds or fails (`stage_congr`).  `Library.Opens` follows the recursion of staging
and says which files it opens, also on the way to a failure; where staging succeeds, these are the
sources of the stage.
-/

namespace TypedFetch.Proto

open TypedFetch.Files

/-- A file is opened while a task is carried out, with some files staged before. -/
inductive Library.Opens (l : Library) : Task → Stage → Path → Prop
  | itself {source name s} : name ∉ s.names → l.Opens (.file source name) s source
  | through {source name s text resolved fault p} : name ∉ s.names →
      l.source source = .ok text → l.resolved source (Source.imports text) = (resolved, fault) →
      l.Opens (.imports resolved) (s ++ [(name, stagedFile source text resolved)]) p →
      l.Opens (.file source name) s p
  | first {target q rest s p} : l.Opens (.file q target) s p →
      l.Opens (.imports ((target, .file q) :: rest)) s p
  | passed {target r rest s p} : (∀ q, r ≠ .file q) → l.Opens (.imports rest) s p →
      l.Opens (.imports ((target, r) :: rest)) s p
  /-- The rest of the imports is followed with what the first one has staged. -/
  | later {target q rest s s' p} : l.Runs (.file q target) s (.ok s') →
      l.Opens (.imports rest) s' p → l.Opens (.imports ((target, .file q) :: rest)) s p

/-- A file is opened while a root is staged. -/
def Library.OpensFor (l : Library) (root p : Path) : Prop :=
  l.Opens (.file root root.name) [] p

/-! ## A run in another library -/

section Transfer

variable {l l' : Library}

/-- Where imports come from depends on the kinds of what is in the tree. -/
lemma resolve_congr (hkinds : l.tree.SameKinds l'.tree) (hincludes : l'.includes = l.includes)
    (origin : Path) (target : String) : l'.resolve origin target = l.resolve origin target := by
  have hcandidates : l'.candidates origin target = l.candidates origin target := by
    simp only [Library.candidates, hincludes]
  simp only [Library.resolve, hcandidates, hkinds.firstFile]

lemma resolved_congr
    (hresolve : ∀ origin target, l'.resolve origin target = l.resolve origin target)
    (origin : Path) (targets : List String) :
    l'.resolved origin targets = l.resolved origin targets := by
  induction targets with
  | nil => rfl
  | cons target rest ih => simp only [Library.resolved, hresolve, ih]

lemma source_congr {p : Path} (h : l'.tree.read p = l.tree.read p) :
    l'.source p = l.source p := by
  simp only [Library.source, Tree.readText, h]

/-- A run of one library is a run of another one in which imports come from the same places and the
files that are opened have the same texts. -/
lemma Library.Runs.transfer
    (hresolve : ∀ origin target, l'.resolve origin target = l.resolve origin target)
    {task : Task} {s : Stage} {out : Except StageError Stage} (h : l.Runs task s out) :
    (∀ p, l.Opens task s p → l'.source p = l.source p) → l'.Runs task s out := by
  induction h with
  | known hname => exact fun _ => .known hname
  | unreadable hnew hsource =>
    intro hagree
    exact .unreadable hnew ((hagree _ (.itself hnew)).trans hsource)
  | opened hnew htext hres _ ih =>
    intro hagree
    refine .opened hnew ((hagree _ (.itself hnew)).trans htext)
      ((resolved_congr hresolve _ _).trans hres) (ih fun p hp => ?_)
    exact hagree p (.through hnew htext hres hp)
  | interrupted hnew htext hres _ ih =>
    intro hagree
    refine .interrupted hnew ((hagree _ (.itself hnew)).trans htext)
      ((resolved_congr hresolve _ _).trans hres) (ih fun p hp => ?_)
    exact hagree p (.through hnew htext hres hp)
  | done => exact fun _ => .done
  | passed hr _ ih => exact fun hagree => .passed hr (ih fun p hp => hagree p (.passed hr hp))
  | followed hfirst _ ih₁ ih₂ =>
    intro hagree
    exact .followed (ih₁ fun p hp => hagree p (.first hp))
      (ih₂ fun p hp => hagree p (.later hfirst hp))
  | failed _ ih => exact fun hagree => .failed (ih fun p hp => hagree p (.first hp))

/-- Libraries of the same kinds that agree on the files opened for a root stage it alike. -/
lemma stage_congr (hkinds : l.tree.SameKinds l'.tree) (hincludes : l'.includes = l.includes)
    {root : Path} (hread : ∀ p, l.OpensFor root p → l'.tree.read p = l.tree.read p) :
    l'.stage root = l.stage root := by
  have hrun := (runs_stage l root).transfer (resolve_congr hkinds hincludes) fun p hp =>
    source_congr (hread p hp)
  exact hrun.deterministic (runs_stage l' root)

end Transfer

/-! ## The files that are opened -/

/-- What is opened is reached by imports. -/
lemma Library.Opens.reached {l : Library} {root p : Path} {task : Task} {s : Stage}
    (h : l.Opens task s p) : task.Reached l root → ∃ name, l.Reaches root name p := by
  induction h with
  | itself _ => exact fun hreach => ⟨_, hreach⟩
  | through _ htext hres _ ih => exact fun hreach => ih (Task.Reached.imports hreach htext hres)
  | first _ ih => exact fun hreach => ih (hreach (_, .file _) (by simp) _ rfl)
  | passed _ _ ih => exact fun hreach => ih hreach.tail
  | later _ _ ih => exact fun hreach => ih hreach.tail

section Inversion

variable {l : Library} {source p : Path} {name target : String} {s : Stage}
  {rest : List (String × Resolution)}

lemma not_opens_known (h : name ∈ s.names) : ¬ l.Opens (.file source name) s p := by
  intro hp
  cases hp with
  | itself hnew => exact hnew h
  | through hnew _ _ _ => exact hnew h

/-- A file that can be read is opened, and the rest is opened for its imports. -/
lemma opens_file_iff {text : List Char} {resolved : List (String × Resolution)}
    {fault : Option FileError} (hnew : name ∉ s.names) (htext : l.source source = .ok text)
    (hres : l.resolved source (Source.imports text) = (resolved, fault)) :
    l.Opens (.file source name) s p ↔
      source = p ∨
        l.Opens (.imports resolved) (s ++ [(name, stagedFile source text resolved)]) p := by
  constructor
  · intro hp
    cases hp with
    | itself _ => exact .inl rfl
    | through _ htext' hres' hp =>
      obtain ⟨rfl, rfl, rfl⟩ := opened_unique htext hres htext' hres'
      exact .inr hp
  · rintro (rfl | hp)
    · exact .itself hnew
    · exact .through hnew htext hres hp

lemma not_opens_nil : ¬ l.Opens (.imports []) s p := by
  intro hp
  cases hp

lemma opens_passed_iff {r : Resolution} (hr : ∀ q, r ≠ .file q) :
    l.Opens (.imports ((target, r) :: rest)) s p ↔ l.Opens (.imports rest) s p := by
  constructor
  · intro hp
    cases hp with
    | first _ => exact absurd rfl (hr _)
    | passed _ hp => exact hp
    | later _ _ => exact absurd rfl (hr _)
  · exact .passed hr

lemma opens_followed_iff {q : Path} {s' : Stage} (hfirst : l.Runs (.file q target) s (.ok s')) :
    l.Opens (.imports ((target, .file q) :: rest)) s p ↔
      l.Opens (.file q target) s p ∨ l.Opens (.imports rest) s' p := by
  constructor
  · intro hp
    cases hp with
    | first hp => exact .inl hp
    | passed hr _ => exact absurd rfl (hr _)
    | later hfirst' hp =>
      -- the first import has one outcome, so the rest is followed with the same files staged
      cases hfirst.deterministic hfirst'
      exact .inr hp
  · rintro (hp | hp)
    · exact .first hp
    · exact .later hfirst hp

end Inversion

/-- The files that a successful run opens are the sources of what it adds. -/
lemma Library.Runs.opens_iff {l : Library} {task : Task} {s : Stage}
    {out : Except StageError Stage} (h : l.Runs task s out) :
    ∀ s', out = .ok s' → ∃ added, s' = s ++ added ∧
      ∀ p, l.Opens task s p ↔ ∃ e ∈ added, e.2.source = p := by
  induction h with
  | known hname =>
    rintro s' ⟨⟩
    exact ⟨[], by simp, fun p => by simp [not_opens_known hname]⟩
  | unreadable _ _ => rintro s' ⟨⟩
  | @opened source name s text resolved fault s₁ hnew htext hres _ ih =>
    intro s' hs'
    obtain ⟨rfl, rfl⟩ := concluded_eq_ok_iff.1 hs'
    obtain ⟨added, rfl, hopens⟩ := ih _ rfl
    refine ⟨(name, stagedFile source text resolved) :: added, by simp, fun p => ?_⟩
    rw [opens_file_iff hnew htext hres, hopens p, List.exists_mem_cons_iff]
    rfl
  | interrupted _ _ _ _ _ => rintro s' ⟨⟩
  | done =>
    rintro s' ⟨⟩
    exact ⟨[], by simp, fun p => by simp [not_opens_nil]⟩
  | passed hr _ ih =>
    intro s' hs'
    obtain ⟨added, hadded, hopens⟩ := ih s' hs'
    exact ⟨added, hadded, fun p => (opens_passed_iff hr).trans (hopens p)⟩
  | followed hfirst _ ih₁ ih₂ =>
    intro s' hs'
    obtain ⟨added₁, rfl, hopens₁⟩ := ih₁ _ rfl
    obtain ⟨added₂, rfl, hopens₂⟩ := ih₂ s' hs'
    refine ⟨added₁ ++ added₂, by simp, fun p => ?_⟩
    rw [opens_followed_iff hfirst, hopens₁ p, hopens₂ p]
    simp only [List.mem_append, or_and_right, exists_or]
  | failed _ _ => rintro s' ⟨⟩

lemma opensFor_iff {l : Library} {root : Path} {s : Stage} (h : l.stage root = .ok s) (p : Path) :
    l.OpensFor root p ↔ ∃ e ∈ s, e.2.source = p := by
  obtain ⟨added, rfl, hopens⟩ := (runs_stage l root).opens_iff s h
  exact hopens p

end TypedFetch.Proto
