import Mathlib.Data.List.Nodup
import TypedFetch.Proofs.Staging.ImportNames

/-!
# Staging as a recursion without a bound

`Library.stageFrom` follows chains of imports up to a given depth and stops silently there.  The
relation `Library.Runs` is the same recursion without a depth: a derivation of it is a run that has
come to an end by itself.  The main statement is `runs_stage`: staging always has such a run, so the
depth is never used up, whatever cycles the imports form.

The measure is the number of import names that are not staged yet (`unstaged`).  A file is entered
into the stage before its imports are followed, so each level of the recursion takes a name away.

For each kind of task there is an inversion lemma that says all a run of it can be, and by these a
run has one outcome (`Runs.deterministic`).
-/

namespace TypedFetch.Proto

open TypedFetch.Files

/-- The names under which files are staged. -/
def Stage.names (s : Stage) : List String := s.map (·.1)

lemma Stage.names_concat (s : Stage) (name : String) (f : StagedFile) :
    Stage.names (s ++ [(name, f)]) = s.names ++ [name] := by
  simp [Stage.names]

lemma Stage.names_subset {s s' : Stage} (h : s <+: s') : s.names ⊆ s'.names :=
  (h.map _).subset

/-- What is to be done while files are staged. -/
inductive Task where
  /-- A file is to be staged under a name. -/
  | file (source : Path) (name : String)
  /-- The imports of a file are to be followed. -/
  | imports (resolved : List (String × Resolution))

/-- How the staging of a file ends when all imports before the fault were followed. -/
def concluded (fault : Option FileError) (s : Stage) : Except StageError Stage :=
  match fault with
  | some e => .error (.file e)
  | none => .ok s

/-- A finished run of staging, from the files that are staged already to the outcome. -/
inductive Library.Runs (l : Library) : Task → Stage → Except StageError Stage → Prop
  /-- A name that is staged is not staged again. -/
  | known {source name s} : name ∈ s.names → l.Runs (.file source name) s (.ok s)
  | unreadable {source name s e} : name ∉ s.names → l.source source = .error e →
      l.Runs (.file source name) s (.error e)
  /-- The file is staged, its imports are followed, and then a fault among them counts. -/
  | opened {source name s text resolved fault s'} : name ∉ s.names →
      l.source source = .ok text → l.resolved source (Source.imports text) = (resolved, fault) →
      l.Runs (.imports resolved) (s ++ [(name, stagedFile source text resolved)]) (.ok s') →
      l.Runs (.file source name) s (concluded fault s')
  | interrupted {source name s text resolved fault e} : name ∉ s.names →
      l.source source = .ok text → l.resolved source (Source.imports text) = (resolved, fault) →
      l.Runs (.imports resolved) (s ++ [(name, stagedFile source text resolved)]) (.error e) →
      l.Runs (.file source name) s (.error e)
  | done {s} : l.Runs (.imports []) s (.ok s)
  /-- An import that is no file is passed over. -/
  | passed {target r rest s out} : (∀ p, r ≠ .file p) → l.Runs (.imports rest) s out →
      l.Runs (.imports ((target, r) :: rest)) s out
  | followed {target p rest s s' out} : l.Runs (.file p target) s (.ok s') →
      l.Runs (.imports rest) s' out → l.Runs (.imports ((target, .file p) :: rest)) s out
  | failed {target p rest s e} : l.Runs (.file p target) s (.error e) →
      l.Runs (.imports ((target, .file p) :: rest)) s (.error e)

lemma concluded_eq_ok_iff {fault : Option FileError} {s s' : Stage} :
    concluded fault s = .ok s' ↔ fault = none ∧ s = s' := by
  cases fault with
  | none => simp [concluded]
  | some e => simp [concluded]

lemma concluded_eq_error_iff {fault : Option FileError} {s : Stage} {e : StageError} :
    concluded fault s = .error e ↔ ∃ e', fault = some e' ∧ StageError.file e' = e := by
  cases fault with
  | none => simp [concluded]
  | some e' => simp [concluded]

lemma isSome_lookup_iff (s : Stage) (name : String) :
    (s.lookup name).isSome ↔ name ∈ s.names := by
  rw [List.lookup_isSome_iff, Stage.names, List.mem_map]
  constructor
  · rintro ⟨e, he, hname⟩
    exact ⟨e, he, (eq_of_beq hname).symm⟩
  · rintro ⟨e, he, rfl⟩
    exact ⟨e, he, by simp⟩

/-- A run only adds files. -/
lemma Library.Runs.extends {l : Library} {task : Task} {s : Stage} {out : Except StageError Stage}
    (h : l.Runs task s out) : ∀ s', out = .ok s' → s <+: s' := by
  induction h with
  | known _ => rintro s' ⟨⟩; exact List.prefix_refl _
  | unreadable _ _ => rintro s' ⟨⟩
  | opened _ _ _ _ ih =>
    intro s' hs'
    obtain ⟨rfl, rfl⟩ := concluded_eq_ok_iff.1 hs'
    exact (List.prefix_append _ _).trans (ih _ rfl)
  | interrupted _ _ _ _ _ => rintro s' ⟨⟩
  | done => rintro s' ⟨⟩; exact List.prefix_refl _
  | passed _ _ ih => exact ih
  | followed _ _ ih₁ ih₂ => exact fun s' hs' => (ih₁ _ rfl).trans (ih₂ s' hs')
  | failed _ _ => rintro s' ⟨⟩

/-! ## Inversion of a run

What a task is and what is staged already decide the way in which a run of the task ends.
-/

section Inversion

variable {l : Library} {source : Path} {name target : String} {s : Stage}
  {out : Except StageError Stage} {rest : List (String × Resolution)}

lemma runs_known_iff (h : name ∈ s.names) : l.Runs (.file source name) s out ↔ out = .ok s := by
  constructor
  · intro hrun
    cases hrun with
    | known _ => rfl
    | unreadable hnew _ => exact absurd h hnew
    | opened hnew _ _ _ => exact absurd h hnew
    | interrupted hnew _ _ _ => exact absurd h hnew
  · rintro rfl
    exact .known h

lemma runs_unreadable_iff {e : StageError} (hnew : name ∉ s.names)
    (hsource : l.source source = .error e) :
    l.Runs (.file source name) s out ↔ out = .error e := by
  constructor
  · intro hrun
    cases hrun with
    | known h => exact absurd h hnew
    | unreadable _ hsource' => rw [Except.error.inj (hsource.symm.trans hsource')]
    | opened _ htext _ _ => exact absurd (hsource.symm.trans htext) (by simp)
    | interrupted _ htext _ _ => exact absurd (hsource.symm.trans htext) (by simp)
  · rintro rfl
    exact .unreadable hnew hsource

/-- A file that is opened has one text, and its imports come from one place each. -/
lemma opened_unique {text text' : List Char} {resolved resolved' : List (String × Resolution)}
    {fault fault' : Option FileError} (htext : l.source source = .ok text)
    (hres : l.resolved source (Source.imports text) = (resolved, fault))
    (htext' : l.source source = .ok text')
    (hres' : l.resolved source (Source.imports text') = (resolved', fault')) :
    text = text' ∧ resolved = resolved' ∧ fault = fault' := by
  obtain rfl : text = text' := Except.ok.inj (htext.symm.trans htext')
  obtain ⟨rfl, rfl⟩ := Prod.mk.inj (hres.symm.trans hres')
  exact ⟨rfl, rfl, rfl⟩

/-- A file that can be read is staged by following its imports. -/
lemma runs_opened_iff {text : List Char} {resolved : List (String × Resolution)}
    {fault : Option FileError} (hnew : name ∉ s.names) (htext : l.source source = .ok text)
    (hres : l.resolved source (Source.imports text) = (resolved, fault)) :
    l.Runs (.file source name) s out ↔
      ∃ out', l.Runs (.imports resolved) (s ++ [(name, stagedFile source text resolved)]) out' ∧
        out = out'.bind (concluded fault) := by
  constructor
  · intro hrun
    cases hrun with
    | known h => exact absurd h hnew
    | unreadable _ hsource => exact absurd (htext.symm.trans hsource) (by simp)
    | opened _ htext' hres' hrun =>
      obtain ⟨rfl, rfl, rfl⟩ := opened_unique htext hres htext' hres'
      exact ⟨_, hrun, rfl⟩
    | interrupted _ htext' hres' hrun =>
      obtain ⟨rfl, rfl, rfl⟩ := opened_unique htext hres htext' hres'
      exact ⟨_, hrun, rfl⟩
  · rintro ⟨out' | s', hrun, rfl⟩
    · exact .interrupted hnew htext hres hrun
    · exact .opened hnew htext hres hrun

lemma runs_done_iff : l.Runs (.imports []) s out ↔ out = .ok s := by
  constructor
  · intro hrun
    cases hrun
    rfl
  · rintro rfl
    exact .done

lemma runs_passed_iff {r : Resolution} (hr : ∀ p, r ≠ .file p) :
    l.Runs (.imports ((target, r) :: rest)) s out ↔ l.Runs (.imports rest) s out := by
  constructor
  · intro hrun
    cases hrun with
    | passed _ hrun => exact hrun
    | followed _ _ => exact absurd rfl (hr _)
    | failed _ => exact absurd rfl (hr _)
  · exact .passed hr

lemma runs_followed_iff {p : Path} :
    l.Runs (.imports ((target, .file p) :: rest)) s out ↔
      (∃ s', l.Runs (.file p target) s (.ok s') ∧ l.Runs (.imports rest) s' out) ∨
        ∃ e, l.Runs (.file p target) s (.error e) ∧ out = .error e := by
  constructor
  · intro hrun
    cases hrun with
    | passed hr _ => exact absurd rfl (hr _)
    | followed hfirst hrest => exact .inl ⟨_, hfirst, hrest⟩
    | failed hfirst => exact .inr ⟨_, hfirst, rfl⟩
  · rintro (⟨s', hfirst, hrest⟩ | ⟨e, hfirst, rfl⟩)
    · exact .followed hfirst hrest
    · exact .failed hfirst

end Inversion

/-- A run has one outcome. -/
lemma Library.Runs.deterministic {l : Library} {task : Task} {s : Stage}
    {out : Except StageError Stage} (h : l.Runs task s out) :
    ∀ {out'}, l.Runs task s out' → out' = out := by
  induction h with
  | known hname => exact (runs_known_iff hname).1
  | unreadable hnew hsource => exact (runs_unreadable_iff hnew hsource).1
  | opened hnew htext hres _ ih =>
    intro out' h'
    obtain ⟨out₁, hrun, rfl⟩ := (runs_opened_iff hnew htext hres).1 h'
    rw [ih hrun]
    rfl
  | interrupted hnew htext hres _ ih =>
    intro out' h'
    obtain ⟨out₁, hrun, rfl⟩ := (runs_opened_iff hnew htext hres).1 h'
    rw [ih hrun]
    rfl
  | done => exact runs_done_iff.1
  | passed hr _ ih => exact fun h' => ih ((runs_passed_iff hr).1 h')
  | followed _ _ ih₁ ih₂ =>
    intro out' h'
    rcases runs_followed_iff.1 h' with ⟨s', hfirst, hrest⟩ | ⟨e, hfirst, rfl⟩
    · cases ih₁ hfirst
      exact ih₂ hrest
    · cases ih₁ hfirst
  | failed _ ih =>
    intro out' h'
    rcases runs_followed_iff.1 h' with ⟨s', hfirst, -⟩ | ⟨e, hfirst, rfl⟩
    · cases ih hfirst
    · exact ih hfirst

/-! ## Where imports come from -/

section Resolved

variable {l : Library} {origin : Path}

lemma resolved_sound {targets : List String} : ∀ {resolved : List (String × Resolution)}
    {fault : Option FileError}, l.resolved origin targets = (resolved, fault) →
      ∀ e ∈ resolved, e.1 ∈ targets ∧ l.resolve origin e.1 = .ok e.2 := by
  induction targets with
  | nil =>
    intro resolved fault h e he
    obtain ⟨rfl, -⟩ : [] = resolved ∧ none = fault := by simpa [Library.resolved] using h
    exact absurd he (by simp)
  | cons target rest ih =>
    intro resolved fault h e he
    simp only [Library.resolved] at h
    split at h
    · obtain ⟨rfl, -⟩ : [] = resolved ∧ _ = fault := by simpa using h
      exact absurd he (by simp)
    · next r hr =>
      obtain ⟨rfl, -⟩ : (target, r) :: (l.resolved origin rest).1 = resolved ∧ _ = fault := by
        simpa using h
      rcases List.mem_cons.1 he with rfl | he
      · exact ⟨by simp, hr⟩
      · obtain ⟨hmem, hres⟩ := ih rfl e he
        exact ⟨List.mem_cons_of_mem _ hmem, hres⟩

lemma resolved_fault {targets : List String} : ∀ {resolved : List (String × Resolution)}
    {e : FileError}, l.resolved origin targets = (resolved, some e) →
      ∃ target ∈ targets, l.resolve origin target = .error e := by
  induction targets with
  | nil => intro resolved e h; exact absurd h (by simp [Library.resolved])
  | cons target rest ih =>
    intro resolved e h
    simp only [Library.resolved] at h
    split at h
    · next e' he' =>
      obtain ⟨-, rfl⟩ : [] = resolved ∧ e' = e := by simpa using h
      exact ⟨target, by simp, he'⟩
    · obtain ⟨-, hfault⟩ : _ = resolved ∧ (l.resolved origin rest).2 = some e := by simpa using h
      obtain ⟨t, ht, hres⟩ := ih (Prod.ext rfl hfault)
      exact ⟨t, List.mem_cons_of_mem _ ht, hres⟩

lemma resolved_complete {targets : List String} : ∀ {resolved : List (String × Resolution)},
    l.resolved origin targets = (resolved, none) → resolved.map (·.1) = targets := by
  induction targets with
  | nil => intro resolved h; simpa [Library.resolved] using h.symm
  | cons target rest ih =>
    intro resolved h
    simp only [Library.resolved] at h
    split at h
    · exact absurd h (by simp)
    · next r _ =>
      obtain ⟨rfl, hfault⟩ : (target, r) :: (l.resolved origin rest).1 = resolved ∧
          (l.resolved origin rest).2 = none := by simpa using h
      simpa using ih (Prod.ext rfl hfault)

end Resolved

/-! ## The depth is never used up -/

/-- All names under which a file can be staged. -/
def stageNames (l : Library) (root : Path) : List String :=
  root.name :: importNames l.tree

/-- The names that are not staged yet. -/
def openNames (l : Library) (root : Path) (s : Stage) : List String :=
  (stageNames l root).filter fun n => n ∉ s.names

/-- The number of names that are not staged yet. -/
def unstaged (l : Library) (root : Path) (s : Stage) : Nat :=
  (openNames l root s).length

lemma mem_openNames {l : Library} {root : Path} {s : Stage} {name : String}
    (hname : name ∈ stageNames l root) (hnew : name ∉ s.names) : name ∈ openNames l root s := by
  rw [openNames, List.mem_filter]
  exact ⟨hname, decide_eq_true hnew⟩

lemma unstaged_le_of_prefix (l : Library) (root : Path) {s s' : Stage} (h : s <+: s') :
    unstaged l root s' ≤ unstaged l root s := by
  refine (List.monotone_filter_right _ fun n hn => ?_).length_le
  have hn' : n ∉ s'.names := of_decide_eq_true hn
  exact decide_eq_true fun hm => hn' (Stage.names_subset h hm)

/-- Staging a name takes it away. -/
lemma unstaged_concat_lt {l : Library} {root : Path} {s : Stage} {name : String}
    (hname : name ∈ stageNames l root) (hnew : name ∉ s.names) (f : StagedFile) :
    unstaged l root (s ++ [(name, f)]) < unstaged l root s := by
  have hsplit : openNames l root (s ++ [(name, f)]) =
      (openNames l root s).filter fun n => n ≠ name := by
    rw [openNames, openNames, List.filter_filter]
    refine List.filter_congr fun n _ => ?_
    rw [Stage.names_concat, ← Bool.decide_and]
    exact decide_eq_decide.2 (by simp [and_comm])
  rw [unstaged, unstaged, hsplit, List.length_filter_lt_length_iff_exists]
  exact ⟨name, mem_openNames hname hnew, by simp⟩

/-- Follows imports with a bound on the length of chains. -/
def Library.follow (l : Library) (depth : Nat) (resolved : List (String × Resolution))
    (s : Stage) : Except StageError Stage :=
  resolved.foldlM
    (fun s (target, r) =>
      match r with
      | .file p => l.stageFrom depth p target s
      | _ => .ok s) s

/-- Staging a file that can be read is following its imports. -/
lemma stageFrom_succ_eq {l : Library} {depth : Nat} {source : Path} {name : String} {s : Stage}
    {text : List Char} {resolved : List (String × Resolution)} {fault : Option FileError}
    (hnew : name ∉ s.names) (htext : l.source source = .ok text)
    (hres : l.resolved source (Source.imports text) = (resolved, fault)) :
    l.stageFrom (depth + 1) source name s =
      (l.follow depth resolved (s ++ [(name, stagedFile source text resolved)])).bind
        (concluded fault) := by
  rw [Library.stageFrom, if_neg fun h => hnew ((isSome_lookup_iff s name).1 h), htext]
  change (l.follow depth (l.resolved source (Source.imports text)).1
    (s ++ [(name, stagedFile source text (l.resolved source (Source.imports text)).1)])).bind
      (concluded (l.resolved source (Source.imports text)).2) = _
  rw [hres]

/-- The imports of a file, when every file that is still missing can be staged. -/
lemma runs_follow {l : Library} {root : Path} {depth : Nat}
    (hfile : ∀ source name s, name ∈ stageNames l root → unstaged l root s ≤ depth →
      l.Runs (.file source name) s (l.stageFrom depth source name s))
    {resolved : List (String × Resolution)} (hnames : ∀ e ∈ resolved, e.1 ∈ stageNames l root) :
    ∀ s, unstaged l root s ≤ depth → l.Runs (.imports resolved) s (l.follow depth resolved s) := by
  induction resolved with
  | nil => intro s _; exact .done
  | cons e rest ih =>
    intro s hs
    obtain ⟨target, r⟩ := e
    have hrest := ih fun e he => hnames e (List.mem_cons_of_mem _ he)
    cases r with
    | wellKnown => exact .passed (by simp) (hrest s hs)
    | skipped => exact .passed (by simp) (hrest s hs)
    | file p =>
      have hrun := hfile p target s (hnames (target, .file p) (by simp)) hs
      have hstep : l.follow depth ((target, .file p) :: rest) s =
          (l.stageFrom depth p target s).bind (l.follow depth rest) := rfl
      rw [hstep]
      rcases hout : l.stageFrom depth p target s with e | s'
      · rw [hout] at hrun
        exact .failed hrun
      · rw [hout] at hrun
        have hs' := unstaged_le_of_prefix l root (hrun.extends s' rfl)
        exact .followed hrun (hrest s' (Nat.le_trans hs' hs))

/-- With a depth for every name that is missing, staging a file is a finished run. -/
lemma runs_stageFrom {l : Library} {root : Path} : ∀ (depth : Nat) (source : Path) (name : String)
    (s : Stage), name ∈ stageNames l root → unstaged l root s ≤ depth →
      l.Runs (.file source name) s (l.stageFrom depth source name s) := by
  intro depth
  induction depth with
  | zero =>
    intro source name s hname hs
    -- no name is missing, so this one is staged
    have hstaged : name ∈ s.names := by
      by_contra hnew
      have hpos := List.length_pos_of_mem (mem_openNames hname hnew)
      rw [unstaged] at hs
      omega
    exact .known hstaged
  | succ depth ih =>
    intro source name s hname hs
    by_cases hstaged : name ∈ s.names
    · rw [Library.stageFrom, if_pos ((isSome_lookup_iff s name).2 hstaged)]
      exact .known hstaged
    · rcases htext : l.source source with e | text
      · rw [Library.stageFrom, if_neg fun h => hstaged ((isSome_lookup_iff s name).1 h), htext]
        exact .unreadable hstaged htext
      · rcases hres : l.resolved source (Source.imports text) with ⟨resolved, fault⟩
        have hnames : ∀ e ∈ resolved, e.1 ∈ stageNames l root := fun e he =>
          List.mem_cons_of_mem _ (mem_importNames htext (resolved_sound hres e he).1)
        have hlt := unstaged_concat_lt hname hstaged (stagedFile source text resolved)
        have hrun := runs_follow ih hnames (s ++ [(name, stagedFile source text resolved)])
          (by omega)
        exact (runs_opened_iff hstaged htext hres).2
          ⟨_, hrun, stageFrom_succ_eq hstaged htext hres⟩

/-- **Staging ends.**  The outcome of staging is the outcome of a finished run, in which no bound on
the length of chains of imports plays a part. -/
lemma runs_stage (l : Library) (root : Path) :
    l.Runs (.file root root.name) [] (l.stage root) := by
  have hroot : root.name ∈ stageNames l root := by simp [stageNames]
  refine runs_stageFrom _ root root.name [] hroot ?_
  have hnames := length_importNames_lt l.tree
  calc unstaged l root [] ≤ (stageNames l root).length := List.length_filter_le _ _
    _ = (importNames l.tree).length + 1 := by simp [stageNames]
    _ ≤ chainBound l.tree + 1 := by omega

end TypedFetch.Proto
