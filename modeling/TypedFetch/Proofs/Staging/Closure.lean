import TypedFetch.Proofs.Attempts
import TypedFetch.Proofs.Files.Reading
import TypedFetch.Proofs.Staging.Runs

/-!
# What is staged

A stage that was made from a root holds the root under its own name, and it is closed: every import
of a staged file comes with the compiler, or is found nowhere and recorded as skipped, or is a file
that is staged under the name of the import.  Nothing else is staged, because every staged file is
reached from the root by a chain of imports.

Closure is stated for the files that a run adds, relative to the stage that it ends with.  Files
whose imports are still being followed further up are not among them, so that an import which is
staged already needs no special care (`Runs.complete`).

The main statement, `stage_closed`, lists everything that can become of a root.
-/

namespace TypedFetch.Proto

open TypedFetch.Files

/-- A file is reached from the root, under a name, by a chain of imports that are files. -/
inductive Library.Reaches (l : Library) (root : Path) : String → Path → Prop
  | root : l.Reaches root root.name root
  | step {name p text target q} : l.Reaches root name p → l.source p = .ok text →
      target ∈ Source.imports text → l.resolve p target = .ok (.file q) → l.Reaches root target q

/-- The import is found nowhere. -/
def Library.skips (l : Library) (origin : Path) (target : String) : Bool :=
  match l.resolve origin target with
  | .ok .skipped => true
  | _ => false

lemma skips_iff {l : Library} {origin : Path} {target : String} :
    l.skips origin target = true ↔ l.resolve origin target = .ok .skipped := by
  unfold Library.skips
  constructor
  · intro h
    split at h
    · assumption
    · exact absurd h (by simp)
  · intro h
    rw [h]

/-! ## Staged files are reached -/

/-- A staged file is reached under its name, and its text is what its source holds. -/
structure Genuine (l : Library) (root : Path) (e : String × StagedFile) : Prop where
  reached : l.Reaches root e.1 e.2.source
  read : l.source e.2.source = .ok e.2.text

/-- All files of a task are reached. -/
def Task.Reached (l : Library) (root : Path) : Task → Prop
  | .file source name => l.Reaches root name source
  | .imports resolved => ∀ e ∈ resolved, ∀ p, e.2 = .file p → l.Reaches root e.1 p

lemma Task.Reached.tail {l : Library} {root : Path} {e : String × Resolution}
    {rest : List (String × Resolution)} (h : Task.Reached l root (.imports (e :: rest))) :
    Task.Reached l root (.imports rest) :=
  fun e' he' => h e' (List.mem_cons_of_mem _ he')

/-- The imports of a reached file are reached. -/
lemma Task.Reached.imports {l : Library} {root source : Path} {name : String} {text : List Char}
    {resolved : List (String × Resolution)} {fault : Option FileError}
    (h : l.Reaches root name source) (htext : l.source source = .ok text)
    (hres : l.resolved source (Source.imports text) = (resolved, fault)) :
    Task.Reached l root (.imports resolved) := by
  intro e he p hp
  obtain ⟨hmem, hresolve⟩ := resolved_sound hres e he
  exact .step h htext hmem (by rw [hresolve, hp])

lemma Library.Runs.genuine {l : Library} {root : Path} {task : Task} {s : Stage}
    {out : Except StageError Stage} (h : l.Runs task s out) :
    task.Reached l root → (∀ e ∈ s, Genuine l root e) →
      ∀ s', out = .ok s' → ∀ e ∈ s', Genuine l root e := by
  -- a file is entered with the text of its source, and then its imports are reached through it
  have hentered : ∀ {source name s text} {resolved : List (String × Resolution)},
      l.source source = .ok text → l.Reaches root name source → (∀ e ∈ s, Genuine l root e) →
      ∀ e ∈ s ++ [(name, stagedFile source text resolved)], Genuine l root e := by
    intro source name s text resolved htext hreach hs e he
    rcases List.mem_append.1 he with he | he
    · exact hs e he
    · obtain rfl : e = (name, stagedFile source text resolved) := by simpa using he
      exact ⟨hreach, htext⟩
  induction h with
  | known _ => rintro - hs s' ⟨⟩; exact hs
  | unreadable _ _ => rintro - - s' ⟨⟩
  | @opened source name s text resolved fault s₁ _ htext hres _ ih =>
    intro hreach hs s' hs'
    obtain ⟨rfl, rfl⟩ := concluded_eq_ok_iff.1 hs'
    exact ih (Task.Reached.imports hreach htext hres) (hentered htext hreach hs) s₁ rfl
  | interrupted _ _ _ _ _ => rintro - - s' ⟨⟩
  | done => rintro - hs s' ⟨⟩; exact hs
  | passed _ _ ih => exact fun hreach => ih hreach.tail
  | followed _ _ ih₁ ih₂ =>
    intro hreach hs s' hs'
    have hfirst := ih₁ (hreach (_, .file _) (by simp) _ rfl) hs _ rfl
    exact ih₂ hreach.tail hfirst s' hs'
  | failed _ _ => rintro - - s' ⟨⟩

/-- Names are staged once. -/
lemma Library.Runs.nodup {l : Library} {task : Task} {s : Stage} {out : Except StageError Stage}
    (h : l.Runs task s out) : s.names.Nodup → ∀ s', out = .ok s' → s'.names.Nodup := by
  induction h with
  | known _ => rintro hs s' ⟨⟩; exact hs
  | unreadable _ _ => rintro - s' ⟨⟩
  | @opened source name s text resolved fault s₁ hnew _ _ _ ih =>
    intro hs s' hs'
    obtain ⟨rfl, rfl⟩ := concluded_eq_ok_iff.1 hs'
    refine ih ?_ s₁ rfl
    rw [Stage.names_concat]
    exact List.nodup_append.2 ⟨hs, by simp, by rintro a ha b hb rfl; simp_all⟩
  | interrupted _ _ _ _ _ => rintro - s' ⟨⟩
  | done => rintro hs s' ⟨⟩; exact hs
  | passed _ _ ih => exact ih
  | followed _ _ ih₁ ih₂ => exact fun hs s' hs' => ih₂ (ih₁ hs _ rfl) s' hs'
  | failed _ _ => rintro - s' ⟨⟩

/-! ## Staged files are complete -/

/-- All imports of a file can be resolved, those that are files are staged, and those that are found
nowhere are recorded. -/
structure Complete (l : Library) (s : Stage) (f : StagedFile) : Prop where
  resolves : ∀ t ∈ Source.imports f.text,
    ∃ r, l.resolve f.source t = .ok r ∧ ∀ p, r = .file p → t ∈ s.names
  skipped : f.skipped = (Source.imports f.text).filter (l.skips f.source)

lemma Complete.mono {l : Library} {s s' : Stage} {f : StagedFile} (h : Complete l s f)
    (hs : s <+: s') : Complete l s' f := by
  refine ⟨fun t ht => ?_, h.skipped⟩
  obtain ⟨r, hr, hstaged⟩ := h.resolves t ht
  exact ⟨r, hr, fun p hp => Stage.names_subset hs (hstaged p hp)⟩

/-- The files of a task are staged. -/
def Task.Staged (s : Stage) : Task → Prop
  | .file _ name => name ∈ s.names
  | .imports resolved => ∀ e ∈ resolved, ∀ p, e.2 = .file p → e.1 ∈ s.names

/-- A file whose imports were all resolved and followed is complete. -/
lemma complete_stagedFile {l : Library} {s : Stage} {source : Path} {text : List Char}
    {resolved : List (String × Resolution)}
    (hres : l.resolved source (Source.imports text) = (resolved, none))
    (hstaged : Task.Staged s (.imports resolved)) :
    Complete l s (stagedFile source text resolved) := by
  have hnames := resolved_complete hres
  have hsound := resolved_sound hres
  constructor
  · intro t ht
    obtain ⟨e, he, rfl⟩ : ∃ e ∈ resolved, e.1 = t := by
      have ht' : t ∈ resolved.map (·.1) := by rw [hnames]; exact ht
      simpa using ht'
    exact ⟨e.2, (hsound e he).2, hstaged e he⟩
  · change (resolved.filter (·.2 == .skipped)).map (·.1) =
      (Source.imports text).filter (l.skips source)
    rw [← hnames, List.filter_map]
    congr 1
    refine List.filter_congr fun e he => ?_
    have hresolve := (hsound e he).2
    rw [Bool.eq_iff_iff, beq_iff_eq, Function.comp_apply, skips_iff, hresolve]
    simp

lemma Library.Runs.complete {l : Library} {task : Task} {s : Stage}
    {out : Except StageError Stage} (h : l.Runs task s out) :
    ∀ s', out = .ok s' → task.Staged s' ∧ ∀ e ∈ s', e ∈ s ∨ Complete l s' e.2 := by
  -- nothing is said about the files of `s`: their imports may still have to be followed
  induction h with
  | known hname => rintro s' ⟨⟩; exact ⟨hname, fun e he => Or.inl he⟩
  | unreadable _ _ => rintro s' ⟨⟩
  | @opened source name s text resolved fault s₁ _ _ hres hrun ih =>
    intro s' hs'
    obtain ⟨rfl, rfl⟩ := concluded_eq_ok_iff.1 hs'
    obtain ⟨hstaged, hcomplete⟩ := ih s₁ rfl
    have hmem : name ∈ s₁.names := by
      refine Stage.names_subset (hrun.extends s₁ rfl) ?_
      simp [Stage.names_concat]
    refine ⟨hmem, fun e he => ?_⟩
    rcases hcomplete e he with he | he
    · rcases List.mem_append.1 he with he | he
      · exact Or.inl he
      · obtain rfl : e = (name, stagedFile source text resolved) := by simpa using he
        exact Or.inr (complete_stagedFile hres hstaged)
    · exact Or.inr he
  | interrupted _ _ _ _ _ => rintro s' ⟨⟩
  | done => rintro s' ⟨⟩; exact ⟨by simp [Task.Staged], fun e he => Or.inl he⟩
  | passed hr _ ih =>
    intro s' hs'
    obtain ⟨hstaged, hcomplete⟩ := ih s' hs'
    refine ⟨fun e he p hp => ?_, hcomplete⟩
    rcases List.mem_cons.1 he with rfl | he
    · exact absurd hp (hr p)
    · exact hstaged e he p hp
  | followed hfirst hrest ih₁ ih₂ =>
    intro s' hs'
    obtain ⟨hstaged₁, hcomplete₁⟩ := ih₁ _ rfl
    obtain ⟨hstaged₂, hcomplete₂⟩ := ih₂ s' hs'
    -- what the first import added stays complete while the others are followed
    have hprefix := hrest.extends s' hs'
    refine ⟨fun e he p hp => ?_, fun e he => ?_⟩
    · rcases List.mem_cons.1 he with rfl | he
      · exact Stage.names_subset hprefix hstaged₁
      · exact hstaged₂ e he p hp
    · rcases hcomplete₂ e he with he | he
      · exact (hcomplete₁ e he).imp_right fun hc => hc.mono hprefix
      · exact Or.inr he
  | failed _ _ => rintro s' ⟨⟩

/-! ## Why staging fails -/

/-- Why files cannot be staged: a file that is reached cannot be read, or one of its imports cannot
be asked for. -/
inductive Library.Cause (l : Library) (root : Path) : StageError → Prop
  | unreadable {name p e} : l.Reaches root name p → l.source p = .error e → l.Cause root e
  | unresolvable {name p text target e} : l.Reaches root name p → l.source p = .ok text →
      target ∈ Source.imports text → l.resolve p target = .error e → l.Cause root (.file e)

lemma Library.Runs.cause {l : Library} {root : Path} {task : Task} {s : Stage}
    {out : Except StageError Stage} (h : l.Runs task s out) :
    task.Reached l root → ∀ e, out = .error e → l.Cause root e := by
  induction h with
  | known _ => rintro - e ⟨⟩
  | unreadable _ hsource => rintro hreach e ⟨⟩; exact .unreadable hreach hsource
  | opened _ htext hres _ _ =>
    intro hreach e he
    obtain ⟨fault, rfl, rfl⟩ := concluded_eq_error_iff.1 he
    obtain ⟨target, hmem, hresolve⟩ := resolved_fault hres
    exact .unresolvable hreach htext hmem hresolve
  | interrupted _ htext hres _ ih =>
    exact fun hreach => ih (Task.Reached.imports hreach htext hres)
  | done => rintro - e ⟨⟩
  | passed _ _ ih => exact fun hreach => ih hreach.tail
  | followed _ _ _ ih₂ => exact fun hreach => ih₂ hreach.tail
  | failed _ ih =>
    rintro hreach e ⟨⟩
    exact ih (hreach (_, .file _) (by simp) _ rfl) _ rfl

lemma ask_error {tree : Tree} {p : Path} {e : FileError} (h : tree.ask p = .error e) :
    e = ⟨.nameTooLong, p⟩ := by
  simp only [Tree.ask] at h
  split at h
  · exact absurd h (by simp)
  · simpa using h.symm
  · exact absurd h (by simp)

lemma asksFile_error {tree : Tree} {p : Path} {e : FileError} (h : tree.asksFile p = .error e) :
    e = ⟨.nameTooLong, p⟩ := by
  rcases hask : tree.ask p with e' | found
  · rw [Tree.asksFile, hask] at h
    obtain rfl : e' = e := by simpa [Except.map] using h
    exact ask_error hask
  · rw [Tree.asksFile, hask] at h
    exact absurd h (by simp [Except.map])

lemma asksFile_true {tree : Tree} {p : Path} (h : tree.asksFile p = .ok true) :
    ∃ content, tree.read p = .ok content := by
  simp only [Tree.asksFile, Tree.ask] at h
  split at h
  · next loc found hfind =>
    cases found with
    | directory => exact absurd h (by simp [Except.map, Entry.isFile])
    | file content => exact ⟨content, by simp only [Tree.read, hfind]⟩
  · exact absurd h (by simp [Except.map])
  · exact absurd h (by simp [Except.map])

lemma firstFile_of_asksFile_true {tree : Tree} {p : Path} (h : tree.asksFile p = .ok true)
    (rest : List Path) : tree.firstFile (p :: rest) = .ok (some p) := by
  rw [Tree.firstFile, h]
  rfl

lemma firstFile_of_asksFile_false {tree : Tree} {p : Path} (h : tree.asksFile p = .ok false)
    (rest : List Path) : tree.firstFile (p :: rest) = tree.firstFile rest := by
  rw [Tree.firstFile, h]
  rfl

/-- What a search finds is one of the paths, and can be read. -/
lemma firstFile_some {tree : Tree} {ps : List Path} {p : Path}
    (h : tree.firstFile ps = .ok (some p)) : p ∈ ps ∧ ∃ content, tree.read p = .ok content := by
  induction ps with
  | nil => exact absurd h (by simp [Tree.firstFile])
  | cons q rest ih =>
    rcases hask : tree.asksFile q with e | _ | _
    · rw [Tree.firstFile, hask] at h
      exact absurd h (by simp [bind, Except.bind])
    · rw [firstFile_of_asksFile_false hask] at h
      obtain ⟨hmem, hread⟩ := ih h
      exact ⟨List.mem_cons_of_mem _ hmem, hread⟩
    · rw [firstFile_of_asksFile_true hask] at h
      obtain rfl : q = p := by simpa using h
      exact ⟨List.mem_cons_self, asksFile_true hask⟩

/-- A search fails only at a path of which a name is too long. -/
lemma firstFile_error {tree : Tree} {ps : List Path} {e : FileError}
    (h : tree.firstFile ps = .error e) : e.fault = .nameTooLong ∧ e.path ∈ ps := by
  induction ps with
  | nil => exact absurd h (by simp [Tree.firstFile])
  | cons q rest ih =>
    rcases hask : tree.asksFile q with e' | _ | _
    · rw [Tree.firstFile, hask] at h
      obtain rfl : e' = e := Except.error.inj h
      obtain rfl := asksFile_error hask
      exact ⟨rfl, List.mem_cons_self⟩
    · rw [firstFile_of_asksFile_false hask] at h
      exact (ih h).imp_right (List.mem_cons_of_mem _)
    · rw [firstFile_of_asksFile_true hask] at h
      exact absurd h (by simp)

/-- What a search that has come to an end says about an import. -/
def Resolution.ofSearch : Option Path → Resolution
  | some p => .file p
  | none => .skipped

/-- An import that does not come with the compiler is what the search for it gives. -/
lemma resolve_eq_search {l : Library} {origin : Path} {target : String}
    (h : isWellKnown target = .ok false) :
    l.resolve origin target =
      (l.tree.firstFile (l.candidates origin target)).map Resolution.ofSearch := by
  rw [Library.resolve, h]
  change (l.tree.firstFile (l.candidates origin target)).bind _ = _
  rcases l.tree.firstFile (l.candidates origin target) with e | _ | p <;> rfl

lemma resolve_wellKnown {l : Library} {origin : Path} {target : String}
    (h : isWellKnown target = .ok true) : l.resolve origin target = .ok .wellKnown := by
  rw [Library.resolve, h]
  rfl

/-- An import cannot be asked for only where a place in which it is searched has too long a name. -/
lemma resolve_error {l : Library} {origin : Path} {target : String} {e : FileError}
    (h : l.resolve origin target = .error e) :
    e.fault = .nameTooLong ∧
      (e.path = Path.ofText target ∨ e.path ∈ l.candidates origin target) := by
  rcases hknown : isWellKnown target with e' | _ | _
  · rw [Library.resolve, hknown] at h
    obtain rfl : e' = e := Except.error.inj h
    simp only [isWellKnown] at hknown
    split at hknown
    · obtain rfl := asksFile_error hknown
      exact ⟨rfl, Or.inl rfl⟩
    · exact absurd hknown (by simp)
  · rw [resolve_eq_search hknown] at h
    exact (firstFile_error (map_eq_error_iff.1 h)).imp_right Or.inr
  · rw [resolve_wellKnown hknown] at h
    exact absurd h (by simp)

/-- An import that is a file is what the search for it finds. -/
lemma firstFile_of_resolve {l : Library} {origin p : Path} {target : String}
    (h : l.resolve origin target = .ok (.file p)) :
    l.tree.firstFile (l.candidates origin target) = .ok (some p) := by
  rcases hknown : isWellKnown target with e | _ | _
  · rw [Library.resolve, hknown] at h
    exact absurd h (by simp [bind, Except.bind])
  · rw [resolve_eq_search hknown] at h
    obtain ⟨found, hfound, hofSearch⟩ := map_eq_ok h
    cases found with
    | none => cases hofSearch
    | some q =>
      obtain rfl := Resolution.file.inj hofSearch
      exact hfound
  · rw [resolve_wellKnown hknown] at h
    exact absurd h (by simp)

/-- An import that is a file can be read. -/
lemma resolve_file {l : Library} {origin p : Path} {target : String}
    (h : l.resolve origin target = .ok (.file p)) : ∃ content, l.tree.read p = .ok content :=
  (firstFile_some (firstFile_of_resolve h)).2

lemma Library.Reaches.readable {l : Library} {root p : Path} {name : String}
    (h : l.Reaches root name p) : p = root ∨ ∃ content, l.tree.read p = .ok content := by
  cases h with
  | root => exact Or.inl rfl
  | step _ _ _ hresolve => exact Or.inr (resolve_file hresolve)

/-- A schema file that is no text, or a root at which nothing can be read. -/
def Library.Unreadable (l : Library) (root p : Path) : Prop :=
  (∃ e, l.tree.readText p = .error (.encoding e)) ∨ p = root ∧ ∃ e, l.tree.read root = .error e

/-- A file that is no text is reported by its path, and so is one that cannot be read, unless its
path is none. -/
lemma source_eq_error {l : Library} {p : Path} {e : StageError} (h : l.source p = .error e) :
    (∃ e', l.tree.readText p = .error (.encoding e') ∧ e = .load ⟨p, e'.message⟩) ∨
      ∃ e', l.tree.read p = .error e' ∧
        (e = .load ⟨p, e'.message⟩ ∨ e = .file e' ∧ e'.fault = .improperPath) := by
  rw [Library.source] at h
  rcases hread : l.tree.readText p with (e' | e') | text
  · rw [hread] at h
    refine .inr ⟨e', read_of_readText hread, ?_⟩
    dsimp only at h
    split at h
    · next hfault => exact .inr ⟨(Except.error.inj h).symm, eq_of_beq hfault⟩
    · exact .inl (Except.error.inj h).symm
  · rw [hread] at h
    exact .inl ⟨e', rfl, (Except.error.inj h).symm⟩
  · rw [hread] at h
    exact absurd h (by simp)

/-- Only the root can be a file that cannot be read: all others were found. -/
lemma Library.Reaches.eq_root {l : Library} {root p : Path} {name : String} {e : FileError}
    (h : l.Reaches root name p) (hread : l.tree.read p = .error e) : p = root := by
  rcases h.readable with rfl | ⟨content, hcontent⟩
  · rfl
  · exact absurd (hread.symm.trans hcontent) (by simp)

lemma unreadable_of_load {l : Library} {root p : Path} {name : String} {e : LoadError}
    (h : l.Reaches root name p) (hsource : l.source p = .error (.load e)) :
    e.path = p ∧ l.Unreadable root p := by
  rcases source_eq_error hsource with ⟨e', htext, he⟩ | ⟨e', hread, he | ⟨he, -⟩⟩
  · obtain rfl := StageError.load.inj he
    exact ⟨rfl, .inl ⟨e', htext⟩⟩
  · obtain rfl := StageError.load.inj he
    obtain rfl := h.eq_root hread
    exact ⟨rfl, .inr ⟨rfl, e', hread⟩⟩
  · cases he

/-- Only a root that is no path at all is refused without a report about the file. -/
lemma improperPath_of_file {l : Library} {root p : Path} {name : String} {e : FileError}
    (h : l.Reaches root name p) (hsource : l.source p = .error (.file e)) :
    root.fault? = some .improperPath := by
  rcases source_eq_error hsource with ⟨e', -, he⟩ | ⟨e', hread, he | ⟨-, hfault⟩⟩
  · cases he
  · cases he
  · obtain rfl := h.eq_root hread
    exact fault?_of_read hread hfault

/-! ## The outcomes of staging -/

/-- One of three statements holds, and only one. -/
def ExactlyOne (a b c : Prop) : Prop :=
  (a ∧ ¬ b ∧ ¬ c) ∨ (¬ a ∧ b ∧ ¬ c) ∨ (¬ a ∧ ¬ b ∧ c)

/-- A stage is what staging a root should give. -/
structure Stage.ClosedFrom (l : Library) (root : Path) (s : Stage) : Prop where
  /-- The root comes first, under its own name. -/
  head : ∃ f rest, s = (root.name, f) :: rest ∧ f.source = root
  distinct : s.names.Nodup
  read : ∀ e ∈ s, l.source e.2.source = .ok e.2.text
  /-- Every import is accounted for in exactly one way. -/
  imports : ∀ e ∈ s, ∀ t ∈ Source.imports e.2.text,
    ExactlyOne (l.resolve e.2.source t = .ok .wellKnown)
      (l.resolve e.2.source t = .ok .skipped ∧ t ∈ e.2.skipped)
      ((∃ p, l.resolve e.2.source t = .ok (.file p)) ∧ t ∈ s.names)
  skipped : ∀ e ∈ s, e.2.skipped = (Source.imports e.2.text).filter (l.skips e.2.source)
  reached : ∀ e ∈ s, l.Reaches root e.1 e.2.source

/-- An import of a complete file is accounted for in exactly one way. -/
lemma Complete.exactlyOne {l : Library} {s : Stage} {f : StagedFile} (h : Complete l s f)
    {t : String} (ht : t ∈ Source.imports f.text) :
    ExactlyOne (l.resolve f.source t = .ok .wellKnown)
      (l.resolve f.source t = .ok .skipped ∧ t ∈ f.skipped)
      ((∃ p, l.resolve f.source t = .ok (.file p)) ∧ t ∈ s.names) := by
  obtain ⟨r, hr, hstaged⟩ := h.resolves t ht
  rw [hr]
  cases r with
  | wellKnown => exact Or.inl ⟨rfl, by simp, by simp⟩
  | skipped =>
    have hmem : t ∈ f.skipped := by
      rw [h.skipped, List.mem_filter]
      exact ⟨ht, skips_iff.2 hr⟩
    exact Or.inr (Or.inl ⟨by simp, ⟨rfl, hmem⟩, by simp⟩)
  | file p => exact Or.inr (Or.inr ⟨by simp, by simp, ⟨p, rfl⟩, hstaged p rfl⟩)

/-- A run that begins with nothing stages its file first. -/
lemma Library.Runs.head {l : Library} {source : Path} {name : String} {s : Stage}
    (h : l.Runs (.file source name) [] (.ok s)) :
    ∃ f rest, s = (name, f) :: rest ∧ f.source = source := by
  generalize hout : (Except.ok s : Except StageError Stage) = out at h
  cases h with
  | known hname => exact absurd hname (by simp [Stage.names])
  | unreadable _ _ => cases hout
  | @opened _ _ _ text resolved fault s₁ _ _ _ hrun =>
    obtain ⟨rfl, rfl⟩ := concluded_eq_ok_iff.1 hout.symm
    obtain ⟨rest, hrest⟩ := hrun.extends _ rfl
    exact ⟨stagedFile source text resolved, rest, hrest.symm, rfl⟩
  | interrupted _ _ _ _ => cases hout

/-- **Closure of staging.**  Staging a root ends, and there are three outcomes.  Either the stage is
closed; or a file that is reached is no UTF-8 text, or is the root and cannot be read; or a file
that is reached imports a name that is too long to be searched for, or the root is no path at
all. -/
theorem stage_closed (l : Library) (root : Path) :
    l.Runs (.file root root.name) [] (l.stage root) ∧
    (∀ s, l.stage root = .ok s → s.ClosedFrom l root) ∧
    (∀ e, l.stage root = .error (.load e) →
      ∃ name, l.Reaches root name e.path ∧ l.Unreadable root e.path) ∧
    (∀ e, l.stage root = .error (.file e) →
      root.fault? = some .improperPath ∨
      ∃ name p text target, l.Reaches root name p ∧ l.source p = .ok text ∧
        target ∈ Source.imports text ∧ l.resolve p target = .error e ∧ e.fault = .nameTooLong) := by
  have hrun := runs_stage l root
  refine ⟨hrun, fun s hs => ?_, fun e he => ?_, fun e he => ?_⟩
  · rw [hs] at hrun
    have hgenuine := hrun.genuine .root (by simp) s rfl
    -- the run started with nothing, so every staged file is one that it added
    have hcomplete : ∀ e ∈ s, Complete l s e.2 := fun e he =>
      ((hrun.complete s rfl).2 e he).resolve_left (by simp)
    exact {
      head := hrun.head
      distinct := hrun.nodup (by simp [Stage.names]) s rfl
      read := fun e he => (hgenuine e he).read
      imports := fun e he t ht => (hcomplete e he).exactlyOne ht
      skipped := fun e he => (hcomplete e he).skipped
      reached := fun e he => (hgenuine e he).reached }
  · have hcause := hrun.cause .root (.load e) he
    cases hcause with
    | unreadable hreach hsource =>
      obtain ⟨hpath, hunreadable⟩ := unreadable_of_load hreach hsource
      rw [hpath]
      exact ⟨_, hreach, hunreadable⟩
  · have hcause := hrun.cause .root (.file e) he
    cases hcause with
    | unreadable hreach hsource => exact Or.inl (improperPath_of_file hreach hsource)
    | unresolvable hreach htext hmem hresolve =>
      exact Or.inr ⟨_, _, _, _, hreach, htext, hmem, hresolve, (resolve_error hresolve).1⟩

end TypedFetch.Proto
