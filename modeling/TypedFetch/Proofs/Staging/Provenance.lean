import TypedFetch.Proofs.Staging.Closure

/-!
# Which file serves an import

An import is resolved from the directory of the file that has it, so two files can mean different
files by one name.  A stage holds one file under each name: the one that was meant by the file that
asked for the name first.  Whoever asks for it later is served by the same file, whatever it means.

The run of staging shows that every staged file but the root was asked for by a file staged before
it (`Runs.asked`).  So all imports are served by the files that they mean exactly if no two staged
files mean different files by one name, and exactly if the stage holds what can be reached from the
root at all, no more and no less.  Only then the order of the import statements does not matter.
The main statement is `stage_faithful_iff`.
-/

namespace TypedFetch.Proto

open TypedFetch.Files

/-- A staged file imports a name, and means by it the file at a path. -/
def Library.Means (l : Library) (f : StagedFile) (target : String) (p : Path) : Prop :=
  target ∈ Source.imports f.text ∧ l.resolve f.source target = .ok (.file p)

/-! ## Every staged file was asked for -/

/-- A file stands in a stage behind one that imports its name and means it. -/
def Library.AskedFor (l : Library) (s : Stage) (e : String × StagedFile) : Prop :=
  ∃ before, before ++ [e] <+: s ∧ ∃ g ∈ before, l.Means g.2 e.1 e.2.source

lemma Library.AskedFor.mono {l : Library} {s s' : Stage} {e : String × StagedFile}
    (h : l.AskedFor s e) (hs : s <+: s') : l.AskedFor s' e := by
  obtain ⟨before, hbefore, hg⟩ := h
  exact ⟨before, hbefore.trans hs, hg⟩

/-- The task is to stage the file under its name. -/
def Task.Wants (e : String × StagedFile) : Task → Prop
  | .file source name => e.1 = name ∧ e.2.source = source
  | .imports resolved => (e.1, .file e.2.source) ∈ resolved

/-- What the imports of a file want is asked for by that file, once it is staged behind it. -/
lemma askedFor_of_wants {l : Library} {s s' : Stage} {source : Path} {name : String}
    {text : List Char} {resolved : List (String × Resolution)} {fault : Option FileError}
    (hres : l.resolved source (Source.imports text) = (resolved, fault))
    (hs : s ++ [(name, stagedFile source text resolved)] <+: s') {e : String × StagedFile}
    (he : e ∈ s') (hold : e ∉ s ++ [(name, stagedFile source text resolved)])
    (hwants : Task.Wants e (.imports resolved)) : l.AskedFor s' e := by
  obtain ⟨tail, rfl⟩ := hs
  have htail : e ∈ tail := (List.mem_append.1 he).resolve_left hold
  obtain ⟨between, after, rfl⟩ := List.append_of_mem htail
  refine ⟨s ++ [(name, stagedFile source text resolved)] ++ between, ⟨after, by simp⟩,
    (name, stagedFile source text resolved), by simp, ?_⟩
  exact resolved_sound hres _ hwants

lemma Library.Runs.asked {l : Library} {task : Task} {s : Stage} {out : Except StageError Stage}
    (h : l.Runs task s out) :
    ∀ s', out = .ok s' → ∀ e ∈ s', e ∈ s ∨ task.Wants e ∨ l.AskedFor s' e := by
  -- what the imports of a file want is settled where the file is opened, and not before
  induction h with
  | known _ => rintro s' ⟨⟩ e he; exact Or.inl he
  | unreadable _ _ => rintro s' ⟨⟩
  | @opened source name s text resolved fault s₁ _ _ hres hrun ih =>
    intro s' hs' e he
    obtain ⟨rfl, rfl⟩ := concluded_eq_ok_iff.1 hs'
    by_cases hold : e ∈ s ++ [(name, stagedFile source text resolved)]
    · rcases List.mem_append.1 hold with hs | hnew
      · exact Or.inl hs
      · obtain rfl : e = (name, stagedFile source text resolved) := by simpa using hnew
        exact Or.inr (Or.inl ⟨rfl, rfl⟩)
    · rcases (ih s₁ rfl e he).resolve_left hold with hwants | hasked
      · exact Or.inr (Or.inr (askedFor_of_wants hres (hrun.extends s₁ rfl) he hold hwants))
      · exact Or.inr (Or.inr hasked)
  | interrupted _ _ _ _ _ => rintro s' ⟨⟩
  | done => rintro s' ⟨⟩ e he; exact Or.inl he
  | passed _ _ ih =>
    intro s' hs' e he
    rcases ih s' hs' e he with hold | hwants | hasked
    · exact Or.inl hold
    · exact Or.inr (Or.inl (List.mem_cons_of_mem _ hwants))
    · exact Or.inr (Or.inr hasked)
  | @followed target p rest s s₁ out _ hrest ih₁ ih₂ =>
    intro s' hs' e he
    rcases ih₂ s' hs' e he with hfirst | hwants | hasked
    · rcases ih₁ s₁ rfl e hfirst with hold | ⟨hname, hsource⟩ | hasked
      · exact Or.inl hold
      · refine Or.inr (Or.inl ?_)
        rw [Task.Wants, hname, hsource]
        exact List.mem_cons_self
      · exact Or.inr (Or.inr (hasked.mono (hrest.extends s' hs')))
    · exact Or.inr (Or.inl (List.mem_cons_of_mem _ hwants))
    · exact Or.inr (Or.inr hasked)
  | failed _ _ => rintro s' ⟨⟩

/-! ## Stages by name -/

lemma mem_of_lookup {s : Stage} {name : String} {f : StagedFile} (h : s.lookup name = some f) :
    (name, f) ∈ s := by
  obtain ⟨before, after, rfl, -⟩ := List.lookup_eq_some_iff.1 h
  simp

lemma lookup_of_mem {s : Stage} (hnodup : s.names.Nodup) {e : String × StagedFile} (he : e ∈ s) :
    s.lookup e.1 = some e.2 := by
  obtain ⟨f, hf⟩ := Option.isSome_iff_exists.1
    ((isSome_lookup_iff s e.1).2 (List.mem_map_of_mem he))
  have hsame : (e.1, f) = e := List.inj_on_of_nodup_map hnodup (mem_of_lookup hf) he rfl
  rw [hf, ← hsame]

/-- A stage that holds under a name the file at a path. -/
def Stage.Holds (s : Stage) (name : String) (p : Path) : Prop :=
  ∃ f, s.lookup name = some f ∧ f.source = p

lemma Stage.Holds.unique {s : Stage} {name : String} {p q : Path} (hp : s.Holds name p)
    (hq : s.Holds name q) : p = q := by
  obtain ⟨f, hf, rfl⟩ := hp
  obtain ⟨g, hg, rfl⟩ := hq
  rw [Option.some.inj (hf.symm.trans hg)]

/-! ## When all imports are served by the files that they mean -/

/-- Every import is served by the file that it means. -/
def Stage.Faithful (l : Library) (s : Stage) : Prop :=
  ∀ e ∈ s, ∀ t p, l.Means e.2 t p → s.Holds t p

/-- All importers of a name mean the same file by it, and the name of the root means the root. -/
structure Stage.Unanimous (l : Library) (root : Path) (s : Stage) : Prop where
  importers : ∀ e ∈ s, ∀ e' ∈ s, ∀ t p p', l.Means e.2 t p → l.Means e'.2 t p' → p = p'
  root : ∀ e ∈ s, ∀ p, l.Means e.2 root.name p → p = root

section Served

variable {l : Library} {root : Path} {s : Stage}

/-- The run that a stage comes from. -/
lemma runs_of_stage (h : l.stage root = .ok s) : l.Runs (.file root root.name) [] (.ok s) :=
  h ▸ runs_stage l root

lemma nodup_of_stage (h : l.stage root = .ok s) : s.names.Nodup :=
  (runs_of_stage h).nodup (by simp [Stage.names]) s rfl

lemma genuine_of_stage (h : l.stage root = .ok s) {e : String × StagedFile} (he : e ∈ s) :
    Genuine l root e :=
  (runs_of_stage h).genuine .root (by simp) s rfl e he

lemma holds_of_mem (h : l.stage root = .ok s) {e : String × StagedFile} (he : e ∈ s) :
    s.Holds e.1 e.2.source :=
  ⟨e.2, lookup_of_mem (nodup_of_stage h) he, rfl⟩

lemma holds_root (h : l.stage root = .ok s) : s.Holds root.name root := by
  obtain ⟨f, rest, hs, hsource⟩ := (runs_of_stage h).head
  have hmem : (root.name, f) ∈ s := by simp [hs]
  simpa only [hsource] using holds_of_mem h hmem

/-- The name of an import that is a file is staged. -/
lemma mem_names_of_means (h : l.stage root = .ok s) {e : String × StagedFile} (he : e ∈ s)
    {t : String} {p : Path} (hmeans : l.Means e.2 t p) : t ∈ s.names := by
  -- the run began with nothing, so every staged file is one that it completed
  have hcomplete := (((runs_of_stage h).complete s rfl).2 e he).resolve_left (by simp)
  obtain ⟨r, hr, hstaged⟩ := hcomplete.resolves t hmeans.1
  exact hstaged p (Except.ok.inj (hr.symm.trans hmeans.2))

/-- Every staged file is the root or was asked for. -/
lemma askedFor_of_mem (h : l.stage root = .ok s) {e : String × StagedFile} (he : e ∈ s) :
    e.1 = root.name ∧ e.2.source = root ∨ l.AskedFor s e :=
  ((runs_of_stage h).asked s rfl e he).resolve_left (by simp)

lemma reaches_of_holds (h : l.stage root = .ok s) {name : String} {p : Path}
    (hp : s.Holds name p) : l.Reaches root name p := by
  obtain ⟨f, hf, rfl⟩ := hp
  exact (genuine_of_stage h (mem_of_lookup hf)).reached

/-- What a staged file means by an import is reached. -/
lemma reaches_of_means (h : l.stage root = .ok s) {e : String × StagedFile} (he : e ∈ s)
    {t : String} {p : Path} (hmeans : l.Means e.2 t p) : l.Reaches root t p :=
  have hgenuine := genuine_of_stage h he
  .step hgenuine.reached hgenuine.read hmeans.1 hmeans.2

lemma faithful_iff_unanimous (h : l.stage root = .ok s) :
    s.Faithful l ↔ s.Unanimous l root := by
  constructor
  · intro hfaithful
    constructor
    · intro e he e' he' t p p' hp hp'
      exact (hfaithful e he t p hp).unique (hfaithful e' he' t p' hp')
    · intro e he p hp
      exact (hfaithful e he root.name p hp).unique (holds_root h)
  · intro hunanimous e he t p hp
    obtain ⟨f, hf⟩ := Option.isSome_iff_exists.1
      ((isSome_lookup_iff s t).2 (mem_names_of_means h he hp))
    -- the file under the name is the root, or it is what some other importer means
    have hsource : f.source = p := by
      rcases askedFor_of_mem h (mem_of_lookup hf) with
        ⟨rfl, hroot⟩ | ⟨before, hbefore, g, hg, hmeans⟩
      · exact hroot.trans (hunanimous.root e he p hp).symm
      · have hgs : g ∈ s := hbefore.subset (List.mem_append_left _ hg)
        exact hunanimous.importers g hgs e he t f.source p hmeans hp
    exact ⟨f, hf, hsource⟩

lemma faithful_iff_reaches (h : l.stage root = .ok s) :
    s.Faithful l ↔ ∀ name p, l.Reaches root name p ↔ s.Holds name p := by
  constructor
  · intro hfaithful name p
    refine ⟨fun hreach => ?_, reaches_of_holds h⟩
    induction hreach with
    | root => exact holds_root h
    | @step name p text target q _ htext hmem hresolve ih =>
      obtain ⟨f, hf, rfl⟩ := ih
      have hread := (genuine_of_stage h (mem_of_lookup hf)).read
      obtain rfl : f.text = text := Except.ok.inj (hread.symm.trans htext)
      exact hfaithful _ (mem_of_lookup hf) target q ⟨hmem, hresolve⟩
  · intro hreaches e he t p hp
    exact (hreaches t p).1 (reaches_of_means h he hp)

end Served

/-! ## The order of import statements -/

/-- A file can be read and imports a name. -/
def Library.Asks (l : Library) (p : Path) (target : String) : Prop :=
  ∃ text, l.source p = .ok text ∧ target ∈ Source.imports text

/-- Two libraries whose files import the same names, in whatever order, and from the same places. -/
structure Library.SameImports (l l' : Library) : Prop where
  asks : ∀ p target, l.Asks p target ↔ l'.Asks p target
  resolve : ∀ p target, l.resolve p target = l'.resolve p target

lemma Library.SameImports.symm {l l' : Library} (h : l.SameImports l') : l'.SameImports l :=
  ⟨fun p target => (h.asks p target).symm, fun p target => (h.resolve p target).symm⟩

lemma Library.SameImports.reaches {l l' : Library} (h : l.SameImports l') {root p : Path}
    {name : String} (hreach : l.Reaches root name p) : l'.Reaches root name p := by
  induction hreach with
  | root => exact .root
  | @step name p text target q _ htext hmem hresolve ih =>
    obtain ⟨text', htext', hmem'⟩ := (h.asks p target).1 ⟨text, htext, hmem⟩
    exact .step ih htext' hmem' (h.resolve p target ▸ hresolve)

/-- In a library with the same imports as one whose stage is faithful, the stage is faithful too,
because all that is reached there agrees. -/
lemma faithful_of_sameImports {l l' : Library} {root : Path} {s s' : Stage}
    (h : l.stage root = .ok s) (hfaithful : s.Faithful l) (hsame : l.SameImports l')
    (h' : l'.stage root = .ok s') : s'.Faithful l' := by
  have hholds : ∀ {name p}, l'.Reaches root name p → s.Holds name p := fun hreach =>
    ((faithful_iff_reaches h).1 hfaithful _ _).1 (hsame.symm.reaches hreach)
  rw [faithful_iff_unanimous h']
  constructor
  · intro e he e' he' t p p' hp hp'
    exact (hholds (reaches_of_means h' he hp)).unique (hholds (reaches_of_means h' he' hp'))
  · intro e he p hp
    exact (hholds (reaches_of_means h' he hp)).unique (holds_root h)

/-- **First come, first served.**  Every staged file is the root or what a file staged before it
means by its name.  Every import is served by the file that it means exactly if the importers of
each name mean the same file by it, and exactly if each file that can be reached under a name is
staged under that name.  In that case the order of the import statements does not change which file
is staged under which name. -/
theorem stage_faithful_iff {l : Library} {root : Path} {s : Stage} (h : l.stage root = .ok s) :
    (∀ e ∈ s, e.1 = root.name ∧ e.2.source = root ∨ l.AskedFor s e) ∧
    (s.Faithful l ↔ s.Unanimous l root) ∧
    (s.Faithful l ↔ ∀ name p, l.Reaches root name p ↔ s.Holds name p) ∧
    (s.Faithful l → ∀ l' s', l.SameImports l' → l'.stage root = .ok s' →
      ∀ name p, s'.Holds name p ↔ s.Holds name p) := by
  refine ⟨fun e he => askedFor_of_mem h he, faithful_iff_unanimous h, faithful_iff_reaches h, ?_⟩
  intro hfaithful l' s' hsame h' name p
  have hfaithful' := faithful_of_sameImports h hfaithful hsame h'
  calc s'.Holds name p ↔ l'.Reaches root name p :=
        ((faithful_iff_reaches h').1 hfaithful' name p).symm
    _ ↔ l.Reaches root name p := ⟨hsame.symm.reaches, hsame.reaches⟩
    _ ↔ s.Holds name p := (faithful_iff_reaches h).1 hfaithful name p

/-- Files in two directories, with a file `types.proto` in each of them.  The content of the first
file is given. -/
def namesakes (main : String) : Library where
  tree := { entries := [
    (["api"], .directory),
    (["api", "main.proto"], .file (Text.bytesOf main)),
    (["api", "types.proto"], .file (Text.bytesOf "package api;")),
    (["api", "user"], .directory),
    (["api", "user", "user.proto"], .file (Text.bytesOf "import 'types.proto';")),
    (["api", "user", "types.proto"], .file (Text.bytesOf "package api.user;"))] }

/-- What is staged for the first file, when it imports the other directory before its own. -/
def namesakesStage : Stage :=
  [("main.proto",
     { source := { parts := ["api", "main.proto"] }
       text := "import 'user/user.proto';\nimport 'types.proto';".toList, package := ""
       skipped := [] }),
   ("user/user.proto",
     { source := { parts := ["api", "user", "user.proto"] }
       text := "import 'types.proto';".toList, package := "", skipped := [] }),
   ("types.proto",
     { source := { parts := ["api", "user", "types.proto"] }
       text := "package api.user;".toList, package := "api.user", skipped := [] })]

/-- The first file of the two directories means the `types.proto` of its own directory and is served
by the other one; with its import statements in the other order it is served by its own. -/
theorem stage_faithful_iff_namesakes :
    (namesakes "import 'user/user.proto';\nimport 'types.proto';").stage
        { parts := ["api", "main.proto"] } = .ok namesakesStage ∧
    ¬ namesakesStage.Faithful (namesakes "import 'user/user.proto';\nimport 'types.proto';") ∧
    ((namesakes "import 'types.proto';\nimport 'user/user.proto';").stage
        { parts := ["api", "main.proto"] }).map (fun s => (s.lookup "types.proto").map (·.source)) =
      .ok (some { parts := ["api", "types.proto"] }) := by
  have h : (namesakes "import 'user/user.proto';\nimport 'types.proto';").stage
      { parts := ["api", "main.proto"] } = .ok namesakesStage := by decide +kernel
  refine ⟨h, fun hfaithful => ?_, by decide +kernel⟩
  have hunanimous := (stage_faithful_iff h).2.1.1 hfaithful
  -- both of the first two files import the name
  have hsame := hunanimous.importers _ (List.mem_cons_self) _
    (List.mem_cons_of_mem _ List.mem_cons_self) "types.proto"
    { parts := ["api", "types.proto"] } { parts := ["api", "user", "types.proto"] }
    ⟨by decide +kernel, by decide +kernel⟩ ⟨by decide +kernel, by decide +kernel⟩
  exact absurd hsame (by decide)

end TypedFetch.Proto
