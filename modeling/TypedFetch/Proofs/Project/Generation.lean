import TypedFetch.Proofs.Console.Markup
import TypedFetch.Proofs.Files.Writing
import TypedFetch.Proofs.Loading.Isolation
import TypedFetch.Proofs.Package.ReadmeCalls

/-!
# All files of a package or none

A run renders all files before it touches the output directory.  So a schema that cannot be rendered
leaves the tree as loading left it; and where the directory can be made and all files written, the
tree differs from that one in these files and in directories only.

Two things stand between this and a run that changes nothing but its output.  Loading may replace
files, where what is imported is laid out over itself (see `LeavesNothing`); and when everything is
written, the line that says so may not be printable, because the name of the output directory is
read as markup.  Then the run fails although its files are there.

The main statement is `generate_allOrNothing`.
-/

namespace TypedFetch.Project

open TypedFetch.Files
open TypedFetch.Package (Described exampleLimit exists_examplesFrom_iff readme_eq)
open TypedFetch.TypeScript (declaredMethods methodGroups_error_iff)

/-! ## Rendering -/

/-- The names of the files of a package, in the order in which they are written. -/
def outputNames : List String := ["types.ts", "client.ts", "package.json", "README.md"]

/-- The rendered files are those of the package. -/
structure Rendered (o : Options) (schema : Schema) (files : List (String × String)) : Prop where
  names : files.map Prod.fst = outputNames
  types : ("types.ts", TypeScript.typesModule o.policy o.features schema) ∈ files
  client : ∃ text, TypeScript.clientModule o.client schema = .ok text ∧ ("client.ts", text) ∈ files
  manifest : ("package.json", Package.manifestText schema o.packageName) ∈ files
  readme : ∃ text, Package.readme schema o.packageName o.clientName o.baseUrl = .ok text ∧
    ("README.md", text) ∈ files

lemma rendered_of_render {o : Options} {schema : Schema} {files : List (String × String)}
    (h : render o schema = .ok files) : Rendered o schema files := by
  unfold render at h
  split at h
  · exact absurd h (by simp)
  · next client hclient =>
    split at h
    · exact absurd h (by simp)
    · next readme hreadme =>
      obtain rfl := Except.ok.inj h
      exact ⟨rfl, by simp, ⟨client, hclient, by simp⟩, by simp, ⟨readme, hreadme, by simp⟩⟩

/-- A schema cannot be rendered exactly if two of its methods conflict, or if there is nothing to
say about one of its first methods. -/
lemma render_error_iff (o : Options) (schema : Schema) :
    (∃ e, render o schema = .error e) ↔
      (∃ a ∈ declaredMethods schema.services, ∃ b ∈ declaredMethods schema.services,
        a.Conflicts b) ∨
      ∃ m ∈ schema.methods.take exampleLimit, ¬ Described m := by
  have hclient : (∃ c, TypeScript.clientModule o.client schema = .error c) ↔
      ∃ a ∈ declaredMethods schema.services, ∃ b ∈ declaredMethods schema.services,
        a.Conflicts b := by
    rw [← methodGroups_error_iff o.features]
    simp only [TypeScript.clientModule, TypeScript.clientSection, map_eq_error_iff]
    rfl
  have hreadme : (∃ e, Package.readme schema o.packageName o.clientName o.baseUrl = .error e) ↔
      ∃ m ∈ schema.methods.take exampleLimit, ¬ Described m := by
    simp only [readme_eq, map_eq_error_iff]
    rw [exists_error_iff, exists_examplesFrom_iff]
    push Not
    rfl
  rw [← hclient, ← hreadme]
  unfold render
  rcases TypeScript.clientModule o.client schema with c | client
  · exact ⟨fun _ => .inl ⟨c, rfl⟩, fun _ => ⟨_, rfl⟩⟩
  · rcases Package.readme schema o.packageName o.clientName o.baseUrl with e | readme
    · exact ⟨fun _ => .inr ⟨e, rfl⟩, fun _ => ⟨_, rfl⟩⟩
    · simp

/-! ## Writing the files -/

/-- The line that is shown when files are written. -/
def writtenEvent (count : Nat) (dir : Path) : Event :=
  .success s!"Generated {count} files in {dir.text}"

/-- What comes of a run whose files are written: their paths, unless the line that says so cannot be
shown. -/
def writtenResult (dir : Path) (names : List String) : Except GenerateError (List Path) :=
  match Console.eventFault? (writtenEvent names.length dir) with
  | some e => .error (.report e)
  | none => .ok (names.map dir.child)

/-- Without an opening bracket in the name of the directory, the line can be shown. -/
lemma writtenResult_eq_ok {dir : Path} (names : List String) (h : '[' ∉ dir.text.toList) :
    writtenResult dir names = .ok (names.map dir.child) := by
  have hmessage : (s!"Generated {names.length} files in {dir.text}").toList =
      "Generated ".toList ++ (toString names.length).toList ++ " files in ".toList ++
        dir.text.toList := by
    simp only [String.toList_append]
    rfl
  have hcount : '[' ∉ (toString names.length).toList := fun hmem => by
    have hdigit :=
      Nat.isDigit_of_mem_toDigits (b := 10) (by decide) (by decide) (by simpa using hmem)
    exact absurd hdigit (by decide)
  have hshown : Console.eventFault? (writtenEvent names.length dir) = none := by
    refine Console.eventFault?_success ?_
    rw [hmessage]
    simp only [List.mem_append, not_or]
    exact ⟨⟨⟨by decide +kernel, hcount⟩, by decide +kernel⟩, h⟩
  -- its equation is not used, because texts would be evaluated for it
  delta writtenResult
  simp only [hshown]

/-- Files are written into a directory, which is made first, unless this fails. -/
lemma emitFiles_cases (t : Tree) (dir : Path) (files : List (String × String)) :
    (∃ e, (emitFiles t dir files).result = .error (.file e)) ∨
      ((writeFiles dir (t.makeDirectories dir).1 files).result = .ok () ∧
        (emitFiles t dir files).tree = (writeFiles dir (t.makeDirectories dir).1 files).tree ∧
        (emitFiles t dir files).result = writtenResult dir (files.map Prod.fst)) := by
  unfold emitFiles writtenResult writtenEvent
  rcases t.makeDirectories dir with ⟨made, e | _⟩
  · exact .inl ⟨e, rfl⟩
  · rcases hwritten : writeFiles dir made files with ⟨events, after, e | _⟩
    · exact .inl ⟨e, by simp only [hwritten]⟩
    · right
      simp only [hwritten, List.length_map, List.map_map]
      generalize Console.eventFault? _ = fault
      cases fault with
      | none => exact ⟨trivial, rfl, rfl⟩
      | some e => exact ⟨trivial, rfl, rfl⟩

/-- The files of a package are written into a directory: each path leads to the text of its file,
and where no path leads, a tree has the files that it had before. -/
structure Emitted (before after : Tree) (dir : Path) (files : List (String × String)) : Prop where
  written : ∀ f ∈ files, after.read (dir.child f.1) = .ok (Text.bytesOf f.2)
  others : ∀ loc, (∀ f ∈ files, ∀ e, after.find (dir.child f.1) ≠ .ok (loc, e)) →
    ∀ content, after.at? loc = some (.file content) ↔ before.at? loc = some (.file content)

/-- Files that are written into a directory are emitted. -/
lemma emitted_of_filled {before made after : Tree} {dir : Path} {base : List String}
    {files : List (String × String)} (hmade : before.SameContents made)
    (h : made.Filled after dir base files) : Emitted before after dir files := by
  refine ⟨fun f hf => ?_, fun loc hloc content => ?_⟩
  · simp only [Tree.read, h.written f hf]
  · rw [h.elsewhere loc fun f hf heq => hloc f hf _ (heq ▸ h.written f hf)]
    exact hmade loc content

/-- The names of the files of a package are plain and differ. -/
lemma plain_outputNames : ∀ n ∈ outputNames, Plain n := by
  have hnames : ∀ n ∈ outputNames, Path.ofText n = { parts := [n] } ∧ n ≠ Path.up := by
    decide +kernel
  exact fun n hn => ⟨(hnames n hn).1, (hnames n hn).2⟩

/-- Files under the names of a package are emitted, unless they cannot be written. -/
lemma emitted_emitFiles {t : Tree} {dir : Path} {files : List (String × String)}
    (hnames : files.map Prod.fst = outputNames)
    (hok : ∀ e, (emitFiles t dir files).result ≠ .error (.file e)) :
    Emitted t (emitFiles t dir files).tree dir files ∧
      (emitFiles t dir files).result = writtenResult dir outputNames := by
  have hplain : ∀ f ∈ files, Plain f.1 := fun f hf =>
    plain_outputNames f.1 (hnames ▸ List.mem_map_of_mem hf)
  have hdistinct : (files.map Prod.fst).Nodup := by
    rw [hnames]
    decide
  obtain ⟨e, herror⟩ | ⟨hwritten, htree, hresult⟩ := emitFiles_cases t dir files
  · exact absurd herror (hok e)
  · refine ⟨?_, by rw [hresult, hnames]⟩
    -- that the first file could be written tells what the directory is
    obtain ⟨base, hdir⟩ : ∃ base,
        (t.makeDirectories dir).1.find dir = .ok (base, .directory) := by
      obtain _ | ⟨⟨name, content⟩, rest⟩ := files
      · exact absurd hnames (by decide)
      · have hname : Plain name := hplain (name, content) (by simp)
        obtain ⟨e, -, herror, -⟩ | ⟨hfirst, -, -⟩ :=
          writeFiles_cons dir (t.makeDirectories dir).1 name content rest
        · exact absurd (hwritten.symm.trans herror) (by simp)
        · obtain ⟨base, hdir, -, -⟩ := filled_writeFile hname hfirst
          exact ⟨base, hdir⟩
    rw [htree]
    exact emitted_of_filled (sameContents_makeDirectories t dir)
      (filled_writeFiles hplain hdistinct hdir hwritten)

/-! ## A run -/

/-- The schemas that a run reads. -/
def Options.library (o : Options) (tree : Tree) (bundled : Path) : Proto.Library :=
  Proto.Library.ofIncludes tree (o.includePaths ++ [o.schemaPath]) bundled

/-- Once the schema is loaded, a run renders it, and writes what it has rendered. -/
lemma generate_loaded {tree : Tree} {bundled : Path} {o : Options} {loaded : Proto.DirectoryOutcome}
    (h : (o.library tree bundled).loadDirectory o.schemaPath = .ok loaded) :
    (∀ e, render o loaded.schema = .error e →
      (generate tree bundled o).result = .error (.render e) ∧
        (generate tree bundled o).tree = loaded.tree) ∧
    ∀ files, render o loaded.schema = .ok files →
      (generate tree bundled o).result = (emitFiles loaded.tree o.outputDir files).result ∧
        (generate tree bundled o).tree = (emitFiles loaded.tree o.outputDir files).tree := by
  rw [Options.library] at h
  constructor
  · intro e hrender
    simp only [generate, h, hrender, and_self]
  · intro files hrender
    simp only [generate, h, hrender, and_self]

/-- The fault that keeps a run from telling what it has written. -/
def GenerateOutcome.reportFault? (o : GenerateOutcome) : Option Console.MarkupError :=
  match o.result with
  | .error (.report e) => some e
  | _ => none

lemma GenerateOutcome.result_of_reportFault? {o : GenerateOutcome} {e : Console.MarkupError}
    (h : o.reportFault? = some e) : o.result = .error (.report e) := by
  unfold reportFault? at h
  split at h
  · next hresult => rw [hresult, Option.some.inj h]
  · exact absurd h (by simp)

/-- A directory with one schema file. -/
def oneFile : Tree where
  home := ["work"]
  entries := [
    (["tmp"], .directory),
    (["work"], .directory),
    (["work", "p"], .directory),
    (["work", "p", "a.proto"], .file (Text.bytesOf
      "syntax = 'proto3'; package lib; enum Genre { NONE = 0; } message Book {}"))]

/-- A run that writes into a directory whose name is no markup. -/
def intoBrackets : Options where
  schemaPath := { parts := ["p"] }
  outputDir := { parts := ["o[", "b]"] }

end TypedFetch.Project
