import TypedFetch.Proofs.Staging.Confinement
import TypedFetch.Proofs.Staging.Opened
import TypedFetch.Proto.Load

/-!
# One bad file disturbs only its importers

What comes of a schema file depends on the files that are opened for it, and otherwise only on the
kinds of what is in the tree.  The files of a directory are loaded one after the other in the same
tree, so they are independent of each other as long as no load leaves anything behind.  That is so
if all names under which files are laid out stay within the directory that is made for the load
(`Library.LeavesNothing`): then replacing one file leaves all files alone for which it is not
opened.  An import that starts at the root is laid out over the file that it means, and a file that
is loaded later finds what was written there.

The main statement is `load_isolated`.
-/

namespace TypedFetch.Proto

open TypedFetch.Files

/-! ## One file -/

/-- Whether files can be laid out depends on the kinds of what is in the tree. -/
lemma layOutFrom_kinds {s : Stage} {dir : Path} (files : List (String × StagedFile)) :
    ∀ {t t' : Tree}, t.SameKinds t' →
      (s.layOutFrom dir t files).1.SameKinds (s.layOutFrom dir t' files).1 ∧
        (s.layOutFrom dir t' files).2 = (s.layOutFrom dir t files).2 := by
  induction files with
  | nil => exact fun h => ⟨h, rfl⟩
  | cons e files ih =>
    intro t t' h
    obtain ⟨name, f⟩ := e
    obtain ⟨hsame, houtcome⟩ := h.makeDirectories (dir.child name).parent
    dsimp only [Stage.layOutFrom]
    generalize t.makeDirectories (dir.child name).parent = made at hsame houtcome ⊢
    generalize t'.makeDirectories (dir.child name).parent = made' at hsame houtcome ⊢
    obtain ⟨u, outcome⟩ := made
    obtain ⟨u', outcome'⟩ := made'
    obtain rfl : outcome' = outcome := houtcome
    cases outcome' with
    | error e => exact ⟨hsame, rfl⟩
    | ok =>
      dsimp only at hsame ⊢
      obtain ⟨e, hw, hw'⟩ | ⟨v, v', hw, hw', hv⟩ := hsame.write (dir.child name)
        (Text.bytesOf (String.ofList (s.compilable f)))
      · rw [hw, hw']
        exact ⟨hsame, rfl⟩
      · rw [hw, hw']
        exact ih hv

lemma layOut_kinds (s : Stage) {t t' : Tree} (h : t.SameKinds t') :
    (s.layOut t').2 = (s.layOut t).2 := by
  unfold Stage.layOut
  obtain ⟨e, hm, hm'⟩ | ⟨u, u', hm, hm', hu⟩ := h.makeDirectory (.absolute temporaryHome)
  · rw [hm, hm']
  · rw [hm, hm']
    exact (layOutFrom_kinds s hu).2

/-- What comes of a file is decided by its stage and by whether that can be laid out. -/
lemma loadFile_eq (l : Library) (p : Path) :
    (l.loadFile p).1 =
      match l.stage p with
      | .error e => { result := .error (.stage e) }
      | .ok s =>
        match (s.layOut l.tree).2 with
        | .error e => { result := .error (.stage e) }
        | .ok () => s.load p := by
  unfold Library.loadFile
  cases l.stage p with
  | error e => rfl
  | ok s =>
    dsimp only
    rcases s.layOut l.tree with ⟨tree, e | _⟩ <;> rfl

/-- Libraries of the same kinds that agree on the files opened for a file load it alike. -/
lemma loadFile_congr {l l' : Library} (hkinds : l.tree.SameKinds l'.tree)
    (hincludes : l'.includes = l.includes) {p : Path}
    (hread : ∀ q, l.OpensFor p q → l'.tree.read q = l.tree.read q) :
    (l'.loadFile p).1 = (l.loadFile p).1 := by
  rw [loadFile_eq, loadFile_eq, stage_congr hkinds hincludes hread]
  split
  · rfl
  · rw [layOut_kinds _ hkinds]

/-! ## What a load leaves behind -/

/-- All names of a stage stay within the directory that is made for the load, of which the place
where files are laid out is a part: they are relative and lead at most one step above that place. -/
def Stage.Contained (s : Stage) : Prop :=
  ∀ name ∈ s.names, StaysWithin ["protos"] name

lemma home_layOutFrom {s : Stage} {dir : Path} (files : List (String × StagedFile)) :
    ∀ t : Tree, (s.layOutFrom dir t files).1.home = t.home := by
  induction files with
  | nil => exact fun t => rfl
  | cons e files ih =>
    intro t
    obtain ⟨name, f⟩ := e
    have hmade := home_makeDirectories t (dir.child name).parent
    dsimp only [Stage.layOutFrom]
    split
    · next u e hout => rw [hout] at hmade; exact hmade
    · next u hout =>
      rw [hout] at hmade
      split
      · exact hmade
      · next v hwrite => exact (ih v).trans ((home_write hwrite).trans hmade)

/-- A directory that was made is at the location of its path, where nothing was, and in a
directory. -/
lemma made_of_makeDirectory {t t' : Tree} {p : Path} (hne : p.parts ≠ [])
    (h : t.makeDirectory p = .ok t') :
    t.leadsToDirectory p.parent = true ∧ t.at? (t.plainLocation p) = none ∧
      t' = t.put (t.plainLocation p) .directory := by
  obtain ⟨location, hplace, hnone, rfl⟩ := makeDirectory_eq_ok_iff.1 h
  obtain rfl := place_eq hne hplace
  obtain ⟨holder, hfind, -⟩ := place_eq_ok_iff.1 hplace
  exact ⟨by rw [Tree.leadsToDirectory, hfind], hnone, rfl⟩

/-- Laying out a contained stage leaves all files as they are, because the directory that was made
for it is removed with everything in it. -/
lemma sameFiles_layOut {s : Stage} {t : Tree} (ht : t.Sound) (hs : s.Contained) :
    t.SameFiles (s.layOut t).1 := by
  unfold Stage.layOut
  split
  · exact .refl t
  · next t₁ hmade =>
    obtain ⟨hholder, hnone, rfl⟩ := made_of_makeDirectory (by decide) hmade
    have hdown : (Path.absolute temporaryHome).LeadsDown := ⟨rfl, by decide, by decide⟩
    have hlocation : t.plainLocation (.absolute temporaryHome) = temporaryHome := rfl
    rw [hlocation] at hnone ⊢
    have hroom : t.HasRoomFor (.absolute temporaryHome) := { hdown with holder := hholder }
    have hput : Tree.SameOutside temporaryHome t (t.put temporaryHome .directory) :=
      sameOutside_put _ (List.prefix_refl _)
    have hwithin : ∀ e ∈ s, StaysWithin ["protos"] e.1 := fun e he =>
      hs e.1 (List.mem_map_of_mem he)
    have hlaid := sameOutside_layOutFrom_behind (s := s) (hroom.of_sameOutside hput) hwithin
    refine ⟨(home_layOutFrom s _).trans (home_put t _ _), fun loc => ?_⟩
    by_cases hloc : temporaryHome <+: loc
    · rw [ht.at?_eq_none hnone hloc]
      exact at?_without_of_isPrefix (by decide) hloc
    · refine (at?_without_of_not_isPrefix hloc).trans ?_
      exact (hlaid loc hloc).trans (hput loc hloc)

/-- Loading the given files leaves nothing behind: what is staged for each of them is contained. -/
def Library.LeavesNothing (l : Library) (paths : List Path) : Prop :=
  ∀ p ∈ paths, ∀ s, l.stage p = .ok s → s.Contained

lemma sameFiles_loadFile {l : Library} (hl : l.tree.Sound) {p : Path}
    (h : ∀ s, l.stage p = .ok s → s.Contained) : l.tree.SameFiles (l.loadFile p).2 := by
  unfold Library.loadFile
  split
  · exact .refl l.tree
  · next s hs =>
    have hlaid := sameFiles_layOut hl (h s hs)
    split
    · next hout => rw [hout] at hlaid; exact hlaid
    · next hout => rw [hout] at hlaid; exact hlaid

/-! ## The files of a directory -/

/-- Where loading leaves nothing behind, each file is loaded as if it were the only one. -/
lemma loadFiles_eq {l : Library} (hl : l.tree.Sound) (paths : List Path) :
    ∀ l₁ : Library, l.tree.SameFiles l₁.tree → l₁.includes = l.includes →
      l.LeavesNothing paths →
      (l₁.loadFiles paths).1 = paths.map fun p => (p, (l.loadFile p).1) := by
  induction paths with
  | nil => exact fun l₁ _ _ _ => rfl
  | cons p paths ih =>
    intro l₁ hsame hincludes hleaves
    have hread : ∀ q, l₁.tree.read q = l.tree.read q := hsame.read
    have hfirst : (l₁.loadFile p).1 = (l.loadFile p).1 :=
      loadFile_congr hsame.sameKinds hincludes fun q _ => hread q
    have hstage : l₁.stage p = l.stage p :=
      stage_congr hsame.sameKinds hincludes fun q _ => hread q
    have hleft : l₁.tree.SameFiles (l₁.loadFile p).2 :=
      sameFiles_loadFile (hsame.sameKinds.sound hl) fun s hs =>
        hleaves p (by simp) s (hstage ▸ hs)
    have hrest := ih { l₁ with tree := (l₁.loadFile p).2 } (hsame.trans hleft) hincludes
      fun q hq => hleaves q (by simp [hq])
    simp only [Library.loadFiles, List.map_cons, hfirst, hrest]

/-- Where loading leaves nothing behind for any of the files, it leaves nothing behind for all. -/
lemma sameFiles_loadFiles {l : Library} (hl : l.tree.Sound) (paths : List Path) :
    ∀ l₁ : Library, l.tree.SameFiles l₁.tree → l₁.includes = l.includes →
      l.LeavesNothing paths → l.tree.SameFiles (l₁.loadFiles paths).2 := by
  induction paths with
  | nil => exact fun l₁ hsame _ _ => hsame
  | cons p paths ih =>
    intro l₁ hsame hincludes hleaves
    have hstage : l₁.stage p = l.stage p :=
      stage_congr hsame.sameKinds hincludes fun q _ => hsame.read q
    have hleft : l₁.tree.SameFiles (l₁.loadFile p).2 :=
      sameFiles_loadFile (hsame.sameKinds.sound hl) fun s hs =>
        hleaves p (by simp) s (hstage ▸ hs)
    exact ih { l₁ with tree := (l₁.loadFile p).2 } (hsame.trans hleft) hincludes
      fun q hq => hleaves q (by simp [hq])

lemma files_schemaOfFiles (files : List Schema.File) : (schemaOfFiles files).files = files := by
  unfold schemaOfFiles
  split <;> rfl

/-- The schema of a directory where loading leaves nothing behind. -/
lemma exists_loadDirectory {l : Library} (hl : l.tree.Sound) {root : Path} {paths : List Path}
    (hpaths : schemaFiles l.tree root = .ok paths) (hleaves : l.LeavesNothing paths) :
    ∃ o, l.loadDirectory root = .ok o ∧
      o.schema.files = paths.filterMap fun p => (l.loadFile p).1.result.toOption := by
  refine ⟨directoryOutcome root (l.loadFiles paths).1 (l.loadFiles paths).2, ?_, ?_⟩
  · rw [Library.loadDirectory, hpaths]
    rfl
  · rw [loadFiles_eq hl paths l (.refl _) rfl hleaves]
    simp only [directoryOutcome, files_schemaOfFiles, List.filterMap_map]
    rfl

/-- One library is another one with a different content of the file at a location. -/
structure Library.Replaces (l l' : Library) (location : List String) : Prop where
  listing : l.tree.SameListing l'.tree
  includes : l'.includes = l.includes
  elsewhere : ∀ loc, loc ≠ location → l'.tree.at? loc = l.tree.at? loc

/-- The file at a location is opened when another file is loaded. -/
def Library.OpensAt (l : Library) (location : List String) (p : Path) : Prop :=
  ∃ q e, l.OpensFor p q ∧ l.tree.find q = .ok (location, e)

lemma schemaFiles_congr {t t' : Tree} (h : t.SameListing t') (root : Path) :
    schemaFiles t' root = schemaFiles t root := by
  simp only [schemaFiles, h.sameKinds.asksDirectory, h.filesBelow]

/-- A file that is not opened for another one does not matter to it. -/
lemma loadFile_of_replaces {l l' : Library} {location : List String}
    (h : l.Replaces l' location) {p : Path} (hopens : ¬ l.OpensAt location p) :
    (l'.loadFile p).1 = (l.loadFile p).1 := by
  refine loadFile_congr h.listing.sameKinds h.includes fun q hq => ?_
  refine h.listing.sameKinds.read fun loc e hfind => h.elsewhere loc ?_
  rintro rfl
  exact hopens ⟨q, e, hq, hfind⟩

/-- A directory is refused for a reason that has nothing to do with contents. -/
lemma loadDirectory_error_iff {l : Library} {root : Path} {e : FileError} :
    l.loadDirectory root = .error e ↔ schemaFiles l.tree root = .error e := by
  unfold Library.loadDirectory
  cases schemaFiles l.tree root <;> simp [Except.map]

/-- **Isolation.**  The files that are opened for a file are reached from it by imports and, where
it can be staged, are the sources of the stage.  What comes of the file is the same in all libraries
of the same kinds that agree on these files, its failures and skipped imports included.  Replacing
the content of one file of a library never makes a directory be refused.  If loading leaves nothing
behind, with the old and with the new content, then the schema of a directory has its files in the
order of their paths, each as if it were loaded alone, and all those are unchanged for which the
replaced file is not opened. -/
theorem load_isolated (l : Library) :
    (∀ p q, l.OpensFor p q → ∃ name, l.Reaches p name q) ∧
    (∀ p s, l.stage p = .ok s → ∀ q, l.OpensFor p q ↔ ∃ e ∈ s, e.2.source = q) ∧
    (∀ (l' : Library) (p : Path), l.tree.SameKinds l'.tree → l'.includes = l.includes →
      (∀ q, l.OpensFor p q → l'.tree.read q = l.tree.read q) →
      (l'.loadFile p).1 = (l.loadFile p).1) ∧
    ∀ (l' : Library) (location : List String) (root : Path), l.Replaces l' location →
      (∀ e, l'.loadDirectory root = .error e ↔ l.loadDirectory root = .error e) ∧
      ∀ paths, schemaFiles l.tree root = .ok paths → l.tree.Sound →
        l.LeavesNothing paths → l'.LeavesNothing paths →
        ∃ o o', l.loadDirectory root = .ok o ∧ l'.loadDirectory root = .ok o' ∧
          o.schema.files = paths.filterMap (fun p => (l.loadFile p).1.result.toOption) ∧
          o'.schema.files = paths.filterMap (fun p => (l'.loadFile p).1.result.toOption) ∧
          ∀ p ∈ paths, ¬ l.OpensAt location p → (l'.loadFile p).1 = (l.loadFile p).1 := by
  refine ⟨fun p q hq => Library.Opens.reached hq .root, fun p s hs q => opensFor_iff hs q,
    fun l' p hkinds hincludes hread => loadFile_congr hkinds hincludes hread, ?_⟩
  intro l' location root hreplaces
  have hschema := schemaFiles_congr hreplaces.listing root
  constructor
  · intro e
    rw [loadDirectory_error_iff, loadDirectory_error_iff, hschema]
  · intro paths hpaths hl hleaves hleaves'
    have hl' := hreplaces.listing.sameKinds.sound hl
    obtain ⟨o, ho, hfiles⟩ := exists_loadDirectory hl hpaths hleaves
    obtain ⟨o', ho', hfiles'⟩ := exists_loadDirectory hl' (hschema.trans hpaths) hleaves'
    exact ⟨o, o', ho, ho', hfiles, hfiles', fun p _ => loadFile_of_replaces hreplaces⟩

/-- A directory with three schema files, of which the first imports the third one.  The content of
the third one is given. -/
def threeFiles (content : List UInt8) : Library where
  tree :=
    { home := ["work"]
      entries := [
        (["tmp"], .directory),
        (["work"], .directory),
        (["work", "p"], .directory),
        (["work", "p", "a.proto"], .file (Text.bytesOf "import 'c.proto';")),
        (["work", "p", "b.proto"], .file (Text.bytesOf "package b;")),
        (["work", "p", "c.proto"], .file content)] }

/-- A directory with two schema files, of which the first imports the second one by its full path,
and the second one a file that is not there. -/
def fullPath : Library where
  tree :=
    { home := ["work"]
      entries := [
        (["tmp"], .directory),
        (["work"], .directory),
        (["work", "p"], .directory),
        (["work", "p", "a.proto"], .file (Text.bytesOf "import '/work/p/b.proto';")),
        (["work", "p", "b.proto"], .file (Text.bytesOf "import 'gone.proto';\npackage b;"))] }

/-- If the third of the three files becomes unreadable, the directory is still loaded, and what
comes of the second one is what came of it before.  But where a file is imported by its full path,
loading the importer replaces it by a copy without the import that was found nowhere. -/
theorem load_isolated_threeFiles :
    (∃ o o', (threeFiles (Text.bytesOf "package c;")).loadDirectory { parts := ["p"] } = .ok o ∧
      (threeFiles [0xFF]).loadDirectory { parts := ["p"] } = .ok o') ∧
    ((threeFiles [0xFF]).loadFile { parts := ["p", "b.proto"] }).1 =
      ((threeFiles (Text.bytesOf "package c;")).loadFile { parts := ["p", "b.proto"] }).1 ∧
    (fullPath.loadFile { parts := ["p", "a.proto"] }).2.at? ["work", "p", "b.proto"] =
      some (.file (Text.bytesOf "\npackage b;")) := by
  let before := threeFiles (Text.bytesOf "package c;")
  let after := threeFiles [0xFF]
  let paths : List Path :=
    [{ parts := ["p", "a.proto"] }, { parts := ["p", "b.proto"] }, { parts := ["p", "c.proto"] }]
  have hpaths : schemaFiles before.tree { parts := ["p"] } = .ok paths := by
    have hasks : before.tree.asksDirectory { parts := ["p"] } = .ok true := by decide +kernel
    have hfind : before.tree.find { parts := ["p"] } = .ok (["work", "p"], .directory) := by
      decide +kernel
    simp only [schemaFiles, hasks, Tree.filesBelow, hfind]
    -- the files are listed in the order of their paths
    refine congrArg Except.ok ?_
    rw [List.mergeSort_of_pairwise]
    · decide +kernel
    · decide +kernel
  have hsound : before.tree.Sound := Tree.sound_of_entries (by decide) (by decide)
  have hreplaces : before.Replaces after ["work", "p", "c.proto"] := by
    refine ⟨⟨rfl, rfl⟩, rfl, fun loc hloc => ?_⟩
    have hput : after.tree = before.tree.put ["work", "p", "c.proto"] (.file [0xFF]) := by
      decide +kernel
    rw [hput]
    exact at?_put_of_ne _ hloc
  -- whichever of the files is staged, the names are plain ones
  have hplain : ∀ name ∈ ["a.proto", "b.proto", "c.proto"], StaysWithin ["protos"] name := by
    intro name hname
    simp only [List.mem_cons, List.not_mem_nil, or_false] at hname
    obtain rfl | rfl | rfl := hname
    all_goals exact ⟨by decide +kernel, by decide +kernel, by decide +kernel⟩
  have hleaves : ∀ l ∈ [before, after], l.LeavesNothing paths := by
    intro l hl p hp s hs name hname
    have hnames : ∀ l ∈ [before, after], ∀ p ∈ paths, ∀ s ∈ (l.stage p).toOption,
        ∀ name ∈ s.names, name ∈ ["a.proto", "b.proto", "c.proto"] := by decide +kernel
    exact hplain name (hnames l hl p hp s (by rw [hs]; rfl) name hname)
  obtain ⟨-, hopened, -, hdirectory⟩ := load_isolated before
  obtain ⟨o, o', ho, ho', -, -, hunchanged⟩ := (hdirectory after _ { parts := ["p"] } hreplaces).2
    paths hpaths hsound (hleaves before (by simp)) (hleaves after (by simp))
  refine ⟨⟨o, o', ho, ho'⟩, hunchanged { parts := ["p", "b.proto"] } (by simp [paths]) ?_,
    by decide +kernel⟩
  -- the second file is opened for itself, and no other
  rintro ⟨q, e, hq, hfind⟩
  have hstage : before.stage { parts := ["p", "b.proto"] } =
      .ok [("b.proto",
        { source := { parts := ["p", "b.proto"] }, text := "package b;".toList, package := "b"
          skipped := [] })] := by decide +kernel
  obtain ⟨f, hf, rfl⟩ := (hopened _ _ hstage q).1 hq
  obtain rfl := List.mem_singleton.1 hf
  have hfound : before.tree.find { parts := ["p", "b.proto"] } =
      .ok (["work", "p", "b.proto"], .file (Text.bytesOf "package b;")) := by decide +kernel
  exact absurd (hfound.symm.trans hfind) (by simp)

end TypedFetch.Proto
