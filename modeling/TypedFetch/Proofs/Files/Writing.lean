import TypedFetch.Proofs.Files.Kinds
import TypedFetch.Project.Generate

/-!
# Files written into a directory

Making directories adds directories where nothing was, and so leaves every file as it is.  Writing a
file under a plain name changes the one location behind the directory that has this name, and a path
that led to a directory before still leads there.  Files that are written one after the other under
different names therefore all stay.

The main statements are `sameContents_makeDirectories` and `filled_writeFiles`.
-/

namespace TypedFetch.Files

/-! ## Walks through directories -/

section Walks

variable {t t' : Tree}

/-- All directories of a tree are directories of another one. -/
def Tree.KeepsDirectories (t t' : Tree) : Prop :=
  ∀ loc, t.at? loc = some .directory → t'.at? loc = some .directory

/-- A walk that ends at a directory passes through directories only. -/
lemma Tree.KeepsDirectories.walk (h : t.KeepsDirectories t') {parts : List String} :
    ∀ {location loc : List String}, t.walk location parts = .ok (loc, .directory) →
      t'.walk location parts = .ok (loc, .directory) := by
  induction parts with
  | nil =>
    intro location loc hwalk
    obtain ⟨rfl, hat⟩ := walk_nil_iff.1 hwalk
    exact walk_nil_iff.2 ⟨rfl, h _ hat⟩
  | cons part rest ih =>
    intro location loc hwalk
    obtain ⟨hat, hlimit, hrest⟩ := walk_cons_iff.1 hwalk
    exact walk_cons_iff.2 ⟨h _ hat, hlimit, ih hrest⟩

lemma Tree.KeepsDirectories.find (h : t.KeepsDirectories t') (hhome : t'.home = t.home) {p : Path}
    {loc : List String} (hfind : t.find p = .ok (loc, .directory)) :
    t'.find p = .ok (loc, .directory) := by
  have hstart : t'.start p = t.start p := by rw [Tree.start, Tree.start, hhome]
  obtain ⟨hfault, hwalk⟩ := find_eq_ok_iff.1 hfind
  rw [find_eq_ok_iff, hstart]
  exact ⟨hfault, h.walk hwalk⟩

end Walks

/-! ## Making directories -/

/-- Two trees have the same files with the same contents; they may differ in directories. -/
def Tree.SameContents (t t' : Tree) : Prop :=
  ∀ loc content, t'.at? loc = some (.file content) ↔ t.at? loc = some (.file content)

namespace Tree.SameContents

variable {t t' t'' : Tree}

lemma refl (t : Tree) : t.SameContents t := fun _ _ => Iff.rfl

lemma trans (h : t.SameContents t') (h' : t'.SameContents t'') : t.SameContents t'' :=
  fun loc content => (h' loc content).trans (h loc content)

/-- A directory where nothing was is no file. -/
lemma put_directory {location : List String} (h : t.at? location = none) :
    t.SameContents (t.put location .directory) := by
  intro loc content
  by_cases hloc : loc = location
  · subst hloc
    have hne : loc ≠ [] := by
      rintro rfl
      exact absurd h (by simp [Tree.at?])
    rw [at?_put_self _ hne, h]
    simp
  · rw [at?_put_of_ne _ hloc]

lemma makeDirectory {p : Path} (h : t.makeDirectory p = .ok t') : t.SameContents t' := by
  obtain ⟨location, -, hnone, rfl⟩ := makeDirectory_eq_ok_iff.1 h
  exact put_directory hnone

end Tree.SameContents

/-- Making directories, also in vain, leaves all files as they are. -/
lemma sameContents_makeDirectories (t : Tree) (p : Path) :
    t.SameContents (t.makeDirectories p).1 :=
  makeDirectories_rel .refl .trans .makeDirectory t p

/-! ## Writing under a plain name -/

/-- A text that is read as a path of one part, which does not lead up. -/
structure Plain (name : String) : Prop where
  path : Path.ofText name = { parts := [name] }
  onward : name ≠ Path.up

section Plain

variable {t t' : Tree} {dir : Path} {name : String} {base : List String}

lemma Plain.child (h : Plain name) (dir : Path) : dir.child name = dir.behind [name] := by
  rw [child_eq_behind (by rw [h.path]; rfl), h.path]

lemma Plain.parent_child (h : Plain name) (dir : Path) : (dir.child name).parent = dir := by
  simp [h.child, Path.behind, Path.parent]

lemma Plain.name_child (h : Plain name) (dir : Path) : (dir.child name).name = name := by
  simp [h.child, Path.behind, Path.name]

/-- The file system can be asked for a path. -/
structure Path.Askable (p : Path) : Prop where
  fault : p.fault? = none
  name : ¬ nameLimit < p.name.utf8ByteSize

/-- A path under a plain name leads to what has the name in the directory. -/
lemma find_child (h : Plain name) (hdir : t.find dir = .ok (base, .directory))
    (hask : (dir.child name).Askable) {e : Entry} (hat : t.at? (base ++ [name]) = some e) :
    t.find (dir.child name) = .ok (base ++ [name], e) := by
  obtain ⟨-, hwalk⟩ := find_eq_ok_iff.1 hdir
  have hlimit := hask.name
  rw [h.name_child] at hlimit
  have hparts : (dir.child name).parts = dir.parts ++ [name] := by rw [h.child]; rfl
  have hstart : t.start (dir.child name) = t.start dir := by rw [h.child]; rfl
  rw [find_eq_ok_iff, hparts, hstart, walk_append hwalk, walk_cons_iff, onward_of_ne_up h.onward]
  exact ⟨hask.fault, at?_of_walk hwalk, hlimit, walk_nil_iff.2 ⟨rfl, hat⟩⟩

/-- A file that could be written under a plain name is at the location of that name, where no
directory was, and nothing else has changed. -/
lemma write_child (h : Plain name) {content : List UInt8}
    (hwrite : t.write (dir.child name) content = .ok t') :
    ∃ base, t.find dir = .ok (base, .directory) ∧ (dir.child name).Askable ∧
      t.at? (base ++ [name]) ≠ some .directory ∧ t' = t.put (base ++ [name]) (.file content) := by
  obtain ⟨location, hplace, hat, rfl⟩ := write_eq_ok_iff.1 hwrite
  obtain ⟨base, hdir, hfault, hlimit, rfl⟩ := place_eq_ok_iff.1 hplace
  have hlast : (dir.child name).parts.getLast?.toList = [name] := by
    simp [h.child, Path.behind]
  rw [h.parent_child] at hdir
  rw [h.name_child, if_neg (by simpa using h.onward), hlast] at hat ⊢
  exact ⟨base, hdir, ⟨hfault, hlimit⟩, hat, rfl⟩

/-- A file that takes the place of no directory keeps all directories. -/
lemma keepsDirectories_put {location : List String} (h : t.at? location ≠ some .directory)
    (e : Entry) : t.KeepsDirectories (t.put location e) := by
  intro loc hloc
  have hne : loc ≠ location := by
    rintro rfl
    exact h hloc
  rwa [at?_put_of_ne e hne]

end Plain

/-! ## Writing several files -/

/-- A tree is another one with files written into the directory to which a path leads. -/
structure Tree.Filled (t t' : Tree) (dir : Path) (base : List String)
    (files : List (String × String)) : Prop where
  home : t'.home = t.home
  directory : t'.find dir = .ok (base, .directory)
  written : ∀ f ∈ files,
    t'.find (dir.child f.1) = .ok (base ++ [f.1], .file (Text.bytesOf f.2))
  elsewhere : ∀ loc, (∀ f ∈ files, loc ≠ base ++ [f.1]) → t'.at? loc = t.at? loc

end TypedFetch.Files

namespace TypedFetch.Project

open TypedFetch.Files

/-- A file that could be written is where its path leads, and nothing else has changed. -/
lemma filled_writeFile {t : Tree} {dir : Path} {name content : String} (h : Plain name)
    (hok : (writeFile t content (dir.child name)).result = .ok ()) :
    ∃ base, t.find dir = .ok (base, .directory) ∧ (dir.child name).Askable ∧
      t.Filled (writeFile t content (dir.child name)).tree dir base [(name, content)] := by
  rcases hwrite : t.write (dir.child name) (Text.bytesOf content) with e | t'
  · simp only [writeFile, hwrite] at hok
    exact absurd hok (by simp)
  · have htree : (writeFile t content (dir.child name)).tree = t' := by
      simp only [writeFile, hwrite]
    obtain ⟨base, hdir, hask, hat, rfl⟩ := write_child h hwrite
    have hdir' := (keepsDirectories_put hat (.file (Text.bytesOf content))).find
      (home_put t _ _) hdir
    rw [htree]
    refine ⟨base, hdir, hask, home_put t _ _, hdir', ?_, ?_⟩
    · intro f hf
      obtain rfl := List.mem_singleton.1 hf
      exact find_child h hdir' hask (at?_put_self _ (by simp))
    · intro loc hloc
      exact at?_put_of_ne _ (hloc (name, content) (by simp))

/-- The first file is written, and then the others unless that failed. -/
lemma writeFiles_cons (dir : Path) (t : Tree) (name content : String)
    (rest : List (String × String)) :
    let first := writeFile t content (dir.child name)
    let all := writeFiles dir t ((name, content) :: rest)
    (∃ e, first.result = .error e ∧ all.result = .error e ∧ all.tree = first.tree) ∨
      (first.result = .ok () ∧ all.result = (writeFiles dir first.tree rest).result ∧
        all.tree = (writeFiles dir first.tree rest).tree) := by
  dsimp only [writeFiles]
  generalize writeFile t content (dir.child name) = first
  rcases first with ⟨events, tree, e | _⟩
  · exact .inl ⟨e, rfl, rfl, rfl⟩
  · exact .inr ⟨rfl, rfl, rfl⟩

/-- Files that could all be written under different names are where their paths lead, and nothing
else has changed. -/
lemma filled_writeFiles {dir : Path} {base : List String} {files : List (String × String)}
    (hplain : ∀ f ∈ files, Plain f.1) (hdistinct : (files.map Prod.fst).Nodup) :
    ∀ {t : Tree}, t.find dir = .ok (base, .directory) →
      (writeFiles dir t files).result = .ok () →
      t.Filled (writeFiles dir t files).tree dir base files := by
  induction files with
  | nil =>
    intro t hdir _
    exact ⟨rfl, hdir, by simp, fun _ _ => rfl⟩
  | cons f files ih =>
    intro t hdir hok
    obtain ⟨name, content⟩ := f
    obtain ⟨hnew, hdistinct⟩ := List.nodup_cons.1 hdistinct
    have hname : Plain name := hplain (name, content) (by simp)
    obtain ⟨e, -, herror, -⟩ | ⟨hfirst, hresult, htree⟩ := writeFiles_cons dir t name content files
    · exact absurd (hok.symm.trans herror) (by simp)
    · obtain ⟨base', hdir', hask, hfilled⟩ := filled_writeFile hname hfirst
      obtain rfl : base = base' := by simpa using (hdir.symm.trans hdir')
      rw [hresult] at hok
      rw [htree]
      have hrest := ih (fun f hf => hplain f (by simp [hf])) hdistinct hfilled.directory hok
      refine ⟨hrest.home.trans hfilled.home, hrest.directory, ?_, ?_⟩
      · intro f hf
        rcases List.mem_cons.1 hf with rfl | hf
        · -- the later files have other names, so the first one stays
          have hstays := hrest.elsewhere (base ++ [name]) fun g hg heq => by
            obtain rfl : name = g.1 := by simpa using heq
            exact hnew (List.mem_map.2 ⟨g, hg, rfl⟩)
          have hat := at?_of_find (hfilled.written (name, content) (by simp))
          exact find_child hname hrest.directory hask (hstays.trans hat)
        · exact hrest.written f hf
      · intro loc hloc
        rw [hrest.elsewhere loc fun f hf => hloc f (by simp [hf])]
        refine hfilled.elsewhere loc fun f hf => ?_
        obtain rfl := List.mem_singleton.1 hf
        exact hloc (name, content) (by simp)

end TypedFetch.Project
