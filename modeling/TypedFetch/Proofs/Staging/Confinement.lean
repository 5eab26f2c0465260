import TypedFetch.Proofs.Files.Confinement
import TypedFetch.Proofs.Staging.Provenance

/-!
# Where staged files are laid out

Files are laid out for the compiler under their import names, below a directory that is made for
them.  The name of the root is a plain one, but every other name is taken from an import statement
as it stands there, and nothing keeps it from leading out of the directory.  If no import does, then
laying out changes nothing outside of the directory.  An import that starts at the root is laid out
over the very file that it means, whatever the directory is.  The main statement is
`stage_confined_iff`.
-/

namespace TypedFetch.Proto

open TypedFetch.Files

/-- All names of a stage lead to something below the directory in which it is laid out. -/
def Stage.Confined (s : Stage) : Prop := ∀ name ∈ s.names, StaysBelow name

/-! ## Laying out below a directory -/

/-- A name that is laid out behind the parts of a place never leads above the start of that
place. -/
structure StaysWithin (place : List String) (name : String) : Prop where
  relative : (Path.ofText name).isAbsolute = false
  proper : place ++ (Path.ofText name).parts ≠ []
  descends : (descent 0 (place ++ (Path.ofText name).parts)).isSome

lemma staysWithin_of_staysBelow {name : String} (h : StaysBelow name) : StaysWithin [] name := by
  obtain ⟨hrelative, d, hd⟩ := h
  refine ⟨hrelative, fun hnil => ?_, by simp [hd]⟩
  rw [List.nil_append] at hnil
  rw [hnil] at hd
  exact absurd hd (by simp)

/-- Laying out files at a place behind a directory, under names that stay within the directory,
changes nothing outside of the directory, also where it fails halfway. -/
lemma sameOutside_layOutFrom_behind {s : Stage} {base : Path} {place : List String}
    {files : List (String × StagedFile)} :
    ∀ {t : Tree}, t.HasRoomFor base → (∀ e ∈ files, StaysWithin place e.1) →
      Tree.SameOutside base.parts t (s.layOutFrom (base.behind place) t files).1 := by
  induction files with
  | nil => intro t _ _; exact .refl _ t
  | cons e files ih =>
    intro t hroom hwithin
    obtain ⟨name, f⟩ := e
    obtain ⟨hrelative, hproper, hdescends⟩ : StaysWithin place name := hwithin (name, f) (by simp)
    obtain ⟨d, hd⟩ := Option.isSome_iff_exists.1 hdescends
    have hrest : ∀ e ∈ files, StaysWithin place e.1 :=
      fun e he => hwithin e (List.mem_cons_of_mem _ he)
    -- what is to hold the file is behind the directory, too
    obtain ⟨holders, last, hparts⟩ :
        ∃ holders last, place ++ (Path.ofText name).parts = holders ++ [last] := by
      obtain ⟨holders, last, hconcat⟩ := (List.eq_nil_or_concat _).resolve_left hproper
      exact ⟨holders, last, by rw [hconcat, List.concat_eq_append]⟩
    have hpath : (base.behind place).child name =
        base.behind (place ++ (Path.ofText name).parts) := by
      rw [child_eq_behind hrelative]
      simp [Path.behind]
    have hparent : ((base.behind place).child name).parent = base.behind holders := by
      rw [hpath, hparts]
      simp [Path.parent, Path.behind, ← List.append_assoc]
    obtain ⟨d', hd', -⟩ := descent_of_append (hparts ▸ hd)
    have hmade := sameOutside_makeDirectories hroom hd'
    dsimp only [Stage.layOutFrom]
    rw [hparent]
    split
    · next t₁ e hmake => rw [hmake] at hmade; exact hmade
    · next t₁ hmake =>
      rw [hmake] at hmade
      have hroom₁ := hroom.of_sameOutside hmade
      split
      · exact hmade
      · next t₂ hwrite =>
        rw [hpath] at hwrite
        have hwritten := sameOutside_write hroom₁.toLeadsDown hd hwrite
        exact (hmade.trans hwritten).trans (ih (hroom₁.of_sameOutside hwritten) hrest)

/-- Laying out files whose names stay below changes nothing outside of the directory. -/
lemma sameOutside_layOutFrom {s : Stage} {dir : Path} {files : List (String × StagedFile)}
    {t : Tree} (hroom : t.HasRoomFor dir) (hbelow : ∀ e ∈ files, StaysBelow e.1) :
    Tree.SameOutside dir.parts t (s.layOutFrom dir t files).1 := by
  have hself : dir.behind [] = dir := by simp [Path.behind]
  have hsame := sameOutside_layOutFrom_behind (s := s) hroom fun e he =>
    staysWithin_of_staysBelow (hbelow e he)
  rwa [hself] at hsame

/-! ## The names of a stage -/

/-- An import that is a file is found at its name below some directory. -/
lemma exists_child_of_resolve {l : Library} {origin p : Path} {target : String}
    (h : l.resolve origin target = .ok (.file p)) : ∃ q : Path, p = q.child target := by
  have hmem := (firstFile_some (firstFile_of_resolve h)).1
  simp only [Library.candidates, List.mem_append, List.mem_map] at hmem
  rcases hmem with hbeside | ⟨place, -, rfl⟩
  · split at hbeside
    · exact absurd hbeside (by simp)
    · exact ⟨origin.parent, by simpa using hbeside⟩
  · exact ⟨place, rfl⟩

lemma read_of_source {l : Library} {p : Path} {text : List Char} (h : l.source p = .ok text) :
    ∃ content, l.tree.read p = .ok content := by
  obtain ⟨content, -, hread, -⟩ := readText_eq_ok_iff_decodeUtf8.1 (source_eq_ok_iff.1 h)
  exact ⟨content, hread⟩

section Names

variable {l : Library} {s : Stage} {text : String}

/-- The name of a root that could be staged stays below. -/
lemma staysBelow_root (hl : l.tree.Sound) (h : l.stage (Path.ofText text) = .ok s) :
    StaysBelow (Path.ofText text).name := by
  obtain ⟨f, hf, hsource⟩ := holds_root h
  have hread := (genuine_of_stage h (mem_of_lookup hf)).read
  rw [hsource] at hread
  obtain ⟨content, hcontent⟩ := read_of_source hread
  obtain ⟨before, part, hparts, hne⟩ := hl.last_of_read hcontent
  exact staysBelow_name hparts hne

lemma confined_iff (hl : l.tree.Sound) (h : l.stage (Path.ofText text) = .ok s) :
    s.Confined ↔ ∀ e ∈ s, ∀ t p, l.Means e.2 t p → StaysBelow t := by
  constructor
  · intro hconfined e he t p hmeans
    exact hconfined t (mem_names_of_means h he hmeans)
  · intro himports name hname
    obtain ⟨e, he, rfl⟩ := List.mem_map.1 hname
    rcases askedFor_of_mem h he with ⟨hroot, -⟩ | ⟨before, hbefore, g, hg, hmeans⟩
    · rw [hroot]
      exact staysBelow_root hl h
    · exact himports g (hbefore.subset (List.mem_append_left _ hg)) _ _ hmeans

/-- An import that does not stay below is laid out over the file that it means, or at the place of
the directory itself, or on a way through what holds the directory. -/
lemma escapes_of_not_staysBelow (hl : l.tree.Sound) {f : StagedFile} {t : String} {p : Path}
    (hmeans : l.Means f t p) (hstays : ¬ StaysBelow t) (tree : Tree) {dir : Path}
    (hdir : dir.LeadsDown) :
    dir.child t = p ∨ dir.child t = dir ∨
      ∃ parts, parts <+: (Path.ofText t).parts ∧
        tree.plainLocation (dir.behind parts) = dir.parts.dropLast := by
  obtain ⟨q, rfl⟩ := exists_child_of_resolve hmeans.2
  by_cases habsolute : (Path.ofText t).isAbsolute = true
  · exact Or.inl ((child_of_isAbsolute habsolute dir).trans (child_of_isAbsolute habsolute q).symm)
  · have hrelative : (Path.ofText t).isAbsolute = false := by simpa using habsolute
    right
    rcases hd : descent 0 (Path.ofText t).parts with _ | _ | d
    · -- the way up out of the directory begins in the directory
      obtain ⟨before, hbefore, hzero⟩ := descent_eq_none hd
      refine Or.inr ⟨before ++ [Path.up], hbefore, ?_⟩
      obtain ⟨rel, hrel, hlength⟩ := plainLocation_behind tree hdir hzero
      obtain rfl : rel = [] := List.eq_nil_of_length_eq_zero hlength
      rw [plainLocation_eq] at hrel ⊢
      change (dir.parts ++ (before ++ [Path.up])).foldl onward (tree.start dir) = _
      change (dir.parts ++ before).foldl onward (tree.start dir) = _ at hrel
      rw [← List.append_assoc, List.foldl_append, hrel, List.append_nil]
      rfl
    · -- the last part of a path to a file does not lead up, so there are no parts at all
      rcases List.eq_nil_or_concat (Path.ofText t).parts with hnil | ⟨ys, z, hconcat⟩
      · left
        rw [child_eq_behind hrelative, hnil]
        simp [Path.behind]
      · obtain ⟨content, hcontent⟩ := resolve_file hmeans.2
        obtain ⟨before, part, hparts, hne⟩ := hl.last_of_read hcontent
        rw [List.concat_eq_append] at hconcat
        rw [child_eq_behind hrelative, Path.behind, hconcat, ← List.append_assoc] at hparts
        obtain rfl : z = part := (List.append_inj' hparts rfl).2 |> List.singleton_inj.1
        rw [hconcat] at hd
        obtain ⟨d', -, hz⟩ := descent_of_append hd
        rw [descent_of_ne_up hne] at hz
        exact absurd hz (by simp)
    · exact absurd ⟨hrelative, d, hd⟩ hstays

end Names

/-- **Confinement.**  All names of a stage lead to something below the directory in which it is laid
out exactly if all imports of its files that are files do, since the name of the root always does.
In that case laying it out changes nothing outside of the directory.  Any other import leaves the
directory: it is laid out over the file that it means, or at the place of the directory itself, or
on a way through what holds the directory. -/
theorem stage_confined_iff {l : Library} {s : Stage} {text : String} (hl : l.tree.Sound)
    (h : l.stage (Path.ofText text) = .ok s) :
    (s.Confined ↔ ∀ e ∈ s, ∀ t p, l.Means e.2 t p → StaysBelow t) ∧
    (s.Confined → ∀ (tree : Tree) (dir : Path), tree.HasRoomFor dir →
      Tree.SameOutside dir.parts tree (s.layOutIn dir tree).1) ∧
    ∀ e ∈ s, ∀ t p, l.Means e.2 t p → ¬ StaysBelow t →
      ∀ (tree : Tree) (dir : Path), dir.LeadsDown →
        dir.child t = p ∨ dir.child t = dir ∨
          ∃ parts, parts <+: (Path.ofText t).parts ∧
            tree.plainLocation (dir.behind parts) = dir.parts.dropLast := by
  refine ⟨confined_iff hl h, fun hconfined tree dir hroom => ?_, ?_⟩
  · refine sameOutside_layOutFrom hroom fun e he => ?_
    exact hconfined e.1 (List.mem_map_of_mem he)
  · intro e _ t p hmeans hstays tree dir hdir
    exact escapes_of_not_staysBelow hl hmeans hstays tree hdir

/-- Files of which one imports another by its full path and a third from the directory above. -/
def outbound : Library where
  tree :=
    { home := ["work"]
      entries := [
        (["tmp"], .directory),
        (["work"], .directory),
        (["work", "api"], .directory),
        (["work", "api", "main.proto"],
          .file (Text.bytesOf "import '/work/types.proto';\nimport '../shared.proto';")),
        (["work", "types.proto"], .file (Text.bytesOf "import 'gone.proto';\npackage types;")),
        (["work", "shared.proto"], .file (Text.bytesOf "package shared;"))] }

/-- What is staged for the first of these files. -/
def outboundStage : Stage :=
  [("main.proto",
     { source := { parts := ["api", "main.proto"] }
       text := "import '/work/types.proto';\nimport '../shared.proto';".toList
       package := "", skipped := [] }),
   ("/work/types.proto",
     { source := .absolute ["work", "types.proto"]
       text := "import 'gone.proto';\npackage types;".toList
       package := "types", skipped := ["gone.proto"] }),
   ("../shared.proto",
     { source := { parts := ["api", "..", "shared.proto"] }
       text := "package shared;".toList, package := "shared", skipped := [] })]

/-- These files are staged, but their names are not confined.  Laid out in a directory of their own,
one of them replaces the file that it was read from, without the import that was found nowhere, and
another one is written beside the directory. -/
theorem stage_confined_iff_outbound :
    outbound.tree.Sound ∧ outbound.stage (Path.ofText "api/main.proto") = .ok outboundStage ∧
    ¬ outboundStage.Confined ∧
    (outboundStage.layOutIn (.absolute ["tmp", "protos"]) outbound.tree).1.at?
        ["work", "types.proto"] = some (.file (Text.bytesOf "\npackage types;")) ∧
    (outboundStage.layOutIn (.absolute ["tmp", "protos"]) outbound.tree).1.at?
        ["tmp", "shared.proto"] = some (.file (Text.bytesOf "package shared;")) := by
  have hl : outbound.tree.Sound := Tree.sound_of_entries (by decide) (by decide)
  have h : outbound.stage (Path.ofText "api/main.proto") = .ok outboundStage := by decide +kernel
  refine ⟨hl, h, fun hconfined => ?_, by decide +kernel, by decide +kernel⟩
  -- the first file means the second one by its full path
  have hstays := (stage_confined_iff hl h).1.1 hconfined _ List.mem_cons_self "/work/types.proto"
    (.absolute ["work", "types.proto"]) ⟨by decide +kernel, by decide +kernel⟩
  exact absurd hstays.1 (by decide +kernel)

end TypedFetch.Proto
