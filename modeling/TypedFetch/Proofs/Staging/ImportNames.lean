import Mathlib.Data.List.Basic
import TypedFetch.Proofs.Files.Confinement
import TypedFetch.Proto.Staging

/-!
# The import names of a tree

Paths of imported files can grow without bound, because a target may lead up and down again.  The
names under which files are staged cannot: each of them is written out in the content of some file
of the tree.  Every import statement takes up at least one byte of its file, so the sizes of the
files bound the number of names (`length_importNames_lt`).
-/

namespace TypedFetch

/-! ## A text is no longer than its bytes -/

namespace Text

lemma length_decodeFrom {bytes : List UInt8} : ∀ {position skip : Nat} {cs : List Char},
    decodeFrom position skip bytes = .ok cs → cs.length ≤ bytes.length := by
  induction bytes with
  | nil =>
    intro position skip cs h
    obtain rfl : [] = cs := by cases skip <;> simpa [decodeFrom] using h
    exact Nat.le_refl _
  | cons b rest ih =>
    intro position skip cs h
    cases skip with
    | succ skip => exact Nat.le_trans (ih h) (by simp)
    | zero =>
      -- a character takes one byte or more, of which the later ones are skipped
      simp only [decodeFrom] at h
      split at h
      · next c width _ =>
        rcases hrest : decodeFrom (position + 1) (width - 1) rest with e | cs'
        · rw [hrest] at h
          exact absurd h (by simp [Except.map])
        · rw [hrest] at h
          obtain rfl : c :: cs' = cs := by simpa [Except.map] using h
          simpa using ih hrest
      · exact absurd h (by simp)

lemma length_unifyNewlines (cs : List Char) : (unifyNewlines cs).length ≤ cs.length := by
  fun_induction unifyNewlines cs with
  | case1 => exact Nat.le_refl _
  | case2 rest ih => simp only [List.length_cons]; omega
  | case3 rest _ ih => simpa using ih
  | case4 c rest _ _ ih => simpa using ih

end Text

namespace Proto

open TypedFetch.Files

/-! ## A text has no more imports than characters -/

lemma Source.length_findAtLines (find? : List Char → Option (List Char × List Char))
    (cs : List Char) : ∀ (start : Bool) (skip : Nat),
      (Source.findAtLines find? start skip cs).length ≤ cs.length := by
  induction cs with
  | nil => intro start skip; simp [Source.findAtLines]
  | cons c rest ih =>
    intro start skip
    cases skip with
    | succ skip => exact Nat.le_trans (by simpa [Source.findAtLines] using ih _ skip) (by simp)
    | zero =>
      cases start with
      | false => exact Nat.le_trans (by simpa [Source.findAtLines] using ih _ 0) (by simp)
      | true =>
        simp only [Source.findAtLines]
        split
        · simpa using ih _ _
        · exact Nat.le_trans (ih _ 0) (by simp)

lemma Source.length_imports (text : List Char) : (Source.imports text).length ≤ text.length := by
  simpa [Source.imports, Source.importChars] using Source.length_findAtLines _ text true 0

/-! ## The names in a tree -/

/-- The import names in the content of a file. -/
def entryImports : Entry → List String
  | .directory => []
  | .file content =>
    match Text.decodeUtf8 content with
    | .ok cs => Source.imports (Text.unifyNewlines cs)
    | .error _ => []

lemma length_entryImports (e : Entry) : (entryImports e).length ≤ e.size := by
  rcases e with _ | content
  · simp [entryImports]
  · simp only [entryImports, Entry.size]
    split
    · next cs hcs =>
      calc (Source.imports (Text.unifyNewlines cs)).length
          ≤ (Text.unifyNewlines cs).length := Source.length_imports _
        _ ≤ cs.length := Text.length_unifyNewlines cs
        _ ≤ content.length := Text.length_decodeFrom hcs
    · simp

/-- The import names in all files of a tree. -/
def importNames (tree : Tree) : List String :=
  tree.entries.flatMap fun e => entryImports e.2

lemma foldl_add_size (entries : List (List String × Entry)) : ∀ n : Nat,
    (entries.flatMap fun e => entryImports e.2).length + n ≤
      entries.foldl (fun n e => n + e.2.size) n := by
  induction entries with
  | nil => simp
  | cons e rest ih =>
    intro n
    have hsize := length_entryImports e.2
    -- the sum is an accumulator of the fold
    have hrest := ih (n + e.2.size)
    simp only [List.flatMap_cons, List.length_append, List.foldl_cons]
    omega

/-- There are fewer import names than the bound for chains of imports allows. -/
lemma length_importNames_lt (tree : Tree) : (importNames tree).length < chainBound tree :=
  foldl_add_size tree.entries 1

/-- The content of a file that can be read is the content of an entry. -/
lemma mem_entries_of_read {tree : Tree} {p : Path} {content : List UInt8}
    (h : tree.read p = .ok content) : ∃ loc, (loc, Entry.file content) ∈ tree.entries := by
  obtain ⟨loc, hfind⟩ := read_eq_ok_iff.1 h
  have hat := at?_of_find hfind
  rw [Tree.at?] at hat
  split at hat
  · exact absurd hat (by simp)
  · obtain ⟨before, after, hentries, -⟩ := List.lookup_eq_some_iff.1 hat
    exact ⟨loc, by simp [hentries]⟩

lemma source_eq_ok_iff {l : Library} {p : Path} {text : List Char} :
    l.source p = .ok text ↔ l.tree.readText p = .ok text := by
  rw [Library.source]
  rcases l.tree.readText p with (e | e) | text'
  · simp only [reduceCtorEq, iff_false]
    split <;> simp
  · simp
  · simp

/-- The imports of a file that can be read are import names of the tree. -/
lemma mem_importNames {l : Library} {p : Path} {text : List Char} (h : l.source p = .ok text)
    {target : String} (ht : target ∈ Source.imports text) : target ∈ importNames l.tree := by
  obtain ⟨content, cs, hcontent, hcs, rfl⟩ :=
    readText_eq_ok_iff_decodeUtf8.1 (source_eq_ok_iff.1 h)
  obtain ⟨loc, hmem⟩ := mem_entries_of_read hcontent
  refine List.mem_flatMap.2 ⟨(loc, .file content), hmem, ?_⟩
  simpa only [entryImports, hcs] using ht

end Proto

end TypedFetch
