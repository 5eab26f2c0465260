import TypedFetch.Proofs.Files.Operations

/-!
# Reading files

A path is not even given to the system exactly if one of its parts holds a character that no path
can hold (`read_of_isImproper`, `isImproper_of_read`).
-/

namespace TypedFetch.Files

/-- A part of the path holds the character that no path can hold. -/
def Path.IsImproper (p : Path) : Prop :=
  ∃ part ∈ p.parts, '\x00' ∈ part.toList

variable {tree : Tree} {p : Path}

/-! ## Paths -/

lemma isImproper_iff : p.IsImproper ↔ p.fault? = some .improperPath := by
  have hparts : p.IsImproper ↔ p.parts.any (·.toList.contains '\x00') = true := by
    simp [Path.IsImproper]
  rw [hparts, Path.fault?]
  split
  · next h => simpa using h
  · next h => split <;> simpa using h

lemma walk_ne_improperPath (tree : Tree) (parts : List String) : ∀ location : List String,
    tree.walk location parts ≠ .error .improperPath := by
  induction parts with
  | nil =>
    intro location h
    simp only [Tree.walk] at h
    split at h <;> exact absurd h (by simp)
  | cons part rest ih =>
    intro location h
    simp only [Tree.walk] at h
    split at h
    · split at h
      · exact absurd h (by simp)
      · exact ih _ h
    · exact absurd h (by simp)
    · exact absurd h (by simp)

lemma fault?_of_read {e : FileError} (h : tree.read p = .error e)
    (he : e.fault = .improperPath) : p.fault? = some .improperPath := by
  simp only [Tree.read] at h
  split at h
  · exact absurd h (by simp)
  · obtain rfl : ⟨.isDirectory, p⟩ = e := by simpa using h
    exact absurd he (by simp)
  · next fault hfind =>
    obtain rfl : ⟨fault, p⟩ = e := by simpa using h
    obtain rfl : fault = .improperPath := he
    simp only [Tree.find] at hfind
    split at hfind
    · next fault hpath =>
      obtain rfl : fault = .improperPath := by simpa using hfind
      exact hpath
    · exact absurd hfind (walk_ne_improperPath tree p.parts _)

lemma read_of_isImproper (h : p.IsImproper) : tree.read p = .error ⟨.improperPath, p⟩ := by
  simp only [Tree.read, Tree.find, isImproper_iff.1 h]

/-- Only a path that is none is not given to the system. -/
lemma isImproper_of_read {e : FileError} (h : tree.read p = .error e) (he : e.isOfSystem = false) :
    p.IsImproper := by
  refine isImproper_iff.2 (fault?_of_read h ?_)
  unfold FileError.isOfSystem at he
  revert he
  cases e.fault <;> simp [Fault.number?]

/-! ## Texts -/

lemma read_of_readText {e : FileError} (h : tree.readText p = .error (.file e)) :
    tree.read p = .error e := by
  simp only [Tree.readText] at h
  split at h
  · next e' hread =>
    obtain rfl : e' = e := by simpa using h
    exact hread
  · split at h <;> exact absurd h (by simp)

end TypedFetch.Files
