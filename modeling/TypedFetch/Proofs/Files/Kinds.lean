import TypedFetch.Proofs.Files.Confinement

/-!
# What does not depend on the contents of files

Two trees have the same kinds if they have files and directories at the same locations; the files
may hold anything.  Paths lead to the same places in both, questions have the same answers, and
directories and files that are made in both are made at the same places or fail for the same
reason.  Only reading a file tells the trees apart.
-/

namespace TypedFetch.Files

/-- Two trees have files and directories at the same locations. -/
structure Tree.SameKinds (t t' : Tree) : Prop where
  home : t'.home = t.home
  kinds : ∀ loc, (t'.at? loc).map Entry.isFile = (t.at? loc).map Entry.isFile

/-- A result with an entry, of which only the kind is kept. -/
def kindOf (found : List String × Entry) : List String × Bool :=
  (found.1, found.2.isFile)

namespace Tree.SameKinds

variable {t t' : Tree}

/-- At each location there is nothing in both trees, or a directory, or a file. -/
lemma cases (h : t.SameKinds t') (loc : List String) :
    (t.at? loc = none ∧ t'.at? loc = none) ∨
      (t.at? loc = some .directory ∧ t'.at? loc = some .directory) ∨
      ∃ content content',
        t.at? loc = some (.file content) ∧ t'.at? loc = some (.file content') := by
  have hkinds := h.kinds loc
  revert hkinds
  rcases t.at? loc with _ | _ | content <;> rcases t'.at? loc with _ | _ | content' <;>
    simp [Entry.isFile]

lemma walk (h : t.SameKinds t') (parts : List String) : ∀ location : List String,
    (t'.walk location parts).map kindOf = (t.walk location parts).map kindOf := by
  induction parts with
  | nil =>
    intro location
    simp only [Tree.walk]
    obtain ⟨hat, hat'⟩ | ⟨hat, hat'⟩ | ⟨content, content', hat, hat'⟩ := h.cases location
    all_goals simp only [hat, hat']
    rfl
  | cons part rest ih =>
    intro location
    simp only [Tree.walk]
    obtain ⟨hat, hat'⟩ | ⟨hat, hat'⟩ | ⟨content, content', hat, hat'⟩ := h.cases location
    · rw [hat, hat']
    · rw [hat, hat']
      dsimp only
      split
      · rfl
      · exact ih _
    · rw [hat, hat']

lemma find (h : t.SameKinds t') (p : Path) :
    (t'.find p).map kindOf = (t.find p).map kindOf := by
  have hstart : t'.start p = t.start p := by rw [Tree.start, Tree.start, h.home]
  simp only [Tree.find, hstart]
  split
  · rfl
  · exact h.walk p.parts _

/-- A path leads nowhere in both trees for the same reason, or to the same location, and to a
directory or a file there. -/
lemma find_cases (h : t.SameKinds t') (p : Path) :
    (∃ fault, t.find p = .error fault ∧ t'.find p = .error fault) ∨
      (∃ loc, t.find p = .ok (loc, .directory) ∧ t'.find p = .ok (loc, .directory)) ∨
      ∃ loc content content',
        t.find p = .ok (loc, .file content) ∧ t'.find p = .ok (loc, .file content') := by
  have hfind := h.find p
  revert hfind
  rcases t.find p with fault | ⟨loc, _ | content⟩ <;>
    rcases t'.find p with fault' | ⟨loc', _ | content'⟩ <;>
    simp [Except.map, kindOf, Entry.isFile]

lemma asksFile (h : t.SameKinds t') (p : Path) : t'.asksFile p = t.asksFile p := by
  obtain ⟨fault, hp, hp'⟩ | ⟨loc, hp, hp'⟩ | ⟨loc, content, content', hp, hp'⟩ := h.find_cases p
  all_goals simp only [Tree.asksFile, Tree.ask, hp, hp']
  rfl

lemma asksDirectory (h : t.SameKinds t') (p : Path) : t'.asksDirectory p = t.asksDirectory p := by
  obtain ⟨fault, hp, hp'⟩ | ⟨loc, hp, hp'⟩ | ⟨loc, content, content', hp, hp'⟩ := h.find_cases p
  all_goals simp only [Tree.asksDirectory, Tree.ask, hp, hp']
  rfl

lemma leadsToDirectory (h : t.SameKinds t') (p : Path) :
    t'.leadsToDirectory p = t.leadsToDirectory p := by
  obtain ⟨fault, hp, hp'⟩ | ⟨loc, hp, hp'⟩ | ⟨loc, content, content', hp, hp'⟩ := h.find_cases p
  all_goals simp only [Tree.leadsToDirectory, hp, hp']

lemma firstFile (h : t.SameKinds t') (ps : List Path) : t'.firstFile ps = t.firstFile ps := by
  induction ps with
  | nil => rfl
  | cons p rest ih => rw [Tree.firstFile, Tree.firstFile, h.asksFile, ih]

lemma place (h : t.SameKinds t') (p : Path) : t'.place p = t.place p := by
  obtain ⟨fault, hp, hp'⟩ | ⟨loc, hp, hp'⟩ | ⟨loc, content, content', hp, hp'⟩ :=
    h.find_cases p.parent
  all_goals simp only [Tree.place, hp, hp']

end Tree.SameKinds

/-! ## Making directories and files -/

namespace Tree.SameKinds

variable {t t' : Tree}

lemma put (h : t.SameKinds t') (location : List String) {e e' : Entry}
    (hkind : e'.isFile = e.isFile) : (t.put location e).SameKinds (t'.put location e') := by
  refine ⟨by rw [home_put, home_put, h.home], fun loc => ?_⟩
  by_cases hloc : loc = location
  · subst hloc
    by_cases hroot : loc = []
    · subst hroot
      rfl
    · rw [at?_put_self e hroot, at?_put_self e' hroot, Option.map_some, Option.map_some, hkind]
  · rw [at?_put_of_ne e hloc, at?_put_of_ne e' hloc, h.kinds loc]

lemma makeDirectory (h : t.SameKinds t') (p : Path) :
    (∃ e, t.makeDirectory p = .error e ∧ t'.makeDirectory p = .error e) ∨
      ∃ u u', t.makeDirectory p = .ok u ∧ t'.makeDirectory p = .ok u' ∧ u.SameKinds u' := by
  simp only [Tree.makeDirectory, h.place]
  rcases t.place p with e | location
  · exact .inl ⟨e, rfl, rfl⟩
  · obtain ⟨hat, hat'⟩ | ⟨hat, hat'⟩ | ⟨content, content', hat, hat'⟩ := h.cases location
    all_goals simp only [hat, hat']
    · exact .inr ⟨_, _, rfl, rfl, h.put location rfl⟩
    · exact .inl ⟨_, rfl, rfl⟩
    · exact .inl ⟨_, rfl, rfl⟩

lemma write (h : t.SameKinds t') (p : Path) (content : List UInt8) :
    (∃ e, t.write p content = .error e ∧ t'.write p content = .error e) ∨
      ∃ u u', t.write p content = .ok u ∧ t'.write p content = .ok u' ∧ u.SameKinds u' := by
  simp only [Tree.write, h.place]
  rcases t.place p with e | location
  · exact .inl ⟨e, rfl, rfl⟩
  · obtain ⟨hat, hat'⟩ | ⟨hat, hat'⟩ | ⟨old, old', hat, hat'⟩ := h.cases location
    all_goals simp only [hat, hat']
    · exact .inr ⟨_, _, rfl, rfl, h.put location rfl⟩
    · exact .inl ⟨_, rfl, rfl⟩
    · exact .inr ⟨_, _, rfl, rfl, h.put location rfl⟩

end Tree.SameKinds

namespace Tree.SameKinds

variable {t t' : Tree}

lemma lacksHolder (h : t.SameKinds t') (p : Path) : t'.lacksHolder p = t.lacksHolder p := by
  unfold Tree.lacksHolder
  obtain ⟨e, hp, hp'⟩ | ⟨u, u', hp, hp', -⟩ := h.makeDirectory p
  all_goals simp only [hp, hp']

lemma ensureDirectory (h : t.SameKinds t') (p : Path) :
    (t.ensureDirectory p).1.SameKinds (t'.ensureDirectory p).1 ∧
      (t'.ensureDirectory p).2 = (t.ensureDirectory p).2 := by
  unfold Tree.ensureDirectory
  obtain ⟨e, hp, hp'⟩ | ⟨u, u', hp, hp', hu⟩ := h.makeDirectory p
  · simp only [hp, hp', h.leadsToDirectory]
    split <;> exact ⟨h, rfl⟩
  · rw [hp, hp']
    exact ⟨hu, rfl⟩

lemma makeDirectoriesFrom (p : Path) (n : Nat) (h : t.SameKinds t') :
    (t.makeDirectoriesFrom p n).1.SameKinds (t'.makeDirectoriesFrom p n).1 ∧
      (t'.makeDirectoriesFrom p n).2 = (t.makeDirectoriesFrom p n).2 := by
  induction n with
  | zero => exact ⟨h, rfl⟩
  | succ n ih =>
    obtain ⟨hsame, houtcome⟩ := ih
    simp only [makeDirectoriesFrom_succ, h.lacksHolder]
    split
    · generalize t.makeDirectoriesFrom p n = made at hsame houtcome ⊢
      generalize t'.makeDirectoriesFrom p n = made' at hsame houtcome ⊢
      obtain ⟨u, outcome⟩ := made
      obtain ⟨u', outcome'⟩ := made'
      obtain rfl : outcome' = outcome := houtcome
      cases outcome' with
      | error e => exact ⟨hsame, rfl⟩
      | ok => exact hsame.ensureDirectory _
    · exact h.ensureDirectory _

lemma makeDirectories (h : t.SameKinds t') (p : Path) :
    (t.makeDirectories p).1.SameKinds (t'.makeDirectories p).1 ∧
      (t'.makeDirectories p).2 = (t.makeDirectories p).2 :=
  h.makeDirectoriesFrom p _

end Tree.SameKinds

/-! ## Reading -/

/-- A path that does not lead to a location at which two trees differ is read alike in both. -/
lemma Tree.SameKinds.read {t t' : Tree} (h : t.SameKinds t') {p : Path}
    (hsame : ∀ loc e, t.find p = .ok (loc, e) → t'.at? loc = t.at? loc) :
    t'.read p = t.read p := by
  obtain ⟨fault, hp, hp'⟩ | ⟨loc, hp, hp'⟩ | ⟨loc, content, content', hp, hp'⟩ := h.find_cases p
  · simp only [Tree.read, hp, hp']
  · simp only [Tree.read, hp, hp']
  · have hat := hsame loc _ hp
    rw [at?_of_find hp, at?_of_find hp'] at hat
    obtain rfl : content' = content := by simpa using hat
    simp only [Tree.read, hp, hp']

/-! ## Listings -/

/-- Two trees are listed alike: the entries stand for the same locations and kinds in the same
order. -/
structure Tree.SameListing (t t' : Tree) : Prop where
  home : t'.home = t.home
  listing : t'.entries.map kindOf = t.entries.map kindOf

namespace Tree.SameListing

variable {t t' : Tree}

lemma lookup_map_kindOf (entries : List (List String × Entry)) (loc : List String) :
    (entries.map kindOf).lookup loc = (entries.lookup loc).map Entry.isFile := by
  induction entries with
  | nil => rfl
  | cons entry entries ih =>
    obtain ⟨l, e⟩ := entry
    rw [List.map_cons, List.lookup_cons, List.lookup_cons]
    simp only [kindOf]
    cases loc == l with
    | true => rfl
    | false => exact ih

lemma sameKinds (h : t.SameListing t') : t.SameKinds t' := by
  refine ⟨h.home, fun loc => ?_⟩
  unfold Tree.at?
  split
  · rfl
  · rw [← lookup_map_kindOf, ← lookup_map_kindOf, h.listing]

/-- A selection that does not look at contents selects the same from entries of the same kinds. -/
lemma filterMap_of_kinds {α : Type} {f : List String × Entry → Option α}
    (hf : ∀ l content content', f (l, .file content') = f (l, .file content))
    {entries entries' : List (List String × Entry)}
    (h : entries'.map kindOf = entries.map kindOf) :
    entries'.filterMap f = entries.filterMap f := by
  have hentry : ∀ e e' : List String × Entry, kindOf e' = kindOf e → f e' = f e := by
    rintro ⟨l, _ | content⟩ ⟨l', _ | content'⟩ hkind
    all_goals
      obtain ⟨rfl, hfile⟩ := Prod.mk.inj hkind
      first | rfl | exact hf _ _ _ | exact absurd hfile (by simp [Entry.isFile])
  induction entries generalizing entries' with
  | nil => rw [List.map_eq_nil_iff.1 h]
  | cons e rest ih =>
    obtain ⟨e', rest', rfl, hhead, htail⟩ := List.map_eq_cons_iff.1 h
    rw [List.filterMap_cons, List.filterMap_cons, hentry e e' hhead, ih htail]

/-- The same files are found below a directory. -/
lemma filesBelow (h : t.SameListing t') (p : Path) (test : String → Bool) :
    t'.filesBelow p test = t.filesBelow p test := by
  unfold Tree.filesBelow
  obtain ⟨fault, hp, hp'⟩ | ⟨loc, hp, hp'⟩ | ⟨loc, content, content', hp, hp'⟩ :=
    h.sameKinds.find_cases p
  · rw [hp, hp']
  · rw [hp, hp']
    dsimp only
    rw [filterMap_of_kinds (fun l content content' => rfl) h.listing]
  · rw [hp, hp']

end Tree.SameListing

/-! ## Changes that are taken back -/

/-- Two trees have the same directories, and the same files with the same contents. -/
structure Tree.SameFiles (t t' : Tree) : Prop where
  home : t'.home = t.home
  entries : ∀ loc, t'.at? loc = t.at? loc

namespace Tree.SameFiles

variable {t t' t'' : Tree}

lemma refl (t : Tree) : t.SameFiles t := ⟨rfl, fun _ => rfl⟩

lemma trans (h : t.SameFiles t') (h' : t'.SameFiles t'') : t.SameFiles t'' :=
  ⟨h'.home.trans h.home, fun loc => (h'.entries loc).trans (h.entries loc)⟩

lemma sameKinds (h : t.SameFiles t') : t.SameKinds t' :=
  ⟨h.home, fun loc => by rw [h.entries loc]⟩

lemma read (h : t.SameFiles t') (p : Path) : t'.read p = t.read p :=
  h.sameKinds.read fun loc _ _ => h.entries loc

end Tree.SameFiles

lemma Tree.SameKinds.sound {t t' : Tree} (h : t.SameKinds t') (ht : t.Sound) : t'.Sound := by
  have hdirectory : ∀ loc, t.at? loc = some .directory → t'.at? loc = some .directory := by
    intro loc hloc
    obtain ⟨hat, -⟩ | ⟨-, hat'⟩ | ⟨content, content', hat, -⟩ := h.cases loc
    · exact absurd (hloc.symm.trans hat) (by simp)
    · exact hat'
    · exact absurd (hloc.symm.trans hat) (by simp)
  refine ⟨by rw [h.home]; exact hdirectory _ ht.home, fun location part hsome => ?_⟩
  refine hdirectory location (ht.parents location part ?_)
  rw [← Option.isSome_map (f := Entry.isFile)] at hsome ⊢
  rwa [h.kinds] at hsome

section Removal

variable {t : Tree} {base loc : List String}

lemma lookup_filter_not_isPrefixOf (entries : List (List String × Entry)) :
    (entries.filter fun e => !base.isPrefixOf e.1).lookup loc =
      if base <+: loc then none else entries.lookup loc := by
  induction entries with
  | nil => simp
  | cons entry entries ih =>
    obtain ⟨l, e⟩ := entry
    by_cases hbelow : base <+: l
    · -- the entry is removed, and it is not the one that is looked up unless that is below, too
      rw [List.filter_cons_of_neg (by simpa using hbelow), ih]
      split
      · rfl
      · next hloc =>
        have hne : (loc == l) = false := beq_false_of_ne (by rintro rfl; exact hloc hbelow)
        rw [List.lookup_cons, hne]
    · have hkept : base.isPrefixOf l = false := by
        rwa [← Bool.not_eq_true, List.isPrefixOf_iff_prefix]
      rw [List.filter_cons_of_pos (by simp [hkept]), List.lookup_cons, ih]
      by_cases hl : loc = l
      · subst hl
        simp [hbelow]
      · have hne : (loc == l) = false := beq_false_of_ne hl
        rw [List.lookup_cons, hne]

/-- Nothing is left of what was at a location and below it. -/
lemma at?_without_of_isPrefix (hbase : base ≠ []) (h : base <+: loc) :
    (t.without base).at? loc = none := by
  have hloc : loc ≠ [] := by
    rintro rfl
    exact hbase (List.prefix_nil.1 h)
  rw [Tree.at?, if_neg (by simpa using hloc)]
  exact (lookup_filter_not_isPrefixOf t.entries).trans (if_pos h)

lemma at?_without_of_not_isPrefix (h : ¬ base <+: loc) :
    (t.without base).at? loc = t.at? loc := by
  unfold Tree.at?
  split
  · rfl
  · exact (lookup_filter_not_isPrefixOf t.entries).trans (if_neg h)

/-- Below a location at which there is nothing, there is nothing. -/
lemma Tree.Sound.at?_eq_none (ht : t.Sound) (hbase : t.at? base = none) (h : base <+: loc) :
    t.at? loc = none := by
  obtain ⟨rest, rfl⟩ := h
  induction rest using List.reverseRecOn with
  | nil => rwa [List.append_nil]
  | append_singleton rest part ih =>
    rw [← List.append_assoc]
    by_contra hsome
    have hholder := ht.parents (base ++ rest) part (Option.isSome_iff_ne_none.2 hsome)
    rw [ih] at hholder
    exact absurd hholder (by simp)

end Removal

end TypedFetch.Files
