import Mathlib.Data.List.Infix
import TypedFetch.Proofs.Files.Operations
import TypedFetch.Proofs.Text.Cut

/-!
# What is done below a directory stays there

A path may lead up again, so that a file written at a path below a directory need not be in that
directory.  `descent` follows the parts of a path and says how far below its start they lead, as
long as they never lead above it.  If the parts behind a directory have a descent, then every
location that a walk along them passes is below the directory, and so is every location at which
something is created: all other locations keep what they have (`sameOutside_makeDirectories`,
`sameOutside_write`).
-/

namespace TypedFetch.Files

/-! ## Descent -/

/-- How far below their start parts lead from a given depth; nothing where they lead above it. -/
def descent : Nat → List String → Option Nat
  | depth, [] => some depth
  | 0, part :: rest => if part = Path.up then none else descent 1 rest
  | depth + 1, part :: rest =>
    if part = Path.up then descent depth rest else descent (depth + 2) rest

@[simp] lemma descent_nil (depth : Nat) : descent depth [] = some depth := by cases depth <;> rfl

@[simp] lemma descent_zero_cons (part : String) (rest : List String) :
    descent 0 (part :: rest) = if part = Path.up then none else descent 1 rest :=
  rfl

@[simp] lemma descent_succ_cons (depth : Nat) (part : String) (rest : List String) :
    descent (depth + 1) (part :: rest) =
      if part = Path.up then descent depth rest else descent (depth + 2) rest :=
  rfl

lemma descent_append (xs ys : List String) : ∀ depth : Nat,
    descent depth (xs ++ ys) = (descent depth xs).bind fun d => descent d ys := by
  induction xs with
  | nil => intro depth; simp
  | cons x xs ih =>
    intro depth
    cases depth with
    | zero =>
      rw [List.cons_append, descent_zero_cons, descent_zero_cons]
      split
      · rfl
      · exact ih 1
    | succ depth =>
      rw [List.cons_append, descent_succ_cons, descent_succ_cons]
      split
      · exact ih depth
      · exact ih (depth + 2)

/-- Parts with a descent have one at each of their beginnings. -/
lemma descent_of_append {depth d : Nat} {xs ys : List String}
    (h : descent depth (xs ++ ys) = some d) :
    ∃ d', descent depth xs = some d' ∧ descent d' ys = some d := by
  rw [descent_append] at h
  exact Option.bind_eq_some_iff.1 h

lemma descent_of_ne_up {depth : Nat} {part : String} (h : part ≠ Path.up) :
    descent depth [part] = some (depth + 1) := by
  cases depth <;> simp [h]

lemma descent_up {depth d : Nat} (h : descent depth [Path.up] = some d) : depth = d + 1 := by
  cases depth with
  | zero => exact absurd h (by simp)
  | succ depth =>
    obtain rfl : depth = d := by simpa using h
    rfl

/-- Parts without a descent lead from their start to the directory above it. -/
lemma descent_eq_none {xs : List String} : ∀ {depth : Nat}, descent depth xs = none →
    ∃ before, before ++ [Path.up] <+: xs ∧ descent depth before = some 0 := by
  induction xs with
  | nil => intro depth h; exact absurd h (by simp)
  | cons x xs ih =>
    intro depth h
    -- one step, and then what the induction gives
    have hstep : ∀ d, descent depth [x] = some d → descent d xs = none →
        ∃ before, before ++ [Path.up] <+: x :: xs ∧ descent depth before = some 0 := by
      intro d hx hrest
      obtain ⟨before, hbefore, hzero⟩ := ih hrest
      refine ⟨x :: before, by simpa using hbefore, ?_⟩
      rw [← List.singleton_append, descent_append, hx]
      exact hzero
    by_cases hx : x = Path.up
    · cases depth with
      | zero =>
        refine ⟨[], ?_, rfl⟩
        simp [hx]
      | succ depth =>
        refine hstep depth (by simp [hx]) ?_
        simpa [hx] using h
    · refine hstep (depth + 1) (descent_of_ne_up hx) ?_
      cases depth <;> simpa [hx] using h

/-! ## Locations -/

/-- Parts that do not lead up lead straight down. -/
lemma foldl_onward_plain {parts : List String} (h : Path.up ∉ parts) :
    ∀ location : List String, parts.foldl onward location = location ++ parts := by
  induction parts with
  | nil => intro location; simp
  | cons part rest ih =>
    intro location
    obtain ⟨hpart, hrest⟩ : Path.up ≠ part ∧ Path.up ∉ rest := by simpa using h
    rw [List.foldl_cons, onward_of_ne_up (Ne.symm hpart), ih hrest, List.append_assoc]
    rfl

/-- Parts that never lead above their start lead as far below it as their descent says. -/
lemma foldl_onward_descent {base parts : List String} :
    ∀ {rel : List String} {d : Nat}, descent rel.length parts = some d →
      ∃ rel', parts.foldl onward (base ++ rel) = base ++ rel' ∧ rel'.length = d := by
  induction parts with
  | nil =>
    intro rel d hd
    exact ⟨rel, rfl, by simpa using hd⟩
  | cons part rest ih =>
    intro rel d hd
    rw [← List.singleton_append] at hd
    obtain ⟨d', hpart, hd'⟩ := descent_of_append hd
    by_cases hup : part = Path.up
    · subst hup
      have hlength := descent_up hpart
      have hne : rel ≠ [] := by rintro rfl; simp at hlength
      have hrel : rel.dropLast.length = d' := by rw [List.length_dropLast]; omega
      rw [List.foldl_cons, onward_up, List.dropLast_append_of_ne_nil hne]
      exact ih (hrel.symm ▸ hd')
    · rw [descent_of_ne_up hup] at hpart
      obtain rfl : rel.length + 1 = d' := by simpa using hpart
      rw [List.foldl_cons, onward_of_ne_up hup, List.append_assoc]
      exact ih (by simpa using hd')

/-- A walk straight down depends only on what is on its way. -/
lemma walk_congr {t t' : Tree} {parts : List String} (hplain : Path.up ∉ parts) :
    ∀ {location : List String},
      (∀ loc, location <+: loc → loc <+: location ++ parts → t'.at? loc = t.at? loc) →
      t'.walk location parts = t.walk location parts := by
  induction parts with
  | nil =>
    intro location h
    rw [walk_nil, walk_nil, h location (List.prefix_refl _) (by simp)]
  | cons part rest ih =>
    intro location h
    obtain ⟨hpart, hrest⟩ : Path.up ≠ part ∧ Path.up ∉ rest := by simpa using hplain
    have hnext : t'.walk (location ++ [part]) rest = t.walk (location ++ [part]) rest := by
      refine ih hrest fun loc hloc hloc' => h loc ((List.prefix_append _ _).trans hloc) ?_
      simpa using hloc'
    rw [walk_step, walk_step, h location (List.prefix_refl _) (List.prefix_append _ _),
      onward_of_ne_up (Ne.symm hpart), hnext]

/-! ## What a directory is asked to hold -/

/-- A path that leads straight down from the root, and not to the root itself. -/
structure Path.LeadsDown (dir : Path) : Prop where
  absolute : dir.isAbsolute = true
  plain : Path.up ∉ dir.parts
  proper : dir.parts ≠ []

/-- A directory is in the tree, or can be made there because what is to hold it exists. -/
structure Tree.HasRoomFor (t : Tree) (dir : Path) : Prop extends dir.LeadsDown where
  holder : t.leadsToDirectory dir.parent = true

/-- Two trees have the same outside of a location. -/
def Tree.SameOutside (base : List String) (t t' : Tree) : Prop :=
  ∀ loc, ¬ base <+: loc → t'.at? loc = t.at? loc

namespace Tree.SameOutside

variable {base : List String} {t t' t'' : Tree}

lemma refl (base : List String) (t : Tree) : SameOutside base t t := fun _ _ => rfl

lemma trans (h : SameOutside base t t') (h' : SameOutside base t' t'') : SameOutside base t t'' :=
  fun loc hloc => (h' loc hloc).trans (h loc hloc)

end Tree.SameOutside

lemma sameOutside_put {base location : List String} {t : Tree} (e : Entry)
    (h : base <+: location) : Tree.SameOutside base t (t.put location e) := by
  intro loc hloc
  refine at?_put_of_ne e ?_
  rintro rfl
  exact hloc h

/-! ## What is done at a path -/

/-- What is created at a path is created at the location that its parts lead to. -/
lemma place_eq {t : Tree} {p : Path} {location : List String} (hne : p.parts ≠ [])
    (h : t.place p = .ok location) : location = t.plainLocation p := by
  obtain ⟨root, parts⟩ := p
  obtain ⟨holders, last, rfl⟩ := (List.eq_nil_or_concat parts).resolve_left hne
  rw [List.concat_eq_append] at h ⊢
  obtain ⟨holder, hfind, -, -, rfl⟩ := place_eq_ok_iff.1 h
  have hparent : (⟨root, holders ++ [last]⟩ : Path).parent = ⟨root, holders⟩ := by
    simp [Path.parent]
  have hname : (⟨root, holders ++ [last]⟩ : Path).name = last := by simp [Path.name]
  rw [hparent] at hfind
  have hholder : holders.foldl onward (t.start ⟨root, holders⟩) = holder :=
    walk_location (find_eq_ok_iff.1 hfind).2
  have hgoal : t.plainLocation ⟨root, holders ++ [last]⟩ = onward holder last := by
    rw [plainLocation_eq, List.foldl_append, ← hholder]
    rfl
  rw [hgoal, hname, List.getLast?_concat]
  rfl

section Places

variable {t : Tree} {dir : Path}

/-- The path behind a directory along parts. -/
def Path.behind (dir : Path) (parts : List String) : Path :=
  { dir with parts := dir.parts ++ parts }

/-- The location behind a directory is as far below it as the descent says. -/
lemma plainLocation_behind (t : Tree) (hdir : dir.LeadsDown) {parts : List String} {d : Nat}
    (hd : descent 0 parts = some d) :
    ∃ rel, t.plainLocation (dir.behind parts) = dir.parts ++ rel ∧ rel.length = d := by
  have hstart : t.start (dir.behind parts) = [] := if_pos hdir.absolute
  have hlocation : t.plainLocation (dir.behind parts) = parts.foldl onward (dir.parts ++ []) := by
    rw [plainLocation_eq, hstart]
    change (dir.parts ++ parts).foldl onward [] = _
    rw [List.foldl_append, foldl_onward_plain hdir.plain, List.nil_append, List.append_nil]
  rw [hlocation]
  exact foldl_onward_descent hd

/-- What is created behind a directory is created below it. -/
lemma place_descent (hdir : dir.LeadsDown) {parts location : List String} {d : Nat}
    (hd : descent 0 parts = some d) (h : t.place (dir.behind parts) = .ok location) :
    dir.parts <+: location := by
  have hne : (dir.behind parts).parts ≠ [] := by
    simp [Path.behind, hdir.proper]
  obtain ⟨rel, hrel, -⟩ := plainLocation_behind t hdir hd
  rw [place_eq hne h, hrel]
  exact List.prefix_append _ _

/-- Making a directory behind a directory changes nothing outside of it. -/
lemma sameOutside_makeDirectory (hdir : dir.LeadsDown) {parts : List String} {d : Nat}
    (hd : descent 0 parts = some d) {t' : Tree} (h : t.makeDirectory (dir.behind parts) = .ok t') :
    Tree.SameOutside dir.parts t t' := by
  obtain ⟨location, hplace, -, rfl⟩ := makeDirectory_eq_ok_iff.1 h
  exact sameOutside_put _ (place_descent hdir hd hplace)

/-- Writing a file behind a directory changes nothing outside of it. -/
lemma sameOutside_write (hdir : dir.LeadsDown) {parts : List String} {d : Nat}
    (hd : descent 0 parts = some d) {content : List UInt8} {t' : Tree}
    (h : t.write (dir.behind parts) content = .ok t') :
    Tree.SameOutside dir.parts t t' := by
  obtain ⟨location, hplace, -, rfl⟩ := write_eq_ok_iff.1 h
  exact sameOutside_put _ (place_descent hdir hd hplace)

lemma fault?_ne_missing (p : Path) : p.fault? ≠ some .missing := by
  unfold Path.fault?
  split
  · simp
  · split <;> simp

/-- Where what is to hold a path is a directory, nothing is missing. -/
lemma place_ne_missing {p : Path} (h : t.leadsToDirectory p.parent = true) (q : Path) :
    t.place p ≠ .error ⟨.missing, q⟩ := by
  intro hplace
  simp only [Tree.leadsToDirectory] at h
  split at h
  · next loc hfind =>
    simp only [Tree.place, hfind] at hplace
    split at hplace
    · next fault hfault =>
      obtain ⟨rfl, -⟩ : fault = .missing ∧ p = q := by simpa using hplace
      exact fault?_ne_missing p hfault
    · split at hplace
      · exact absurd hplace (by simp)
      · split at hplace <;> exact absurd hplace (by simp)
  · exact absurd h (by simp)

/-- Making the directories of a path behind a directory changes nothing outside of it. -/
lemma sameOutside_makeDirectoriesFrom (h : t.HasRoomFor dir) {parts : List String} {d : Nat}
    (hd : descent 0 parts = some d) : ∀ n, dir.parts.length ≤ n →
      Tree.SameOutside dir.parts t (t.makeDirectoriesFrom (dir.behind parts) n).1 := by
  intro n
  induction n with
  | zero =>
    intro hn
    exact absurd (List.eq_nil_of_length_eq_zero (Nat.le_zero.1 hn)) h.proper
  | succ n ih =>
    intro hn
    have hstep : ({ dir.behind parts with parts := (dir.behind parts).parts.take (n + 1) } : Path) =
        dir.behind (parts.take (n + 1 - dir.parts.length)) := by
      simp only [Path.behind, List.take_append, List.take_of_length_le hn]
    obtain ⟨d', hd', -⟩ := descent_of_append
      (List.take_append_drop (n + 1 - dir.parts.length) parts ▸ hd)
    refine makeDirectoriesFrom_succ_rel (fun u => ?_) .trans fun hlacks => ih ?_
    · rw [hstep]
      exact ensureDirectory_rel (.refl _ u) fun v hmade =>
        sameOutside_makeDirectory h.toLeadsDown hd' hmade
    · -- only a directory below the given one can lack what is to hold it
      by_contra hlt
      have htake : n + 1 - dir.parts.length = 0 := by omega
      have hself : dir.behind (parts.take 0) = dir := by simp [Path.behind]
      rw [hstep, htake, hself] at hlacks
      obtain ⟨q, hplace⟩ := lacksHolder_iff.1 hlacks
      exact place_ne_missing h.holder q hplace

lemma sameOutside_makeDirectories (h : t.HasRoomFor dir) {parts : List String} {d : Nat}
    (hd : descent 0 parts = some d) :
    Tree.SameOutside dir.parts t (t.makeDirectories (dir.behind parts)).1 :=
  sameOutside_makeDirectoriesFrom h hd _ (by simp [Path.behind])

/-- What holds a directory is outside of it, so it stays when something is done in the directory. -/
lemma Tree.HasRoomFor.of_sameOutside {t' : Tree} (h : t.HasRoomFor dir)
    (hsame : Tree.SameOutside dir.parts t t') : t'.HasRoomFor dir := by
  have hplain : Path.up ∉ dir.parts.dropLast := fun hup =>
    h.plain (List.dropLast_subset _ hup)
  have hwalk : t'.walk [] dir.parts.dropLast = t.walk [] dir.parts.dropLast := by
    refine walk_congr hplain fun loc _ hloc => hsame loc fun hbelow => ?_
    have hle := hbelow.length_le.trans hloc.length_le
    have hpos := List.length_pos_iff.2 h.proper
    simp only [List.nil_append, List.length_dropLast] at hle
    omega
  have hfind : t'.find dir.parent = t.find dir.parent := by
    have hstart : ∀ t : Tree, t.start dir.parent = [] := fun _ => if_pos h.absolute
    simp only [Tree.find, hstart]
    split
    · rfl
    · exact hwalk
  refine { h with holder := ?_ }
  rw [Tree.leadsToDirectory, hfind]
  exact h.holder

end Places

/-! ## Names of files below a directory -/

/-- A name that leads to something strictly below the directory in which it is looked up. -/
def StaysBelow (name : String) : Prop :=
  (Path.ofText name).isAbsolute = false ∧ ∃ d, descent 0 (Path.ofText name).parts = some (d + 1)

lemma child_eq_behind {name : String} (h : (Path.ofText name).isAbsolute = false) (dir : Path) :
    dir.child name = dir.behind (Path.ofText name).parts := by
  rw [Path.child, Path.join, if_neg (by simp [h])]
  rfl

lemma child_of_isAbsolute {name : String} (h : (Path.ofText name).isAbsolute = true) (dir : Path) :
    dir.child name = Path.ofText name := by
  rw [Path.child, Path.join, if_pos h]

/-! ## Names of files -/

/-- A tree as file systems have them: what is below something is in a directory. -/
structure Tree.Sound (t : Tree) : Prop where
  home : t.at? t.home = some .directory
  parents : ∀ location part, (t.at? (location ++ [part])).isSome → t.at? location = some .directory

/-- It is enough to look at the locations that have an entry. -/
lemma Tree.sound_of_entries {t : Tree} (home : t.at? t.home = some .directory)
    (h : ∀ e ∈ t.entries, t.at? e.1.dropLast = some .directory) : t.Sound := by
  refine ⟨home, fun location part hsome => ?_⟩
  have hlookup : (t.entries.lookup (location ++ [part])).isSome := by
    simpa [Tree.at?] using hsome
  obtain ⟨e, he, hkey⟩ := List.lookup_isSome_iff.1 hlookup
  have hlocation : location ++ [part] = e.1 := eq_of_beq hkey
  simpa [← hlocation] using h e he

lemma Tree.Sound.start {t : Tree} (h : t.Sound) (p : Path) :
    t.at? (t.start p) = some .directory := by
  unfold Tree.start
  split
  · rfl
  · exact h.home

/-- Above a directory there are directories. -/
lemma Tree.Sound.above {t : Tree} (h : t.Sound) {location : List String}
    (hat : t.at? location = some .directory) : t.at? location.dropLast = some .directory := by
  rcases List.eq_nil_or_concat location with rfl | ⟨above, part, rfl⟩
  · exact hat
  · rw [List.concat_eq_append] at hat ⊢
    rw [List.dropLast_concat]
    exact h.parents above part (by simp [hat])

/-- A walk from a directory to a file ends with a part that does not lead up. -/
lemma Tree.Sound.last_of_walk {t : Tree} (h : t.Sound) {parts : List String} :
    ∀ {location loc : List String} {content : List UInt8}, t.at? location = some .directory →
      t.walk location parts = .ok (loc, .file content) →
      ∃ before part, parts = before ++ [part] ∧ part ≠ Path.up := by
  induction parts with
  | nil =>
    intro location loc content hat hwalk
    exact absurd hwalk (by simp [walk_nil, hat])
  | cons part rest ih =>
    intro location loc content hat hwalk
    obtain ⟨-, -, hrest⟩ := walk_cons_iff.1 hwalk
    cases rest with
    | nil =>
      refine ⟨[], part, rfl, fun hup => ?_⟩
      -- a part that leads up from a directory leads to a directory
      rw [hup, onward_up] at hrest
      exact absurd hrest (by simp [walk_nil, h.above hat])
    | cons next rest =>
      obtain ⟨before, last, hlast, hne⟩ := ih (walk_cons_iff.1 hrest).1 hrest
      exact ⟨part :: before, last, by simp [hlast], hne⟩

lemma Tree.Sound.last_of_read {t : Tree} (h : t.Sound) {p : Path} {content : List UInt8}
    (hread : t.read p = .ok content) :
    ∃ before part, p.parts = before ++ [part] ∧ part ≠ Path.up := by
  obtain ⟨loc, hfind⟩ := read_eq_ok_iff.1 hread
  exact h.last_of_walk (h.start p) (find_eq_ok_iff.1 hfind).2

/-- A part of a path, read as a path, is that part alone. -/
lemma ofText_part {text part : String} (h : part ∈ (Path.ofText text).parts) :
    Path.ofText part = { parts := [part] } := by
  obtain ⟨hmem, hproper⟩ := List.mem_filter.1 h
  obtain ⟨cs, hcs, rfl⟩ := List.mem_map.1 hmem
  have hslash := Text.not_mem_of_mem_cutAt cs hcs
  have hroot : Root.ofText (String.ofList cs) = .home := by
    have hnone : cs.takeWhile (· == '/') = [] := by
      cases cs with
      | nil => rfl
      | cons c cs =>
        obtain ⟨hc, -⟩ : '/' ≠ c ∧ '/' ∉ cs := by simpa using hslash
        simp [Ne.symm hc]
    simp [Root.ofText, hnone]
  simp [Path.ofText, hroot, Text.cutAt_of_not_mem hslash, hproper]

/-- The last part of a path is a name that stays below, unless it leads up. -/
lemma staysBelow_name {text : String} {before : List String} {part : String}
    (hparts : (Path.ofText text).parts = before ++ [part]) (hne : part ≠ Path.up) :
    StaysBelow (Path.ofText text).name := by
  have hname : (Path.ofText text).name = part := by simp [Path.name, hparts]
  have hmem : part ∈ (Path.ofText text).parts := by simp [hparts]
  have hpath : Path.ofText part = { parts := [part] } := ofText_part hmem
  rw [StaysBelow, hname, hpath]
  exact ⟨rfl, 0, descent_of_ne_up hne⟩

end TypedFetch.Files
