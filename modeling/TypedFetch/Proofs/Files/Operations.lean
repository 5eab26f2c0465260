import Mathlib.Data.List.Basic
import TypedFetch.Files.Tree

/-!
# What is done to a tree

Whatever is asked of a tree or changed in it follows the parts of a path.  For each operation that
may fail there is one lemma that says when it succeeds and what it gives: for one step of a walk
(`walk_cons_iff`), for a path (`find_eq_ok_iff`), for the location of something new
(`place_eq_ok_iff`), for a directory that is made (`makeDirectory_eq_ok_iff`) and for a file that is
written (`write_eq_ok_iff`).  Making all directories of a path is making some of them, one after the
other; so what holds for one directory and can be chained holds for all (`makeDirectories_rel`).
-/

namespace TypedFetch.Files

/-! ## Walks -/

/-- The location one part further. -/
def onward (location : List String) (part : String) : List String :=
  if part == Path.up then location.dropLast else location ++ [part]

lemma onward_up (location : List String) : onward location Path.up = location.dropLast := rfl

lemma onward_of_ne_up {part : String} (h : part ≠ Path.up) (location : List String) :
    onward location part = location ++ [part] :=
  if_neg (by simpa using h)

lemma plainLocation_eq (t : Tree) (p : Path) :
    t.plainLocation p = p.parts.foldl onward (t.start p) := rfl

section Walks

variable {t : Tree}

lemma walk_nil (t : Tree) (location : List String) :
    t.walk location [] =
      match t.at? location with
      | some e => .ok (location, e)
      | none => .error .missing :=
  rfl

/-- One step of a walk. -/
lemma walk_step (t : Tree) (location : List String) (part : String) (rest : List String) :
    t.walk location (part :: rest) =
      match t.at? location with
      | some .directory =>
        if nameLimit < part.utf8ByteSize then .error .nameTooLong
        else t.walk (onward location part) rest
      | some (.file _) => .error .notDirectory
      | none => .error .missing :=
  rfl

/-- A walk that has ended is where it is. -/
lemma walk_nil_iff {location loc : List String} {e : Entry} :
    t.walk location [] = .ok (loc, e) ↔ location = loc ∧ t.at? location = some e := by
  rw [walk_nil]
  cases t.at? location with
  | none => simp
  | some e' => simp

/-- A walk goes on from a directory. -/
lemma walk_cons_of_directory {location rest : List String} {part : String}
    (hat : t.at? location = some .directory) (hlimit : ¬ nameLimit < part.utf8ByteSize) :
    t.walk location (part :: rest) = t.walk (onward location part) rest := by
  rw [walk_step, hat]
  exact if_neg hlimit

/-- A walk goes on from a directory only, and only by a name that is not too long. -/
lemma walk_cons_iff {location rest : List String} {part : String} {found : List String × Entry} :
    t.walk location (part :: rest) = .ok found ↔
      t.at? location = some .directory ∧ ¬ nameLimit < part.utf8ByteSize ∧
        t.walk (onward location part) rest = .ok found := by
  constructor
  · intro h
    rw [walk_step] at h
    rcases hat : t.at? location with _ | _ | content
    · exact absurd h (by simp [hat])
    · by_cases hlimit : nameLimit < part.utf8ByteSize
      · exact absurd h (by simp [hat, hlimit])
      · exact ⟨rfl, hlimit, by simpa [hat, hlimit] using h⟩
    · exact absurd h (by simp [hat])
  · rintro ⟨hat, hlimit, hrest⟩
    rwa [walk_cons_of_directory hat hlimit]

/-- Where a walk ends is decided by its parts. -/
lemma walk_location {parts : List String} : ∀ {location loc : List String} {e : Entry},
    t.walk location parts = .ok (loc, e) → parts.foldl onward location = loc := by
  induction parts with
  | nil => exact fun h => (walk_nil_iff.1 h).1
  | cons part rest ih => exact fun h => ih (walk_cons_iff.1 h).2.2

/-- What a walk finds is at the location that it gives. -/
lemma at?_of_walk {parts : List String} : ∀ {location loc : List String} {e : Entry},
    t.walk location parts = .ok (loc, e) → t.at? loc = some e := by
  induction parts with
  | nil =>
    intro location loc e h
    obtain ⟨rfl, hat⟩ := walk_nil_iff.1 h
    exact hat
  | cons part rest ih => exact fun h => ih (walk_cons_iff.1 h).2.2

/-- A walk goes on from where a part of it ends. -/
lemma walk_append {xs ys : List String} : ∀ {location loc : List String} {e : Entry},
    t.walk location xs = .ok (loc, e) → t.walk location (xs ++ ys) = t.walk loc ys := by
  induction xs with
  | nil =>
    intro location loc e h
    rw [List.nil_append, (walk_nil_iff.1 h).1]
  | cons x xs ih =>
    intro location loc e h
    obtain ⟨hat, hlimit, hrest⟩ := walk_cons_iff.1 h
    rw [List.cons_append, walk_cons_of_directory hat hlimit, ih hrest]

lemma find_eq_ok_iff {p : Path} {found : List String × Entry} :
    t.find p = .ok found ↔ p.fault? = none ∧ t.walk (t.start p) p.parts = .ok found := by
  rw [Tree.find]
  cases p.fault? with
  | none => simp
  | some fault => simp

lemma at?_of_find {p : Path} {loc : List String} {e : Entry} (h : t.find p = .ok (loc, e)) :
    t.at? loc = some e :=
  at?_of_walk (find_eq_ok_iff.1 h).2

lemma read_eq_ok_iff {p : Path} {content : List UInt8} :
    t.read p = .ok content ↔ ∃ loc, t.find p = .ok (loc, .file content) := by
  rw [Tree.read]
  rcases t.find p with fault | ⟨loc, _ | content'⟩ <;> simp

lemma readText_eq_ok_iff_decodeUtf8 {p : Path} {text : List Char} :
    t.readText p = .ok text ↔ ∃ content cs, t.read p = .ok content ∧
      Text.decodeUtf8 content = .ok cs ∧ Text.unifyNewlines cs = text := by
  rw [Tree.readText]
  cases t.read p with
  | error e => simp
  | ok content => cases hcs : Text.decodeUtf8 content <;> simp [hcs]

end Walks

/-! ## Something new at a location -/

section Changes

variable {t t' : Tree} {p : Path} {location loc : List String}

lemma home_put (t : Tree) (location : List String) (e : Entry) :
    (t.put location e).home = t.home := by
  unfold Tree.put
  split <;> rfl

/-- Replacing what is at a location changes what is found there, and nothing else. -/
lemma lookup_map_replace (entries : List (List String × Entry)) (location loc : List String)
    (e : Entry) :
    (entries.map fun (l, old) => if l == location then (l, e) else (l, old)).lookup loc =
      if loc = location then (entries.lookup loc).map fun _ => e else entries.lookup loc := by
  induction entries with
  | nil => simp
  | cons entry entries ih =>
    obtain ⟨l, old⟩ := entry
    have hkey : (if (l == location) = true then (l, e) else (l, old)) =
        (l, if l = location then e else old) := by
      simp only [beq_iff_eq]
      split <;> rfl
    simp only [List.map_cons, hkey, List.lookup_cons, ih]
    by_cases hloc : loc = l
    · subst hloc
      rw [beq_self_eq_true]
      by_cases hlocation : loc = location <;> simp [hlocation]
    · rw [beq_false_of_ne hloc]

lemma at?_put_of_ne (e : Entry) (h : loc ≠ location) :
    (t.put location e).at? loc = t.at? loc := by
  have hlookup : (t.put location e).entries.lookup loc = t.entries.lookup loc := by
    unfold Tree.put
    split
    · exact (lookup_map_replace t.entries location loc e).trans (if_neg h)
    · simp [List.lookup_append, List.lookup_cons, beq_false_of_ne h]
  rw [Tree.at?, Tree.at?, hlookup]

lemma at?_put_self (e : Entry) (h : location ≠ []) :
    (t.put location e).at? location = some e := by
  have hlookup : (t.put location e).entries.lookup location = some e := by
    unfold Tree.put
    split
    · next hsome =>
      obtain ⟨old, hold⟩ := Option.isSome_iff_exists.1 hsome
      rw [lookup_map_replace, if_pos rfl, hold]
      rfl
    · next hnone =>
      rw [Option.not_isSome_iff_eq_none] at hnone
      simp [List.lookup_append, hnone]
  rw [Tree.at?, if_neg (by simpa using h), hlookup]

/-- Something new is in the directory to which the rest of its path leads. -/
lemma place_eq_ok_iff :
    t.place p = .ok location ↔ ∃ holder, t.find p.parent = .ok (holder, .directory) ∧
      p.fault? = none ∧ ¬ nameLimit < p.name.utf8ByteSize ∧
      location =
        if p.name == Path.up then holder.dropLast else holder ++ p.parts.getLast?.toList := by
  rw [Tree.place]
  rcases t.find p.parent with fault | ⟨holder, _ | content⟩
  · simp
  · cases p.fault? with
    | some fault => simp
    | none =>
      by_cases hlimit : nameLimit < p.name.utf8ByteSize
      · simp [hlimit]
      · by_cases hup : (p.name == Path.up) = true
        · simp [hlimit, hup, eq_comm]
        · simp [hlimit, hup, eq_comm]
  · simp

/-- A directory is made where nothing is. -/
lemma makeDirectory_eq_ok_iff :
    t.makeDirectory p = .ok t' ↔ ∃ location, t.place p = .ok location ∧
      t.at? location = none ∧ t' = t.put location .directory := by
  rw [Tree.makeDirectory]
  rcases t.place p with e | location
  · simp
  · cases hat : t.at? location with
    | none => simp [hat, eq_comm]
    | some e => simp [hat]

/-- A file is written where no directory is. -/
lemma write_eq_ok_iff {content : List UInt8} :
    t.write p content = .ok t' ↔ ∃ location, t.place p = .ok location ∧
      t.at? location ≠ some .directory ∧ t' = t.put location (.file content) := by
  rw [Tree.write]
  rcases t.place p with e | location
  · simp
  · rcases hat : t.at? location with _ | _ | old
    · simp [hat, eq_comm]
    · simp [hat]
    · simp [hat, eq_comm]

lemma home_write {content : List UInt8} (h : t.write p content = .ok t') : t'.home = t.home := by
  obtain ⟨location, -, -, rfl⟩ := write_eq_ok_iff.1 h
  exact home_put t location _

end Changes

/-! ## Making the directories of a path -/

/-- Makes a directory unless it is there. -/
def Tree.ensureDirectory (t : Tree) (p : Path) : Tree × Except FileError Unit :=
  match t.makeDirectory p with
  | .ok t => (t, .ok ())
  | .error e => if t.leadsToDirectory p then (t, .ok ()) else (t, .error e)

/-- A directory cannot be made because what is to hold it is missing. -/
def Tree.lacksHolder (t : Tree) (p : Path) : Bool :=
  match t.makeDirectory p with
  | .error e => e.fault == .missing
  | .ok _ => false

lemma lacksHolder_iff {t : Tree} {p : Path} :
    t.lacksHolder p = true ↔ ∃ q, t.place p = .error ⟨.missing, q⟩ := by
  rw [Tree.lacksHolder, Tree.makeDirectory]
  rcases t.place p with ⟨fault, q⟩ | location
  · simp
  · cases hat : t.at? location with
    | none => simp [hat]
    | some e => simp [hat]

/-- To make the directories of a path, those that are to hold the last one are made if they are
missing, and then the last one. -/
lemma makeDirectoriesFrom_succ (t : Tree) (p : Path) (n : Nat) :
    t.makeDirectoriesFrom p (n + 1) =
      let last : Path := { p with parts := p.parts.take (n + 1) }
      if t.lacksHolder last then
        match t.makeDirectoriesFrom p n with
        | (t, .ok ()) => t.ensureDirectory last
        | (t, .error e) => (t, .error e)
      else t.ensureDirectory last := by
  unfold Tree.lacksHolder Tree.ensureDirectory
  simp only [Tree.makeDirectoriesFrom]
  rcases t.makeDirectory { p with parts := p.parts.take (n + 1) } with ⟨fault, q⟩ | u
  · cases fault <;> rfl
  · rfl

section Directories

variable {R : Tree → Tree → Prop} {t : Tree} {p : Path}

/-- What holds when one directory is made holds when it is made unless it is there. -/
lemma ensureDirectory_rel (hrefl : R t t) (hmake : ∀ u, t.makeDirectory p = .ok u → R t u) :
    R t (t.ensureDirectory p).1 := by
  unfold Tree.ensureDirectory
  split
  · next u hmade => exact hmake u hmade
  · split <;> exact hrefl

/-- The last directory of a path is made at once, or only those before it, or it after them. -/
lemma makeDirectoriesFrom_succ_rel {n : Nat}
    (hlast : ∀ u, R u (u.ensureDirectory { p with parts := p.parts.take (n + 1) }).1)
    (htrans : ∀ {u v}, R t u → R u v → R t v)
    (hbefore : t.lacksHolder { p with parts := p.parts.take (n + 1) } = true →
      R t (t.makeDirectoriesFrom p n).1) :
    R t (t.makeDirectoriesFrom p (n + 1)).1 := by
  rw [makeDirectoriesFrom_succ]
  dsimp only
  split
  · next hlacks =>
    have hbefore := hbefore hlacks
    split
    · next u hmade =>
      rw [hmade] at hbefore
      exact htrans hbefore (hlast u)
    · next u e hmade =>
      rw [hmade] at hbefore
      exact hbefore
  · exact hlast t

/-- What holds when a directory is made, and can be chained, holds when the directories of a path
are made, also in vain. -/
lemma makeDirectories_rel (hrefl : ∀ t, R t t) (htrans : ∀ {t u v}, R t u → R u v → R t v)
    (hmake : ∀ {t u p}, t.makeDirectory p = .ok u → R t u) (t : Tree) (p : Path) :
    R t (t.makeDirectories p).1 := by
  have hfrom : ∀ n, R t (t.makeDirectoriesFrom p n).1 := by
    intro n
    induction n with
    | zero => exact hrefl t
    | succ n ih =>
      exact makeDirectoriesFrom_succ_rel (fun u => ensureDirectory_rel (hrefl u) fun _ => hmake)
        htrans fun _ => ih
  exact hfrom _

lemma home_makeDirectories (t : Tree) (p : Path) : (t.makeDirectories p).1.home = t.home := by
  refine makeDirectories_rel (R := fun t u => u.home = t.home) (fun _ => rfl)
    (fun h h' => h'.trans h) (fun hmade => ?_) t p
  obtain ⟨location, -, -, rfl⟩ := makeDirectory_eq_ok_iff.1 hmade
  exact home_put _ location _

end Directories

end TypedFetch.Files
