import Mathlib.Data.List.Forall2
import TypedFetch.Proto.Descriptor

/-!
# Declarations by their paths

A path of comments leads through a descriptor: the number of a list, a position in it, and so on
inwards.  `FileDescriptor.at?` follows a path to what is declared there; a message that holds the
entries of a map has its position, but nothing in it is declared for a schema.  Paths have an order,
in which a declaration comes before all that is nested in it.  `InOrder` says of a list that it is
made from all declarations of a kind in the order of their paths, and `InOrder.cons` builds such
lists up item by item.
-/

namespace TypedFetch.Proto

/-! ## Following a path -/

/-- What can stand at a path. -/
inductive Declaration where
  | message (d : MessageDescriptor)
  | field (d : FieldDescriptor)
  | enum (d : EnumDescriptor)
  | service (d : ServiceDescriptor)
  | method (d : MethodDescriptor)

/-- The message that is declared. -/
def Declaration.message? : Declaration → Option MessageDescriptor
  | message d => some d
  | _ => none

/-- The field that is declared. -/
def Declaration.field? : Declaration → Option FieldDescriptor
  | field d => some d
  | _ => none

/-- The enumeration that is declared. -/
def Declaration.enum? : Declaration → Option EnumDescriptor
  | enum d => some d
  | _ => none

/-- The service that is declared. -/
def Declaration.service? : Declaration → Option ServiceDescriptor
  | service d => some d
  | _ => none

/-- The method that is declared. -/
def Declaration.method? : Declaration → Option MethodDescriptor
  | method d => some d
  | _ => none

variable {α δ ε : Type}

/-- The item at a position of a list whose first one has the position `first`. -/
def itemAt? (first : Int) (items : List α) (i : Int) : Option α :=
  if i < first then none else items[(i - first).toNat]?

/-- What is at a path whose first part is a position in a list, where `inside` looks for the rest of
the path in an item. -/
def among (inside : α → List Int → Option δ) (first : Int) (items : List α) :
    List Int → Option δ
  | [] => none
  | i :: rest => (itemAt? first items i).bind fun item => inside item rest

/-- The item itself is at the empty path, and nothing is nested in it. -/
def leaf (declaration : α → δ) (item : α) : List Int → Option δ
  | [] => some (declaration item)
  | _ :: _ => none

/-- What is at a path in a message.  Its fields are in list 2, its messages in list 3 and its
enumerations in list 4. -/
def MessageDescriptor.at? (m : MessageDescriptor) : List Int → Option Declaration
  | [] => some (.message m)
  | [_] => none
  | list :: i :: rest =>
    if list = 2 then among (leaf .field) 0 m.fields (i :: rest)
    else if list = 3 then
      (itemAt? 0 m.nested i).bind fun n => if n.isMapEntry then none else n.at? rest
    else if list = 4 then among (leaf .enum) 0 m.enums (i :: rest)
    else none

/-- What is at a path in a service.  Its methods are in list 2. -/
def ServiceDescriptor.at? (s : ServiceDescriptor) : List Int → Option Declaration
  | [] => some (.service s)
  | list :: path => if list = 2 then among (leaf .method) 0 s.methods path else none

/-- What is at a path in a file.  Its messages are in list 4, its enumerations in list 5 and its
services in list 6. -/
def FileDescriptor.at? (f : FileDescriptor) : List Int → Option Declaration
  | [] => none
  | list :: path =>
    if list = 4 then among MessageDescriptor.at? 0 f.messages path
    else if list = 5 then among (leaf .enum) 0 f.enums path
    else if list = 6 then among ServiceDescriptor.at? 0 f.services path
    else none

/-- A message that holds the entries of a map declares nothing. -/
def MessageDescriptor.nestedAt? (m : MessageDescriptor) (path : List Int) : Option Declaration :=
  if m.isMapEntry then none else m.at? path

lemma MessageDescriptor.at?_cons (m : MessageDescriptor) (list : Int) (path : List Int) :
    m.at? (list :: path) =
      if list = 2 then among (leaf .field) 0 m.fields path
      else if list = 3 then among nestedAt? 0 m.nested path
      else if list = 4 then among (leaf .enum) 0 m.enums path
      else none := by
  cases path with
  | nil => simp [at?, among]
  | cons i rest => rfl

lemma itemAt?_cons (first : Int) (item : α) (items : List α) (i : Int) :
    itemAt? first (item :: items) i =
      if i = first then some item else itemAt? (first + 1) items i := by
  unfold itemAt?
  rcases Int.lt_trichotomy i first with h | rfl | h
  · rw [if_pos h, if_neg (by omega), if_pos (by omega)]
  · simp
  · have hnext : (i - first).toNat = (i - (first + 1)).toNat + 1 := by omega
    rw [if_neg (by omega), if_neg (by omega), if_neg (by omega), hnext,
      List.getElem?_cons_succ]

lemma among_bind (inside : α → List Int → Option δ) (g : δ → Option ε) (first : Int)
    (items : List α) (path : List Int) :
    (among inside first items path).bind g =
      among (fun item rest => (inside item rest).bind g) first items path := by
  cases path with
  | nil => rfl
  | cons i rest => exact Option.bind_assoc _ _ _

/-! ## Lists in the order of paths -/

/-- The members of a list are made from what a view shows, one for each path where it shows
anything, in the order of the paths. -/
def InOrder (view : List Int → Option δ) (made : List Int → δ → α → Prop) (xs : List α) : Prop :=
  ∃ paths : List (List Int), paths.Pairwise (· < ·) ∧ (∀ p, p ∈ paths ↔ (view p).isSome) ∧
    List.Forall₂ (fun p x => ∃ d, view p = some d ∧ made p d x) paths xs

namespace InOrder

variable {view view' : List Int → Option δ} {made : List Int → δ → α → Prop} {xs ys : List α}

lemma congr (h : InOrder view made xs) (hview : ∀ p, view' p = view p) :
    InOrder view' made xs := by
  rwa [funext hview]

lemma empty (hview : ∀ p, view p = none) : InOrder view made [] :=
  ⟨[], .nil, by simp [hview], .nil⟩

lemma single {d : δ} {x : α} (hview : ∀ p, view p = if p = [] then some d else none)
    (hmade : made [] d x) : InOrder view made [x] := by
  refine ⟨[[]], List.pairwise_singleton _ _, fun p => ?_, .cons ⟨d, ?_, hmade⟩ .nil⟩
  · by_cases hp : p = [] <;> simp [hview, hp]
  · simp [hview]

/-- Two views that show something at different paths, of which the first ones come first. -/
lemma append {first second : List Int → Option δ} (hview : ∀ p, view p = (first p).or (second p))
    (hlt : ∀ p q, (first p).isSome → (second q).isSome → p < q) (h : InOrder first made xs)
    (h' : InOrder second made ys) : InOrder view made (xs ++ ys) := by
  obtain ⟨paths, hsorted, hpaths, hmade⟩ := h
  obtain ⟨paths', hsorted', hpaths', hmade'⟩ := h'
  refine ⟨paths ++ paths', List.pairwise_append.2 ⟨hsorted, hsorted', fun p hp q hq =>
    hlt p q ((hpaths p).1 hp) ((hpaths' q).1 hq)⟩, fun p => ?_, List.rel_append ?_ ?_⟩
  · rw [List.mem_append, hpaths, hpaths', hview, Option.isSome_or, Bool.or_eq_true]
  · refine hmade.imp fun p x => ?_
    rintro ⟨d, hd, hx⟩
    exact ⟨d, by rw [hview, hd, Option.some_or], hx⟩
  · refine hmade'.imp fun q x => ?_
    rintro ⟨d, hd, hx⟩
    -- the first view shows nothing where the second one does
    have hnone : first q = none := by
      by_contra hsome
      exact List.lt_irrefl q (hlt q q (Option.isSome_iff_ne_none.2 hsome) (by simp [hd]))
    exact ⟨d, by rw [hview, hnone, Option.none_or, hd], hx⟩

/-- What a view shows behind one more part of the path. -/
def under (n : Int) (view : List Int → Option δ) : List Int → Option δ
  | [] => none
  | i :: rest => if i = n then view rest else none

lemma exists_of_isSome_under {n : Int} {p : List Int} (h : (under n view p).isSome) :
    ∃ rest, p = n :: rest := by
  match p with
  | [] => exact absurd h (by simp [under])
  | i :: rest =>
    rw [under] at h
    split at h
    · next hi => exact ⟨rest, by rw [hi]⟩
    · exact absurd h (by simp)

lemma under_of (n : Int) (h : InOrder view (fun rest => made (n :: rest)) xs) :
    InOrder (under n view) made xs := by
  obtain ⟨paths, hsorted, hpaths, hmade⟩ := h
  refine ⟨paths.map (n :: ·), List.pairwise_map.2 (hsorted.imp fun hlt => ?_), fun p => ?_, ?_⟩
  · exact List.cons_lt_cons_iff.2 (.inr ⟨rfl, hlt⟩)
  · match p with
    | [] => simp [under]
    | i :: rest =>
      by_cases hi : i = n
      · simp [under, hi, hpaths]
      · simp [under, hi, Ne.symm hi]
  · rw [List.forall₂_map_left_iff]
    refine hmade.imp fun rest x => ?_
    rintro ⟨d, hd, hx⟩
    exact ⟨d, by rw [under, if_pos rfl, hd], hx⟩

section Among

variable {inside : ε → List Int → Option δ} {first : Int} {item : ε} {items : List ε}

lemma among_nil : InOrder (among inside first []) made [] :=
  empty fun p => by cases p <;> simp [among, itemAt?]

lemma exists_of_isSome_among {p : List Int} (h : (among inside first items p).isSome) :
    ∃ i rest, p = i :: rest ∧ first ≤ i := by
  match p with
  | [] => exact absurd h (by simp [among])
  | i :: rest =>
    refine ⟨i, rest, rfl, ?_⟩
    by_contra hi
    exact absurd h (by simp [among, itemAt?, Int.not_le.1 hi])

/-- What is made from one item comes before what is made from those behind it. -/
lemma cons (h : InOrder (inside item) (fun rest => made (first :: rest)) xs)
    (h' : InOrder (among inside (first + 1) items) made ys) :
    InOrder (among inside first (item :: items)) made (xs ++ ys) := by
  refine append (fun p => ?_) (fun p q hp hq => ?_) (under_of first h) h'
  · match p with
    | [] => rfl
    | i :: rest =>
      rw [among, itemAt?_cons, under]
      by_cases hi : i = first
      · have hnone : itemAt? (first + 1) items i = none := if_pos (by omega)
        simp [hi, among, hi ▸ hnone]
      · simp [hi, among]
  · obtain ⟨rest, rfl⟩ := exists_of_isSome_under hp
    obtain ⟨i, rest', rfl, hi⟩ := exists_of_isSome_among hq
    exact List.cons_lt_cons_iff.2 (.inl (by omega))

end Among

/-- Items in which nothing is nested are in the order of their positions. -/
lemma leaves {declaration : ε → δ} {items : List ε} : ∀ {first : Nat} {xs : List α},
    List.Forall₂ (fun e x => made [(e.2 : Int)] (declaration e.1) x) (items.zipIdx first) xs →
      InOrder (among (leaf declaration) first items) made xs := by
  induction items with
  | nil =>
    intro first xs h
    obtain rfl := List.forall₂_nil_left_iff.1 h
    exact among_nil
  | cons item items ih =>
    intro first xs h
    rw [List.zipIdx_cons, List.forall₂_cons_left_iff] at h
    obtain ⟨x, ys, hx, hys, rfl⟩ := h
    refine cons (single (fun p => ?_) hx) (ih hys)
    cases p <;> rfl

end InOrder

end TypedFetch.Proto
