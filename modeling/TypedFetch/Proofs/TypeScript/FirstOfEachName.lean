import Mathlib.Data.List.Induction
import Mathlib.Data.List.Nodup
import TypedFetch.TypeScript.Types

/-!
# The first element of each name

Lists of declarations are thinned out so that every name occurs once: the first element of each name
stays.  The result has distinct names, all names of the list occur in it, in the order in which they
occur first, and looking a name up in it gives the same as in the list.
-/

namespace TypedFetch.TypeScript

variable {α β : Type} (name : α → String)

lemma firstOfEachName_concat (items : List α) (x : α) :
    firstOfEachName name (items ++ [x]) =
      if (firstOfEachName name items).any (fun y => name y == name x) then
        firstOfEachName name items
      else firstOfEachName name items ++ [x] := by
  simp [firstOfEachName]

/-- Looking a name up among the first elements finds the first element of that name. -/
lemma find?_firstOfEachName (items : List α) (n : String) :
    (firstOfEachName name items).find? (name · == n) = items.find? (name · == n) := by
  induction items using List.reverseRecOn with
  | nil => rfl
  | append_singleton items x ih =>
    rw [firstOfEachName_concat]
    split
    · next h =>
      -- the name of `x` is taken: if `n` is that name it was found before
      rw [ih, List.find?_append]
      by_cases hx : name x = n
      · obtain ⟨y, hy, hname⟩ := List.any_eq_true.1 h
        have hsome : ((firstOfEachName name items).find? (name · == n)).isSome := by
          rw [List.find?_isSome]
          exact ⟨y, hy, by simpa [hx] using hname⟩
        rw [ih] at hsome
        obtain ⟨z, hz⟩ := Option.isSome_iff_exists.1 hsome
        simp [hz]
      · simp [hx]
    · rw [List.find?_append, List.find?_append, ih]

lemma mem_of_mem_firstOfEachName {items : List α} {x : α} :
    x ∈ firstOfEachName name items → x ∈ items := by
  induction items using List.reverseRecOn with
  | nil => simp [firstOfEachName]
  | append_singleton items y ih =>
    intro hx
    rw [firstOfEachName_concat] at hx
    split at hx
    · exact List.mem_append_left _ (ih hx)
    · rcases List.mem_append.1 hx with hx | hx
      · exact List.mem_append_left _ (ih hx)
      · exact List.mem_append_right _ hx

lemma any_firstOfEachName (items : List α) (n : String) :
    (firstOfEachName name items).any (fun y => name y == n) = true ↔ n ∈ items.map name := by
  calc (firstOfEachName name items).any (fun y => name y == n) = true
      ↔ ((firstOfEachName name items).find? (name · == n)).isSome := by
        rw [List.any_eq_true, List.find?_isSome]
    _ ↔ (items.find? (name · == n)).isSome := by rw [find?_firstOfEachName]
    _ ↔ n ∈ items.map name := by rw [List.find?_isSome]; simp

/-- The names of the first elements are the names of all elements, each where it occurs first. -/
lemma map_name_firstOfEachName (items : List α) :
    (firstOfEachName name items).map name = (items.map name).eraseDups := by
  induction items using List.reverseRecOn with
  | nil => rfl
  | append_singleton items x ih =>
    have h := any_firstOfEachName name items (name x)
    rw [firstOfEachName_concat, List.map_append, List.eraseDups_append, ← ih]
    split
    · next hx =>
      have hnew : [name x].removeAll (items.map name) = [] := by
        simpa [List.removeAll, List.filter_eq_nil_iff] using h.1 hx
      simp [hnew]
    · next hx =>
      have hnew : [name x].removeAll (items.map name) = [name x] := by
        simpa [List.removeAll, List.filter_eq_self] using fun hm => hx (h.2 hm)
      simp [hnew, List.eraseDups_cons]

lemma mem_map_name_firstOfEachName {items : List α} {n : String} :
    n ∈ (firstOfEachName name items).map name ↔ n ∈ items.map name := by
  rw [map_name_firstOfEachName, List.mem_eraseDups]

lemma nodup_map_name_firstOfEachName (items : List α) :
    ((firstOfEachName name items).map name).Nodup := by
  induction items using List.reverseRecOn with
  | nil => simp [firstOfEachName]
  | append_singleton items x ih =>
    rw [firstOfEachName_concat]
    split
    · exact ih
    · next hx =>
      rw [List.map_append, List.nodup_append]
      refine ⟨ih, by simp, ?_⟩
      intro a ha b hb hab
      obtain ⟨y, hy, rfl⟩ := List.mem_map.1 ha
      obtain rfl : b = name x := by simpa using hb
      exact hx (List.any_eq_true.2 ⟨y, hy, by simpa using hab⟩)

/-- Elements of distinct names all stay. -/
lemma firstOfEachName_eq_self {items : List α} (h : (items.map name).Nodup) :
    firstOfEachName name items = items := by
  induction items using List.reverseRecOn with
  | nil => rfl
  | append_singleton items x ih =>
    rw [List.map_append, List.map_singleton, List.nodup_append'] at h
    have hnew : ¬ (firstOfEachName name items).any (fun y => name y == name x) = true := by
      rw [any_firstOfEachName]
      exact fun hx => h.2.2 hx (by simp)
    rw [firstOfEachName_concat, if_neg hnew, ih h.1]

/-- Elements that are put between others stay distinct just if they are new. -/
lemma nodup_between_iff {before xs after : List α} (hxs : xs.Nodup)
    (hothers : (before ++ after).Nodup) :
    (before ++ (xs ++ after)).Nodup ↔ ∀ x ∈ xs, x ∉ before ++ after := by
  have hperm : (before ++ (xs ++ after)).Perm (xs ++ (before ++ after)) :=
    List.perm_append_comm_assoc _ _ _
  rw [hperm.nodup_iff, List.nodup_append', List.disjoint_left]
  exact ⟨fun h => h.2.2, fun h => ⟨hxs, hothers, h⟩⟩

/-- Among elements of distinct names at most one has a given name: the one that is found by it. -/
lemma filter_eq_toList_find? {items : List α} (h : (items.map name).Nodup) (n : String) :
    items.filter (name · == n) = (items.find? (name · == n)).toList := by
  induction items with
  | nil => rfl
  | cons x items ih =>
    obtain ⟨hx, hitems⟩ : name x ∉ items.map name ∧ (items.map name).Nodup := by simpa using h
    by_cases hn : name x = n
    · have hnone : items.filter (name · == n) = [] := by
        rw [List.filter_eq_nil_iff]
        intro y hy hname
        exact hx (List.mem_map.2 ⟨y, hy, by simpa [hn] using hname⟩)
      simp [hn, hnone]
    · have hne : ¬(name x == n) = true := by simpa using hn
      rw [List.filter_cons_of_neg (p := (name · == n)) hne,
        List.find?_cons_of_neg (p := (name · == n)) hne, ih hitems]

lemma nodup_eraseDups (names : List String) : names.eraseDups.Nodup := by
  have h := nodup_map_name_firstOfEachName id names
  rwa [map_name_firstOfEachName, List.map_id] at h

/-- The first elements have distinct names, so one of them is found by its name. -/
lemma find?_of_mem_firstOfEachName {items : List α} {x : α}
    (hx : x ∈ firstOfEachName name items) : items.find? (name · == name x) = some x := by
  rw [← find?_firstOfEachName]
  have hsome : ((firstOfEachName name items).find? (name · == name x)).isSome := by
    rw [List.find?_isSome]
    exact ⟨x, hx, by simp⟩
  obtain ⟨y, hy⟩ := Option.isSome_iff_exists.1 hsome
  have hname : name y = name x := by simpa using List.find?_some hy
  rw [hy, List.inj_on_of_nodup_map (nodup_map_name_firstOfEachName name items)
    (List.mem_of_find?_eq_some hy) hx hname]

lemma firstOfEachName_map (f : β → α) (items : List β) :
    firstOfEachName name (items.map f) = (firstOfEachName (fun x => name (f x)) items).map f := by
  induction items using List.reverseRecOn with
  | nil => rfl
  | append_singleton items x ih =>
    rw [List.map_append, List.map_singleton, firstOfEachName_concat, firstOfEachName_concat, ih,
      List.any_map]
    simp only [Function.comp_def]
    split <;> simp

end TypedFetch.TypeScript
