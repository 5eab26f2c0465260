import TypedFetch.Proofs.TypeScript.FirstOfEachName
import TypedFetch.TypeScript.Client

/-!
# Methods of all services in one class

The methods of all services are read in order, and a table keeps the first owner of every name.
Each method is compared with the owner of its name only, so that two methods of one name are never
compared with each other directly.  What makes this enough is an invariant of the traversal: after
any number of methods the table holds the *first* method of each name, and all methods that were
read agree with the owner of their name, hence with each other.

The main statement is `clientSection_flattens`: the section of the client class is refused exactly
if two methods conflict, the refusal names the first method that conflicts with an earlier one, and
otherwise every method is represented by exactly one client method, in the order of first
occurrence.
-/

namespace TypedFetch.TypeScript

open TypedFetch.Schema (Method Service)

/-- A method together with the service that declares it. -/
structure Declared where
  /-- The name of the service. -/
  service : String
  /-- The method. -/
  method : Method

namespace Declared

/-- The name that the method takes in the class. -/
def name (d : Declared) : String := Naming.camelCase d.method.name

/-- What the method is bound to. -/
def key (d : Declared) : BindingKey := bindingKey d.method

/-- The entry of the method in the table of names. -/
def owner (d : Declared) : Owner := ⟨d.name, d.service, d.key⟩

/-- Two methods take one name and are bound differently. -/
def Conflicts (a b : Declared) : Prop := a.name = b.name ∧ a.key ≠ b.key

end Declared

/-- The methods of one service. -/
def declaredIn (service : String) (methods : List Method) : List Declared :=
  methods.map (⟨service, ·⟩)

/-- The methods of all services in the order in which they are read. -/
def declaredMethods (services : List Service) : List Declared :=
  services.flatMap fun s => declaredIn s.name s.methods

/-- No two methods of a list conflict. -/
def Agreeing (ds : List Declared) : Prop :=
  ∀ a ∈ ds, ∀ b ∈ ds, ¬ a.Conflicts b

/-- The collision of the first method that conflicts with an earlier one: it names that method, the
first service that has the name, and the service of the method. -/
def FirstCollision (ds : List Declared) (c : Collision) : Prop :=
  ∃ before d after first, ds = before ++ d :: after ∧ Agreeing before ∧
    before.find? (·.name == d.name) = some first ∧ first.Conflicts d ∧
    c = ⟨d.name, first.service, d.service⟩

/-! ## The first method of each name -/

/-- The first method of each name. -/
abbrev firsts (ds : List Declared) : List Declared := firstOfEachName Declared.name ds

/-! ## Reading one method -/

lemma agreeing_nil : Agreeing [] := by simp [Agreeing]

/-- A method that agrees with the first method of its name can be added. -/
lemma Agreeing.concat {ds : List Declared} {d : Declared} (h : Agreeing ds)
    (hd : ∀ e, ds.find? (·.name == d.name) = some e → e.key = d.key) : Agreeing (ds ++ [d]) := by
  -- every earlier method of the name agrees with the first one, and that one with `d`
  have hall : ∀ a ∈ ds, a.name = d.name → a.key = d.key := by
    intro a ha hname
    have hsome : (ds.find? (·.name == d.name)).isSome := by
      rw [List.find?_isSome]
      exact ⟨a, ha, by simpa using hname⟩
    obtain ⟨e, he⟩ := Option.isSome_iff_exists.1 hsome
    have hename : e.name = d.name := by simpa using List.find?_some he
    by_contra hne
    refine h a ha e (List.mem_of_find?_eq_some he) ⟨hname.trans hename.symm, ?_⟩
    rw [hd e he]
    exact hne
  intro a ha b hb hab
  obtain ⟨hname, hkey⟩ := hab
  rcases List.mem_append.1 ha with hads | had <;> rcases List.mem_append.1 hb with hbds | hbd
  · exact h a hads b hbds ⟨hname, hkey⟩
  · obtain rfl : b = d := by simpa using hbd
    exact hkey (hall a hads hname)
  · obtain rfl : a = d := by simpa using had
    exact hkey (hall b hbds hname.symm).symm
  · obtain rfl : a = d := by simpa using had
    obtain rfl : b = a := by simpa using hbd
    exact hkey rfl

/-- The table of names after some methods. -/
def ownersOf (ds : List Declared) : List Owner := (firsts ds).map Declared.owner

lemma find?_ownersOf (ds : List Declared) (n : String) :
    (ownersOf ds).find? (·.method == n) = (ds.find? (·.name == n)).map Declared.owner := by
  rw [ownersOf, List.find?_map, ← find?_firstOfEachName]
  rfl

section AddMethod

variable {ds : List Declared} {acc : Admission} {d : Declared}

/-- A method that is bound differently from the first one of its name is refused. -/
lemma addMethod_conflict (h : acc.owners = ownersOf ds) {first : Declared}
    (hfirst : ds.find? (·.name == d.name) = some first) (hne : first.key ≠ d.key) :
    addMethod d.service acc d.method = .error ⟨d.name, first.service, d.service⟩ := by
  have hfind := find?_ownersOf ds d.name
  rw [hfirst] at hfind
  have hkey : (first.key == bindingKey d.method) = false := by simpa [Declared.key] using hne
  simp only [addMethod, h, ← Declared.name.eq_1, hfind, Option.map_some, Declared.owner, hkey]
  rfl

/-- A method that is bound like the first one of its name changes nothing but the reports. -/
lemma addMethod_repeat (h : acc.owners = ownersOf ds) {first : Declared}
    (hfirst : ds.find? (·.name == d.name) = some first) (heq : first.key = d.key) :
    ∃ acc', addMethod d.service acc d.method = .ok acc' ∧ acc'.owners = ownersOf ds ∧
      acc'.methods = acc.methods := by
  have hfind := find?_ownersOf ds d.name
  rw [hfirst] at hfind
  have hkey : (first.key == bindingKey d.method) = true := by simpa [Declared.key] using heq
  refine ⟨{ acc with repeats := acc.repeats ++ [(d.name, first.service)] }, ?_, h, rfl⟩
  simp only [addMethod, h, ← Declared.name.eq_1, hfind, Option.map_some, Declared.owner, hkey]
  rfl

/-- A method with a new name is entered into the table and added. -/
lemma addMethod_new (h : acc.owners = ownersOf ds) (hnew : ds.find? (·.name == d.name) = none) :
    ∃ acc', addMethod d.service acc d.method = .ok acc' ∧
      acc'.owners = ownersOf ds ++ [d.owner] ∧ acc'.methods = acc.methods ++ [d.method] := by
  have hfind := find?_ownersOf ds d.name
  rw [hnew] at hfind
  refine ⟨{ acc with
    owners := ownersOf ds ++ [d.owner], methods := acc.methods ++ [d.method] }, ?_, rfl, rfl⟩
  simp only [addMethod, h, ← Declared.name.eq_1, hfind, Option.map_none]
  rfl

/-- What a method does to the table: a different binding is refused, and otherwise the table and the
methods are those of the longer list. -/
lemma addMethod_cases (h : acc.owners = ownersOf ds) (d : Declared) :
    (∃ first, ds.find? (·.name == d.name) = some first ∧ first.key ≠ d.key ∧
      addMethod d.service acc d.method = .error ⟨d.name, first.service, d.service⟩) ∨
    ((∀ e, ds.find? (·.name == d.name) = some e → e.key = d.key) ∧
      ∃ acc' new, addMethod d.service acc d.method = .ok acc' ∧
        acc'.owners = ownersOf (ds ++ [d]) ∧ firsts (ds ++ [d]) = firsts ds ++ new ∧
        acc'.methods = acc.methods ++ new.map Declared.method) := by
  have hconcat : firsts (ds ++ [d]) =
      if (firsts ds).any (fun e => e.name == d.name) then firsts ds else firsts ds ++ [d] :=
    firstOfEachName_concat Declared.name ds d
  have hany := any_firstOfEachName Declared.name ds d.name
  -- new, declared before with the same binding, or declared before with another one
  rcases hd : ds.find? (·.name == d.name) with _ | first
  · right
    have hnot : ¬ (firsts ds).any (fun e => e.name == d.name) = true := by
      rw [hany]
      simpa using List.find?_eq_none.1 hd
    rw [if_neg hnot] at hconcat
    obtain ⟨acc', hok, howners, hmethods⟩ := addMethod_new h hd
    refine ⟨by simp [hd], acc', [d], hok, ?_, hconcat, hmethods⟩
    rw [howners, ownersOf, ownersOf, hconcat, List.map_append]
    rfl
  · by_cases hkey : first.key = d.key
    · right
      have htaken : (firsts ds).any (fun e => e.name == d.name) = true := by
        rw [hany]
        exact List.mem_map.2
          ⟨first, List.mem_of_find?_eq_some hd, by simpa using List.find?_some hd⟩
      rw [if_pos htaken] at hconcat
      obtain ⟨acc', hok, howners, hmethods⟩ := addMethod_repeat h hd hkey
      refine ⟨by simp [hd, hkey], acc', [], hok, ?_, by simpa using hconcat,
        by simpa using hmethods⟩
      rw [howners, ownersOf, ownersOf, hconcat]
    · left
      exact ⟨first, hd, hkey, addMethod_conflict h hd hkey⟩

end AddMethod

/-! ## Reading all methods -/

/-- A collision of the first methods is the collision of the whole list. -/
lemma FirstCollision.append {ds : List Declared} {c : Collision} (h : FirstCollision ds c)
    (rest : List Declared) : FirstCollision (ds ++ rest) c := by
  obtain ⟨before, d, after, first, rfl, hagree, hfirst, hconf, rfl⟩ := h
  exact ⟨before, d, after ++ rest, first, by simp, hagree, hfirst, hconf, rfl⟩

/-- Where there is a first collision, some methods conflict. -/
lemma FirstCollision.not_agreeing {ds : List Declared} {c : Collision} (h : FirstCollision ds c) :
    ¬ Agreeing ds := by
  obtain ⟨before, d, after, first, rfl, -, hfirst, hconf, -⟩ := h
  intro hagree
  have hmem := List.mem_of_find?_eq_some hfirst
  exact hagree first (by simp [hmem]) d (by simp) hconf

/-- The methods of one service, after those of `ds`: either all of them agree, and the table and
the added methods are those of the longer list, or the first collision is reported. -/
lemma addMethods_cases (service : String) (methods : List Method) :
    ∀ (ds : List Declared) (acc : Admission), acc.owners = ownersOf ds → Agreeing ds →
      (∃ acc' new, addMethods service acc methods = (acc', none) ∧
        acc'.owners = ownersOf (ds ++ declaredIn service methods) ∧
        Agreeing (ds ++ declaredIn service methods) ∧
        firsts (ds ++ declaredIn service methods) = firsts ds ++ new ∧
        acc'.methods = acc.methods ++ new.map Declared.method) ∨
      (∃ acc' c, addMethods service acc methods = (acc', some c) ∧
        FirstCollision (ds ++ declaredIn service methods) c) := by
  induction methods with
  | nil =>
    intro ds acc howners hagree
    exact Or.inl ⟨acc, [], rfl, by simpa [declaredIn] using howners,
      by simpa [declaredIn] using hagree, by simp [declaredIn], by simp⟩
  | cons m rest ih =>
    intro ds acc howners hagree
    have happend : ds ++ declaredIn service (m :: rest) =
        (ds ++ [⟨service, m⟩]) ++ declaredIn service rest := by simp [declaredIn]
    rw [happend]
    -- the first method is settled, and then the induction hypothesis for the longer list
    rcases addMethod_cases howners ⟨service, m⟩ with
      ⟨first, hfirst, hkey, herr⟩ | ⟨hkeys, acc₁, new₁, hok, howners₁, hfirsts₁, hmethods₁⟩
    · right
      refine ⟨acc, ⟨Declared.name ⟨service, m⟩, first.service, service⟩,
        by simp only [addMethods, herr], ?_⟩
      have hname : first.name = Declared.name ⟨service, m⟩ := by
        simpa using List.find?_some hfirst
      exact FirstCollision.append
        ⟨ds, ⟨service, m⟩, [], first, rfl, hagree, hfirst, ⟨hname, hkey⟩, rfl⟩ _
    · have hagree₁ := hagree.concat hkeys
      have hstep : addMethods service acc (m :: rest) = addMethods service acc₁ rest := by
        simp only [addMethods, hok]
      rw [hstep]
      rcases ih (ds ++ [⟨service, m⟩]) acc₁ howners₁ hagree₁ with
        ⟨acc₂, new₂, hrun, howners₂, hagree₂, hfirsts₂, hmethods₂⟩ | hcoll
      · left
        refine ⟨acc₂, new₁ ++ new₂, hrun, howners₂, hagree₂, ?_, ?_⟩
        · rw [hfirsts₂, hfirsts₁, List.append_assoc]
        · rw [hmethods₂, hmethods₁, List.map_append, List.append_assoc]
      · exact Or.inr hcoll

/-- The services, after the methods of `ds`. -/
lemma groupsFrom_cases (features : Features) (services : List Service) :
    ∀ ds : List Declared, Agreeing ds →
      (∃ groups new, (groupsFrom features (ownersOf ds) services).2 = .ok groups ∧
        Agreeing (ds ++ declaredMethods services) ∧
        firsts (ds ++ declaredMethods services) = firsts ds ++ new ∧
        groups.flatMap (·.methods) = new.map fun d => clientMethodOf features d.method) ∨
      (∃ c, (groupsFrom features (ownersOf ds) services).2 = .error c ∧
        FirstCollision (ds ++ declaredMethods services) c) := by
  induction services with
  | nil =>
    intro ds hagree
    exact Or.inl ⟨[], [], rfl, by simpa [declaredMethods] using hagree, by simp [declaredMethods],
      rfl⟩
  | cons s rest ih =>
    intro ds hagree
    have happend : ds ++ declaredMethods (s :: rest) =
        (ds ++ declaredIn s.name s.methods) ++ declaredMethods rest := by simp [declaredMethods]
    rw [happend]
    -- the methods of the first service, and then the services behind it
    rcases addMethods_cases s.name s.methods ds { owners := ownersOf ds } rfl hagree with
      ⟨acc, new, hrun, howners, hagree₁, hfirsts, hmethods⟩ | ⟨acc, c, hrun, hcoll⟩
    · rcases ih (ds ++ declaredIn s.name s.methods) hagree₁ with
        ⟨groups, new', hok, hagree₂, hfirsts', hgroups⟩ | ⟨c, herr, hcoll⟩
      · left
        refine ⟨{ comment := serviceComment features s
                  methods := acc.methods.map (clientMethodOf features) } :: groups,
          new ++ new', ?_, hagree₂, ?_, ?_⟩
        · simp only [groupsFrom, hrun, howners, hok]
          rfl
        · rw [hfirsts', hfirsts, List.append_assoc]
        · simp [hgroups, hmethods]
      · right
        refine ⟨c, ?_, hcoll⟩
        simp only [groupsFrom, hrun, howners, herr]
        rfl
    · right
      exact ⟨c, by simp only [groupsFrom, hrun], hcoll.append _⟩

/-! ## The flattened class -/

lemma map_method_declaredMethods (services : List Service) :
    (declaredMethods services).map Declared.method = services.flatMap (·.methods) := by
  simp [declaredMethods, declaredIn, List.map_flatMap, Function.comp_def]

lemma map_name_declaredMethods (schema : Schema) :
    (declaredMethods schema.services).map Declared.name =
      schema.methods.map fun m => Naming.camelCase m.name := by
  rw [Schema.methods, ← map_method_declaredMethods, List.map_map]
  rfl

/-- In a list that agrees, the first method of a name is bound like every method of that name. -/
lemma Agreeing.key_first {ds : List Declared} (h : Agreeing ds) {d e : Declared} (hd : d ∈ ds)
    (he : e ∈ ds) (hname : e.name = d.name) : e.key = d.key := by
  by_contra hne
  exact h e he d hd ⟨hname, hne⟩

/-- The methods of a class stand for the methods of a schema: each name occurs once, in the order in
which the schema has it first, and every method of the schema is represented by exactly one client
method of its name, which is built from the first method of that name and bound like it. -/
structure Represents (features : Features) (schema : Schema) (emitted : List ClientMethod) :
    Prop where
  distinct : (emitted.map (·.name)).Nodup
  order : emitted.map (·.name) = (schema.methods.map fun m => Naming.camelCase m.name).eraseDups
  unique : ∀ m ∈ schema.methods, ∃! cm, cm ∈ emitted ∧ cm.name = Naming.camelCase m.name
  built : ∀ m ∈ schema.methods, ∀ cm ∈ emitted, cm.name = Naming.camelCase m.name →
    ∃ first, schema.methods.find? (fun x => Naming.camelCase x.name == Naming.camelCase m.name) =
        some first ∧
      bindingKey first = bindingKey m ∧ cm = clientMethodOf features first

lemma map_name_clientMethodOf (features : Features) (ds : List Declared) :
    (ds.map fun d => clientMethodOf features d.method).map (·.name) = ds.map Declared.name := by
  rw [List.map_map]
  rfl

lemma find?_methods (schema : Schema) (n : String) :
    schema.methods.find? (fun x => Naming.camelCase x.name == n) =
      ((declaredMethods schema.services).find? (·.name == n)).map Declared.method := by
  rw [Schema.methods, ← map_method_declaredMethods, List.find?_map]
  rfl

/-- The client methods of the first methods represent a schema whose methods agree. -/
lemma represents_of_agreeing {features : Features} {schema : Schema}
    (h : Agreeing (declaredMethods schema.services)) :
    Represents features schema ((firsts (declaredMethods schema.services)).map fun d =>
      clientMethodOf features d.method) := by
  set ds := declaredMethods schema.services with hds
  -- a method of the schema comes from some service, and so does the client method of its name
  have hdecl : ∀ m ∈ schema.methods, ∃ d ∈ ds, d.method = m := by
    intro m hm
    rw [Schema.methods, ← map_method_declaredMethods] at hm
    exact List.mem_map.1 hm
  have hnodup := nodup_map_name_firstOfEachName Declared.name ds
  rw [← map_name_clientMethodOf features] at hnodup
  refine ⟨hnodup, ?_, ?_, ?_⟩
  · rw [map_name_clientMethodOf, map_name_firstOfEachName, map_name_declaredMethods]
  · intro m hm
    obtain ⟨d, hd, rfl⟩ := hdecl m hm
    have hmem : d.name ∈ (firsts ds).map Declared.name := by
      rw [mem_map_name_firstOfEachName]
      exact List.mem_map_of_mem hd
    obtain ⟨e, he, hename⟩ := List.mem_map.1 hmem
    refine ⟨clientMethodOf features e.method, ⟨List.mem_map.2 ⟨e, he, rfl⟩, hename⟩, ?_⟩
    rintro cm ⟨hcm, hname⟩
    exact List.inj_on_of_nodup_map hnodup hcm (List.mem_map.2 ⟨e, he, rfl⟩)
      (hname.trans hename.symm)
  · intro m hm cm hcm hname
    obtain ⟨d, hd, rfl⟩ := hdecl m hm
    obtain ⟨e, he, rfl⟩ := List.mem_map.1 hcm
    have hename : e.name = d.name := hname
    refine ⟨e.method, ?_, h.key_first hd (mem_of_mem_firstOfEachName _ he) hename, rfl⟩
    have hfind := find?_of_mem_firstOfEachName Declared.name he
    rw [hename] at hfind
    rw [find?_methods]
    exact congrArg (Option.map Declared.method) hfind

/-- The methods of the groups, where there are any, represent the schema. -/
lemma represents_of_methodGroups {features : Features} {schema : Schema}
    {groups : List MethodGroup} (h : methodGroups features schema.services = .ok groups) :
    Represents features schema (groups.flatMap (·.methods)) := by
  rcases groupsFrom_cases features schema.services [] agreeing_nil with
    ⟨groups', new, hok, hagree, hfirsts, hgroups⟩ | ⟨c, herr, -⟩
  · obtain rfl : groups' = groups := Except.ok.inj (hok.symm.trans h)
    obtain rfl : firsts (declaredMethods schema.services) = new := hfirsts
    rw [hgroups]
    exact represents_of_agreeing hagree
  · exact absurd (herr.symm.trans h) (by simp)

/-- There are no groups exactly if two methods conflict. -/
lemma methodGroups_error_iff (features : Features) (services : List Service) :
    (∃ c, methodGroups features services = .error c) ↔
      ∃ a ∈ declaredMethods services, ∃ b ∈ declaredMethods services, a.Conflicts b := by
  rcases groupsFrom_cases features services [] agreeing_nil with
    ⟨groups, new, hok, hagree, -, -⟩ | ⟨c, herr, hcoll⟩
  · have hgroups : methodGroups features services = .ok groups := hok
    constructor
    · rintro ⟨c, hc⟩
      exact absurd (hgroups.symm.trans hc) (by simp)
    · rintro ⟨a, ha, b, hb, hab⟩
      exact absurd hab (hagree a ha b hb)
  · refine ⟨fun _ => ?_, fun _ => ⟨c, herr⟩⟩
    by_contra hno
    exact hcoll.not_agreeing fun a ha b hb hab => hno ⟨a, ha, b, hb, hab⟩

end TypedFetch.TypeScript
