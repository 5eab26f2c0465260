import TypedFetch.Proofs.TypeScript.ClientSyntax

/-!
# What fixed code does not hold

Type expressions and exported names are fragments of their own.  That the lists of them leave
nothing out is a matter of the code in between, which is the same in every module: it takes nothing
from the module of types, exports no name, and applies no type to type arguments.  Each piece of
code is looked at once for all three.

The main statements are `bare_typesSyntax` and `bare_clientSyntax`.
-/

namespace TypedFetch.TypeScript

open TypedFetch.Schema (Method Message)
open Syntax

/-! ## Properties of all fragments -/

/-- Every fragment has a property. -/
def Each (P : Fragment → Prop) (fs : List Fragment) : Prop := ∀ f ∈ fs, P f

section Each

variable {P : Fragment → Prop}

@[simp] lemma each_nil : Each P [] := by simp [Each]

@[simp] lemma each_cons {f : Fragment} {fs : List Fragment} :
    Each P (f :: fs) ↔ P f ∧ Each P fs := by
  simp [Each]

@[simp] lemma each_append {fs gs : List Fragment} :
    Each P (fs ++ gs) ↔ Each P fs ∧ Each P gs := by
  simp [Each, or_imp, forall_and]

@[simp] lemma each_flatMap {α : Type} {xs : List α} {g : α → List Fragment} :
    Each P (xs.flatMap g) ↔ ∀ x ∈ xs, Each P (g x) := by
  simp only [Each, List.mem_flatMap]
  constructor
  · intro h x hx f hf
    exact h f ⟨x, hx, hf⟩
  · rintro h f ⟨x, hx, hf⟩
    exact h x hx f hf

end Each

/-! ## What may be hidden -/

/-- How a name of the module of types starts in the module of the client. -/
def qualifier : List Char := ['T', 'y', 'p', 'e', 's', '.']

/-- Fixed code does not refer to the module of types: only type expressions do. -/
def unqualified : Fragment → Bool
  | .code s => !Text.occursIn qualifier s.toList
  | _ => true

/-- How an export starts. -/
def exportHead : List Char := ['e', 'x', 'p', 'o', 'r', 't', ' ']

/-- How the export of a default starts, which declares no name. -/
def defaultHead : List Char := exportHead ++ ['d', 'e', 'f', 'a', 'u', 'l', 't', ' ']

/-- Every export in a text is the export of a default. -/
def exportsDefaultOnly : List Char → Bool
  | [] => true
  | c :: rest =>
    (!exportHead.isPrefixOf (c :: rest) || defaultHead.isPrefixOf (c :: rest)) &&
      exportsDefaultOnly rest

/-- Fixed code declares no exported name: only the heads of declarations do. -/
def hidesNoExport : Fragment → Bool
  | .code s => exportsDefaultOnly s.toList
  | _ => true

/-- The call that sends a request, which is a function of the type of the response. -/
def requestCall : List Char := "    return this.client.request<".toList

/-- A text has no type arguments, unless it is the call that sends a request. -/
def appliesNothing (cs : List Char) : Bool :=
  !cs.contains '<' || cs == requestCall

/-- Fixed code applies no type: only type expressions do. -/
def hidesNoApplication : Fragment → Bool
  | .code s => appliesNothing s.toList
  | _ => true

/-! ## Bare code -/

/-- Fixed code takes nothing from the module of types, exports no name and applies no type. -/
def bare (f : Fragment) : Bool :=
  unqualified f && hidesNoExport f && hidesNoApplication f

section

variable {f : Fragment}

lemma unqualified_of_bare (h : bare f = true) : unqualified f = true := by
  simp only [bare, Bool.and_eq_true] at h
  exact h.1.1

lemma hidesNoExport_of_bare (h : bare f = true) : hidesNoExport f = true := by
  simp only [bare, Bool.and_eq_true] at h
  exact h.1.2

lemma hidesNoApplication_of_bare (h : bare f = true) :
    hidesNoApplication f = true := by
  simp only [bare, Bool.and_eq_true] at h
  exact h.2

end

@[simp] lemma bare_given (s : String) : bare (.given s) = true := rfl

@[simp] lemma bare_exported (kind name : String) (params : List TypeParam) :
    bare (.exported kind name params) = true := rfl

@[simp] lemma bare_type (scope : List TypeParam) (t : TypeExpr) :
    bare (.type scope t) = true := rfl

lemma bare_ofList {cs : List Char}
    (h : (!Text.occursIn qualifier cs && exportsDefaultOnly cs && appliesNothing cs) = true) :
    bare (.code (String.ofList cs)) = true := by
  simpa [bare, unqualified, hidesNoExport, hidesNoApplication] using h

/-- The code of fragments holds none of the three. -/
abbrev Bare : List Fragment → Prop := Each fun f => bare f = true

lemma bare_property (scope : List TypeParam) (p : PropertySyntax) : Bare (p.fragments scope) := by
  have hmark : bare (.code (if p.isOptional then "?" else "")) = true := by
    split <;> exact bare_ofList (by decide)
  simp only [PropertySyntax.fragments, each_cons, each_nil, bare_given,
    bare_type, hmark, and_true, true_and]
  and_intros <;> exact bare_ofList (by decide)

lemma bare_declaration (d : DeclarationSyntax) : Bare d.fragments := by
  obtain ⟨name, params, doc, body⟩ := d
  cases body <;>
    simp only [DeclarationSyntax.fragments, each_cons, each_nil, each_append, each_flatMap,
      bare_given, bare_exported, bare_type, bare_property,
      implies_true, and_true, true_and]
  all_goals and_intros <;> exact bare_ofList (by decide)

lemma bare_utility (d : DeclarationSyntax) : Bare (utilityFragments d) := by
  unfold utilityFragments
  split
  · exact bare_declaration d
  · refine each_append.2 ⟨bare_declaration d, each_cons.2 ⟨?_, each_nil⟩⟩
    exact bare_ofList (by decide)

lemma bare_factory (head : String) (target : TypeExpr) : Bare (factoryFragments head target) := by
  simp only [factoryFragments, each_cons, each_nil, bare_exported, bare_type,
    and_true, true_and]
  and_intros <;> exact bare_ofList (by decide)

lemma bare_setter (s : SetterSyntax) : Bare s.fragments := by
  simp only [SetterSyntax.fragments, each_cons, each_nil, bare_given, bare_type,
    and_true, true_and]
  and_intros <;> exact bare_ofList (by decide)

lemma bare_filterBuilder (policy : TypePolicy) (m : Message) :
    Bare (filterBuilderFragments policy m) := by
  simp only [filterBuilderFragments, each_cons, each_nil, each_append, each_flatMap,
    bare_exported, bare_type, bare_setter, bare_factory, implies_true,
    and_true, true_and]
  and_intros <;> exact bare_ofList (by decide)

lemma bare_sortMethod (s : SortMethod) : Bare (sortMethodFragments s) := by
  simp only [sortMethodFragments, each_cons, each_nil, bare_given, bare_type,
    and_true, true_and]
  and_intros <;> exact bare_ofList (by decide)

lemma bare_sortBuilder (list : TypeExpr) (m : Message) : Bare (sortBuilderFragments list m) := by
  simp only [sortBuilderFragments, each_cons, each_nil, each_append, each_flatMap,
    bare_exported, bare_type, bare_sortMethod, bare_factory, implies_true,
    and_true, true_and]
  and_intros <;> exact bare_ofList (by decide)

lemma bare_typesSyntax (policy : TypePolicy) (features : Features) (schema : Schema) :
    Bare (typesSyntax policy features schema).flatten := by
  have hfirst : Bare (typeFragments policy features schema) := by
    have hnotice : bare
        (.code (notice ++ "\n// Generated from protobuf definitions\n\n")) = true := by
      decide
    simp only [typeFragments, each_cons, each_nil, each_append, each_flatMap, bare_declaration,
      bare_utility, hnotice, true_and, and_true, implies_true]
    refine ⟨fun _ _ => ?_, ?_⟩ <;> exact bare_ofList (by decide)
  have hfilter : Bare (filterSection policy schema.messages) := by
    simp only [filterSection, each_cons, each_flatMap, bare_filterBuilder, implies_true, and_true]
    exact bare_ofList (by decide)
  have hsort : Bare (sortSection schema.messages schema.enums) := by
    simp only [sortSection, each_cons, each_flatMap, bare_sortBuilder, implies_true, and_true]
    exact bare_ofList (by decide)
  unfold typesSyntax
  cases features.filterBuilders <;> cases features.sortBuilders <;> simp [hfirst, hfilter, hsort]

lemma bare_call (verb : Http.Verb) (output : String) : Bare (callFragments verb output) := by
  simp only [callFragments, each_cons, each_nil, bare_given, bare_type, and_true,
    true_and]
  and_intros <;> exact bare_ofList (by decide)

lemma bare_statement (s : Statement) : Bare (statementFragments s) := by
  cases s <;>
    simp only [statementFragments, each_cons, each_nil, each_append, bare_given,
      bare_call, and_true, true_and]
  all_goals and_intros <;> exact bare_ofList (by decide)

lemma bare_method (features : Features) (m : Method) : Bare (methodFragments features m) := by
  have hparameters : Bare (parameterFragments m) := by
    unfold parameterFragments
    split <;> simp only [each_cons, each_nil, bare_type, and_true, true_and]
    all_goals and_intros <;> exact bare_ofList (by decide)
  simp only [methodFragments, each_cons, each_nil, each_append, each_flatMap, bare_given,
    bare_type, hparameters, bare_statement, implies_true, and_true, true_and]
  and_intros <;> exact bare_ofList (by decide)

lemma bare_group (features : Features) (g : GroupSyntax) : Bare (g.fragments features) := by
  simp only [GroupSyntax.fragments, each_append, each_flatMap, bare_method, implies_true, and_true]
  cases g.comment with
  | none => exact each_nil
  | some comment =>
    simp only [each_cons, each_nil, bare_given, and_true, true_and]
    and_intros <;> exact bare_ofList (by decide)

lemma bare_class (options : ClientOptions) (layout : List GroupSyntax) :
    Bare (classFragments options layout) := by
  simp only [classFragments, each_cons, each_nil, each_append, each_flatMap, bare_given,
    bare_exported, bare_type, bare_group, implies_true, and_true, true_and]
  and_intros <;> exact bare_ofList (by decide)

lemma bare_helpers (marker : String) (messages : List Message) :
    Bare (helperFragments marker messages) := by
  simp only [helperFragments, each_cons, each_nil, each_append, each_flatMap, bare_given,
    bare_factory, implies_true, and_true, true_and]
  and_intros <;> exact bare_ofList (by decide)

lemma bare_helperSyntax (features : Features) (schema : Schema) :
    Bare (helperSyntax features schema) := by
  have hpages : Bare (.code "// Helper methods and builders\n\n" :: paginationFragments ++
      .code "\n" :: paginatedFragments) := by
    simp only [paginationFragments, paginatedFragments, List.cons_append, List.nil_append,
      each_cons, each_nil, bare_given, bare_exported, bare_type,
      and_true, true_and]
    and_intros <;> exact bare_ofList (by decide)
  unfold helperSyntax
  cases features.filterBuilders <;> cases features.sortBuilders <;>
    simpa [bare_helpers] using hpages

lemma bare_clientSyntax (options : ClientOptions) (layout : List GroupSyntax)
    (schema : Schema) : Bare (clientSyntax options layout schema).flatten := by
  simp [clientSyntax, bare_class, bare_helperSyntax]

end TypedFetch.TypeScript
