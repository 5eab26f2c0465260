import TypedFetch.Proofs.TypeScript.References

/-!
# The names that the generated modules export

The names that a module exports, as a list in the order in which they are declared.  The module of
types exports the messages, the enumerations, the utility types that are needed, and for every
builder its class and its factory.  The module of the client exports the class, its factory, and
the helper functions.  Fixed code exports no further name.
-/

namespace TypedFetch.TypeScript

open TypedFetch.Schema (Method Message EnumType)
open Syntax

/-! ## Lists of exports -/

/-- The names that fragments export. -/
def exportedBy (fs : List Fragment) : List String := fs.flatMap Fragment.exports

@[simp] lemma exportedBy_nil : exportedBy [] = [] := rfl

@[simp] lemma exportedBy_cons (f : Fragment) (fs : List Fragment) :
    exportedBy (f :: fs) = f.exports ++ exportedBy fs := rfl

@[simp] lemma exportedBy_append (fs gs : List Fragment) :
    exportedBy (fs ++ gs) = exportedBy fs ++ exportedBy gs :=
  List.flatMap_append

@[simp] lemma exportedBy_flatMap {α : Type} (xs : List α) (f : α → List Fragment) :
    exportedBy (xs.flatMap f) = xs.flatMap fun x => exportedBy (f x) :=
  List.flatMap_assoc

@[simp] lemma exports_code (s : String) : (Fragment.code s).exports = [] := rfl

@[simp] lemma exports_given (s : String) : (Fragment.given s).exports = [] := rfl

@[simp] lemma exports_type (scope : List TypeParam) (t : TypeExpr) :
    (Fragment.type scope t).exports = [] := rfl

@[simp] lemma exports_exported (kind name : String) (params : List TypeParam) :
    (Fragment.exported kind name params).exports = [name] := rfl

lemma exports_module (m : Module) : m.exports = exportedBy m.flatten := rfl

/-- Fragments that each export nothing export nothing. -/
lemma exportedBy_flatMap_eq_nil {α : Type} {xs : List α} {f : α → List Fragment}
    (h : ∀ x, exportedBy (f x) = []) : exportedBy (xs.flatMap f) = [] := by
  simp [h]

/-! ## The module of types -/

lemma exportedBy_declaration (d : DeclarationSyntax) : exportedBy d.fragments = [d.name] := by
  obtain ⟨name, params, doc, body⟩ := d
  cases body with
  | shape properties =>
    have hproperties : exportedBy (properties.flatMap (PropertySyntax.fragments params)) = [] :=
      exportedBy_flatMap_eq_nil fun _ => rfl
    simp only [DeclarationSyntax.fragments, List.cons_append, exportedBy_cons, exportedBy_append,
      hproperties]
    rfl
  | synonym type => rfl

lemma exportedBy_utility (d : DeclarationSyntax) : exportedBy (utilityFragments d) = [d.name] := by
  unfold utilityFragments
  split
  · exact exportedBy_declaration d
  · simp [exportedBy_declaration]

lemma exportedBy_filterBuilder (policy : TypePolicy) (m : Message) :
    exportedBy (filterBuilderFragments policy m) = [builderName m, "create" ++ builderName m] := by
  have hsetters : exportedBy ((setterSyntax policy m).flatMap SetterSyntax.fragments) = [] :=
    exportedBy_flatMap_eq_nil fun _ => rfl
  simp only [filterBuilderFragments, exportedBy_append, hsetters]
  rfl

lemma exportedBy_sortBuilder (list : TypeExpr) (m : Message) :
    exportedBy (sortBuilderFragments list m) = [builderName m, "create" ++ builderName m] := by
  have hmethods : exportedBy ((sortMethodsOf m).flatMap sortMethodFragments) = [] :=
    exportedBy_flatMap_eq_nil fun _ => rfl
  simp only [sortBuilderFragments, exportedBy_append, hmethods]
  rfl

lemma exportedBy_typeFragments (policy : TypePolicy) (features : Features) (schema : Schema) :
    exportedBy (typeFragments policy features schema) =
      (schemaSyntax policy features schema).map (·.name) ++
        (neededSyntax policy features schema).map (·.name) := by
  simp only [typeFragments, List.cons_append, exportedBy_cons, exportedBy_append,
    exportedBy_flatMap, exportedBy_declaration, exportedBy_utility, exports_code, List.nil_append,
    exportedBy_nil, List.append_nil, List.map_eq_flatMap]

/-- The class and the factory of each builder. -/
def builderExports (builders : List String) : List String :=
  builders.flatMap fun b => [b, "create" ++ b]

/-- The module of types exports the types of the schema, the utility types that are needed, and a
class and a factory for each builder. -/
lemma exports_typesSyntax (policy : TypePolicy) (features : Features) (schema : Schema) :
    (typesSyntax policy features schema).exports =
      (schemaSyntax policy features schema).map (·.name) ++
        (neededSyntax policy features schema).map (·.name) ++
        builderExports (builderNames features schema.messages) := by
  have hfilter : exportedBy (filterSection policy schema.messages) =
      builderExports ((messagesMarked filterMarker schema.messages).map builderName) := by
    simp [filterSection, exportedBy_filterBuilder, builderExports, List.flatMap_map]
  have hsort : exportedBy (sortSection schema.messages schema.enums) =
      builderExports ((messagesMarked sortMarker schema.messages).map builderName) := by
    simp [sortSection, exportedBy_sortBuilder, builderExports, List.flatMap_map]
  unfold typesSyntax builderNames
  rw [exports_module, List.flatten_append, List.flatten_append, exportedBy_append,
    exportedBy_append]
  cases features.filterBuilders <;> cases features.sortBuilders <;>
    simp [exportedBy_typeFragments, hfilter, hsort, builderExports]

/-! ## The module of the client -/

/-- The names that contain a marker. -/
def markedNames (marker : String) (messages : List Message) : List String :=
  (messagesMarked marker messages).map (·.name)

/-- What is left of a name without the first occurrence of a marker. -/
def entityName (marker name : String) : String :=
  String.ofList (Text.replaceFirst marker.toList [] name.toList)

/-- What the helpers for one kind of builder create. -/
def markedTargets (marker : String) (messages : List Message) : List String :=
  (markedNames marker messages).map fun n => entityName marker n ++ marker

/-- What the helper functions create. -/
def helperTargets (features : Features) (messages : List Message) : List String :=
  ["Pagination", "PaginatedRequest"] ++
    (if features.filterBuilders then markedTargets filterMarker messages else []) ++
    (if features.sortBuilders then markedTargets sortMarker messages else [])

lemma exportedBy_statement (s : Statement) : exportedBy (statementFragments s) = [] := by
  cases s <;> rfl

lemma exportedBy_method (features : Features) (m : Method) :
    exportedBy (methodFragments features m) = [] := by
  have hparameters : exportedBy (parameterFragments m) = [] := by
    unfold parameterFragments
    split <;> rfl
  have hbody : exportedBy ((bodyOf m).flatMap statementFragments) = [] :=
    exportedBy_flatMap_eq_nil exportedBy_statement
  simp only [methodFragments, exportedBy_append, hparameters, hbody]
  rfl

lemma exportedBy_class (options : ClientOptions) (layout : List GroupSyntax) :
    exportedBy (classFragments options layout) =
      [options.clientName, "create" ++ options.clientName] := by
  have hgroup : ∀ g : GroupSyntax, exportedBy (g.fragments options.features) = [] := by
    intro g
    have hmethods : exportedBy (g.methods.flatMap (methodFragments options.features)) = [] :=
      exportedBy_flatMap_eq_nil (exportedBy_method options.features)
    rw [GroupSyntax.fragments, exportedBy_append, hmethods]
    cases g.comment <;> rfl
  have hgroups : exportedBy (layout.flatMap (GroupSyntax.fragments options.features)) = [] :=
    exportedBy_flatMap_eq_nil hgroup
  simp only [classFragments, exportedBy_append, hgroups]
  rfl

lemma exportedBy_helpers (marker : String) (messages : List Message) :
    exportedBy (helperFragments marker messages) =
      (markedTargets marker messages).map ("create" ++ ·) := by
  have hfactory : ∀ head target, exportedBy (factoryFragments head target) = [head] :=
    fun _ _ => rfl
  rw [helperFragments, exportedBy_append, exportedBy_flatMap, markedTargets, markedNames,
    List.map_map, List.map_map, List.map_eq_flatMap]
  simp only [hfactory, Function.comp_def, entityName, String.append_assoc]
  rfl

/-- The module of the client exports the class, its factory, and the helper functions. -/
lemma exports_clientSyntax (options : ClientOptions) (layout : List GroupSyntax) (schema : Schema) :
    (clientSyntax options layout schema).exports =
      options.clientName :: ("create" ++ options.clientName) ::
        (helperTargets options.features schema.messages).map ("create" ++ ·) := by
  have hhelpers : exportedBy (helperSyntax options.features schema) =
      (helperTargets options.features schema.messages).map ("create" ++ ·) := by
    unfold helperSyntax helperTargets
    simp only [List.cons_append, exportedBy_cons, exportedBy_append, apply_ite exportedBy,
      exportedBy_helpers]
    cases options.features.filterBuilders <;> cases options.features.sortBuilders <;>
      simp [paginationFragments, paginatedFragments]
  rw [exports_module, clientSyntax, List.flatten_cons, List.flatten_cons, exportedBy_append,
    exportedBy_append, exportedBy_class, hhelpers]
  simp

/-! ## No hidden exports -/

/-- The code of fragments declares no exported name. -/
abbrev Overt : List Fragment → Prop := Each fun f => hidesNoExport f = true

lemma overt_typesSyntax (policy : TypePolicy) (features : Features) (schema : Schema) :
    Overt (typesSyntax policy features schema).flatten :=
  fun f hf => hidesNoExport_of_bare (bare_typesSyntax policy features schema f hf)

lemma overt_clientSyntax (options : ClientOptions) (layout : List GroupSyntax) (schema : Schema) :
    Overt (clientSyntax options layout schema).flatten :=
  fun f hf => hidesNoExport_of_bare (bare_clientSyntax options layout schema f hf)

end TypedFetch.TypeScript
