import TypedFetch.CommandLine.Arguments

/-!
# Requests

What a call asks for.  The command line goes before the environment; of several values for a setting
that takes one, the last counts.
-/

namespace TypedFetch.CommandLine

open TypedFetch.Files
open TypedFetch.Project
open TypedFetch.Validation

/-- The variables of the environment by name. -/
abbrev Environment := List (String × String)

/-- The values that the environment gives a setting; an empty variable gives none. -/
def Environment.values (env : Environment) (s : Setting) : List Argument :=
  match env.lookup s.environmentName with
  | none => []
  | some v =>
    if v.isEmpty then []
    else if s.repeats then (Text.cutAt ':' v.toList).map fun part => .text (String.ofList part)
    else [.text v]

/-- The values that options give a setting. -/
def Arguments.valuesOf (a : Arguments) (s : Setting) : List Argument :=
  (a.given.filter (·.1 == s)).map (·.2)

/-- The values of a setting that count. -/
def Arguments.values (a : Arguments) (env : Environment) (s : Setting) : List Argument :=
  match a.valuesOf s with
  | [] => env.values s
  | given => if s.repeats then given else given.getLast?.toList

/-- The settings in the order in which they are looked at: those that options give come first. -/
def Arguments.order (a : Arguments) : List Setting :=
  (a.given.map (·.1) ++ settings).eraseDups

/-- The first of some settings that does not take its value, and that value. -/
def Arguments.refused? (a : Arguments) (tree : Tree) (env : Environment)
    (settings : List Setting) : Option (Setting × Argument) :=
  settings.findSome? fun s =>
    ((a.values env s).find? (!s.kind.accepts tree ·)).map fun v => (s, v)

/-! ## What is asked for -/

/-- A run with all that was set for it. -/
structure Invocation where
  /-- The options that replace those of the configuration file. -/
  overrides : Entries := []
  /-- The configuration file, if one is named. -/
  config : Option Path := none
  /-- The least level that is logged. -/
  logLevel : LogLevel := .info
  /-- The file that takes the log. -/
  logFile : Option Path := none

/-- What a call asks for. -/
inductive Request where
  | version
  | help
  | run (i : Invocation)
  /-- Nothing: a path was given that is none. -/
  | broken (e : FileError)

/-- The value of a setting of the given kind. -/
def ValueKind.value : ValueKind → Argument → Value
  | switch, a => .bool (a.position?.getD false)
  | path _, .text s => .text (Path.ofText s).text
  | _, .text s => .text s
  | _, .switch on => .bool on

/-- The entry by which some values override a field. -/
def overrideEntry (f : OptionField) (values : List Argument) : Option (Value × Value) :=
  let s := Setting.option f
  let found := values.map s.kind.value
  if found.isEmpty then none
  else some (.text (f.names.headD ""), if s.repeats then .list found else found.headD .null)

/-- The text of the first value. -/
def firstText (values : List Argument) : Option String :=
  values.head?.bind fun
    | .text s => some s
    | .switch _ => none

/-- The run that some arguments ask for. -/
def Arguments.invocation (a : Arguments) (env : Environment) : Invocation where
  overrides := optionFields.filterMap fun f => overrideEntry f (a.values env (.option f))
  config := (firstText (a.values env .config)).map Path.ofText
  logLevel := ((firstText (a.values env .logLevel)).bind levelNamed?).getD .info
  logFile := (firstText (a.values env .logFile)).map Path.ofText

/-- The paths that the arguments and the environment name. -/
def Arguments.paths (a : Arguments) (env : Environment) : List Path :=
  (settings.filter fun s => s.kind matches .path _).flatMap fun s =>
    (a.values env s).filterMap fun
      | .text s => some (Path.ofText s)
      | .switch _ => none

/-- What the first of some eager settings that is switched on asks for. -/
def Arguments.eagerRequest (a : Arguments) (tree : Tree) (env : Environment) :
    List Setting → Except UsageError (Option Request)
  | [] => .ok none
  | s :: rest =>
    match a.refused? tree env [s] with
    | some (s, _) => .error (.refused s)
    | none =>
      if (a.values env s).any (·.position? == some true) then
        .ok (some (if s == .version then .version else .help))
      else a.eagerRequest tree env rest

/-- What a call asks for, or what is wrong with it. -/
def request (tree : Tree) (env : Environment) (args : List String) : Except UsageError Request :=
  match readArguments args with
  | .error e => .error e
  | .ok a =>
    match a.eagerRequest tree env (a.order.filter Setting.isEager) with
    | .error e => .error e
    | .ok (some r) => .ok r
    | .ok none =>
      match a.refused? tree env (a.order.filter (!·.isEager)) with
      | some (s, v) =>
        match s.kind.fault? v with
        | some e => .ok (.broken e)
        | none => .error (.refused s)
      | none =>
        if a.operands.isEmpty then .ok (.run (a.invocation env))
        else .error (.unexpectedOperands a.operands)

end TypedFetch.CommandLine
