import TypedFetch.Files.Tree
import TypedFetch.Project.Options
import TypedFetch.Report

/-!
# Settings of the command line

Everything that a call can set: the options of a run, and what concerns the call itself.  A
setting is given by an option on the command line or by a variable of the environment.
-/

namespace TypedFetch.CommandLine

open TypedFetch.Files
open TypedFetch.Project

/-- Something that a call can set. -/
inductive Setting where
  /-- An option of the run. -/
  | option (f : OptionField)
  /-- The configuration file. -/
  | config
  /-- The least level that is logged. -/
  | logLevel
  /-- The file that takes the log. -/
  | logFile
  /-- Asks for the version. -/
  | version
  /-- Asks for help. -/
  | help
deriving Repr, BEq, DecidableEq

/-- All settings, in the order in which they are documented. -/
def settings : List Setting :=
  optionFields.map .option ++ [.config, .logLevel, .logFile, .version, .help]

namespace Setting

/-- The variable of the environment that gives a setting. -/
def environmentName : Setting → String
  | option .schemaPath => "PROTO2FETCH_PROTO_PATH"
  | option f => "PROTO2FETCH_" ++ (f.names.headD "").map Char.toUpper
  | config => "PROTO2FETCH_CONFIG_PATH"
  | logLevel => "PROTO2FETCH_LOG_LEVEL"
  | logFile => "PROTO2FETCH_LOG_FILE"
  | version => "PROTO2FETCH_VERSION"
  | help => "PROTO2FETCH_HELP"

/-- The setting may be given several times, and all values count. -/
def repeats (s : Setting) : Bool :=
  s == option .includePaths

/-- The setting is looked at before all others, and may end the call. -/
def isEager : Setting → Bool
  | version | help => true
  | _ => false

end Setting

/-! ## Values -/

/-- What a path on the command line has to lead to. -/
inductive PathRule where
  | anything
  /-- A directory, or nothing yet. -/
  | noFile
  /-- A file, or nothing yet. -/
  | noDirectory
  /-- A file that exists. -/
  | existingFile
deriving Repr, BEq, DecidableEq

/-- What is found at a path satisfies a rule. -/
def PathRule.admits : PathRule → Option Entry → Bool
  | anything, _ => true
  | noFile, some (.file _) => false
  | noFile, _ => true
  | noDirectory, some .directory => false
  | noDirectory, _ => true
  | existingFile, some (.file _) => true
  | existingFile, _ => false

/-- The kind of value that a setting takes. -/
inductive ValueKind where
  | text
  | switch
  | choice (names : List String)
  | level
  | path (rule : PathRule)
deriving Repr, BEq, DecidableEq

/-- The kind of value of each setting. -/
def Setting.kind : Setting → ValueKind
  | option .schemaPath => .path .anything
  | option .outputDir | option .includePaths => .path .noFile
  | option .baseUrl | option .packageName | option .clientName => .text
  | option .includeComments | option .filterBuilders | option .sortBuilders => .switch
  | option .dateType => .choice ((asTextOr "Date").map (·.1))
  | option .bigintType => .choice ((asTextOr "bigint").map (·.1))
  | config => .path .existingFile
  | logLevel => .level
  | logFile => .path .noDirectory
  | version | help => .switch

/-- A value as it was given. -/
inductive Argument where
  | text (s : String)
  | switch (on : Bool)
deriving Repr, BEq, DecidableEq

/-- The words for the two positions of a switch; no word at all means off. -/
def switchWords : List (String × Bool) :=
  [("1", true), ("true", true), ("t", true), ("yes", true), ("y", true), ("on", true),
   ("0", false), ("false", false), ("f", false), ("no", false), ("n", false), ("off", false),
   ("", false)]

/-- The position of a switch. -/
def Argument.position? : Argument → Option Bool
  | switch on => some on
  | text s => switchWords.lookup ((Text.trimmed s).map Char.toLower)

/-- The level that goes by a name, in letters of any case. -/
def levelNamed? (s : String) : Option LogLevel :=
  LogLevel.all.find? (·.name == s.map Char.toUpper)

/-- A path with a character that no path can hold cannot even be looked at. -/
def ValueKind.fault? : ValueKind → Argument → Option FileError
  | path _, .text s =>
    let p := Path.ofText s
    if p.fault? == some .improperPath then some ⟨.improperPath, p⟩ else none
  | _, _ => none

/-- The value is one of its kind, given the files that are there. -/
def ValueKind.accepts (tree : Tree) : ValueKind → Argument → Bool
  | switch, a => a.position?.isSome
  | choice names, .text s => names.contains s
  | level, .text s => (levelNamed? s).isSome
  | path rule, .text s =>
    ((path rule).fault? (.text s)).isNone && rule.admits (tree.named? s)
  | _, _ => true

/-! ## Options -/

/-- What an option on the command line does. -/
inductive Action where
  /-- Takes the value of a setting. -/
  | takes (s : Setting)
  /-- Puts a switch into a position. -/
  | sets (s : Setting) (on : Bool)
deriving Repr, BEq, DecidableEq

/-- The options that are written with two dashes. -/
def longOptions : List (String × Action) :=
  [("proto-path", .takes (.option .schemaPath)),
   ("output-dir", .takes (.option .outputDir)),
   ("base-url", .takes (.option .baseUrl)),
   ("package-name", .takes (.option .packageName)),
   ("client-name", .takes (.option .clientName)),
   ("comments", .sets (.option .includeComments) true),
   ("no-comments", .sets (.option .includeComments) false),
   ("filter-builders", .sets (.option .filterBuilders) true),
   ("no-filter-builders", .sets (.option .filterBuilders) false),
   ("sort-builders", .sets (.option .sortBuilders) true),
   ("no-sort-builders", .sets (.option .sortBuilders) false),
   ("date-type", .takes (.option .dateType)),
   ("bigint-type", .takes (.option .bigintType)),
   ("include-path", .takes (.option .includePaths)),
   ("config", .takes .config),
   ("log-level", .takes .logLevel),
   ("log-file", .takes .logFile),
   ("version", .sets .version true),
   ("help", .sets .help true)]

/-- The options that are written with one dash and one letter; all of them take a value. -/
def shortOptions : List (Char × Setting) :=
  [('p', .option .schemaPath), ('o', .option .outputDir), ('l', .logLevel)]

end TypedFetch.CommandLine
