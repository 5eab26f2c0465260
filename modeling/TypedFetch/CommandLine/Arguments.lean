import TypedFetch.CommandLine.Setting

/-!
# Arguments

The arguments of a call are options with their values, and operands.  Two dashes end the options.  A
value is attached to its option or is the next argument, whatever that looks like.
-/

namespace TypedFetch.CommandLine

/-- Something is wrong with the way in which the program was called. -/
inductive UsageError where
  | unknownOption (name : String)
  | missingValue (name : String)
  | superfluousValue (name : String)
  /-- The setting does not take the value that was given for it. -/
  | refused (s : Setting)
  | unexpectedOperands (operands : List String)
deriving Repr, BEq, DecidableEq

/-- A usage error in words. -/
def UsageError.message : UsageError → String
  | unknownOption name => "No such option: " ++ name
  | missingValue name => "Option '" ++ name ++ "' requires an argument."
  | superfluousValue name => "Option '" ++ name ++ "' does not take a value."
  | refused s => "Invalid value for " ++ s.environmentName ++ "."
  | unexpectedOperands operands =>
    "Got unexpected extra argument" ++ (if operands.length == 1 then "" else "s") ++ " (" ++
      " ".intercalate operands ++ ")"

/-- The arguments of a call. -/
structure Arguments where
  /-- The settings that options give, from left to right. -/
  given : List (Setting × Argument) := []
  /-- All that belongs to no option. -/
  operands : List String := []
deriving Repr, BEq, DecidableEq

namespace Arguments

/-- Adds what an option gives in front. -/
def withGiven (s : Setting) (v : Argument) (a : Arguments) : Arguments :=
  { a with given := (s, v) :: a.given }

/-- Adds an operand in front. -/
def withOperand (operand : String) (a : Arguments) : Arguments :=
  { a with operands := operand :: a.operands }

end Arguments

/-- What an argument is, seen alone. -/
inductive Form where
  | operand
  /-- An option that needs nothing more. -/
  | complete (s : Setting) (v : Argument)
  /-- An option whose value is the next argument. -/
  | awaiting (s : Setting)
  | faulty (e : UsageError)
deriving Repr, BEq, DecidableEq

/-- An option with two dashes: its name, and the value that an equals sign attaches to it. -/
def longForm (name : List Char) (attached : Option (List Char)) : Form :=
  let shown := "--" ++ String.ofList name
  match longOptions.lookup (String.ofList name), attached with
  | none, _ => .faulty (.unknownOption shown)
  | some (.takes s), some v => .complete s (.text (String.ofList v))
  | some (.takes s), none => .awaiting s
  | some (.sets _ _), some _ => .faulty (.superfluousValue shown)
  | some (.sets s on), none => .complete s (.switch on)

/-- An option with one dash: its letter, and what follows the letter. -/
def shortForm (letter : Char) (attached : List Char) : Form :=
  match shortOptions.lookup letter with
  | none => .faulty (.unknownOption (String.ofList ['-', letter]))
  | some s => if attached.isEmpty then .awaiting s else .complete s (.text (String.ofList attached))

/-- What an argument is, unless it is the value of an option or ends the options. -/
def formOf (arg : String) : Form :=
  match arg.toList with
  | '-' :: '-' :: body =>
    let (name, attached) := Text.cutFirst '=' body
    longForm name attached
  | '-' :: letter :: attached => shortForm letter attached
  | _ => .operand

/-- Reads the arguments of a call. -/
def readArguments : List String → Except UsageError Arguments
  | [] => .ok {}
  | arg :: rest =>
    if arg == "--" then .ok { operands := rest }
    else
      match formOf arg with
      | .operand => (readArguments rest).map (·.withOperand arg)
      | .complete s v => (readArguments rest).map (·.withGiven s v)
      | .faulty e => .error e
      | .awaiting s =>
        match rest with
        | [] => .error (.missingValue arg)
        | v :: rest => (readArguments rest).map (·.withGiven s (.text v))

end TypedFetch.CommandLine
