import Switchboard.Settings.Environment

/-!
# The command line

Arguments are read from left to right. The first one that is wrong, or asks for help or for the
version, decides. A settings file may be named by the variable `FLEXLINK_CONFIG` instead.
-/

namespace Switchboard

/-- How to run the broker. -/
structure RunOptions where
  /-- The settings file. -/
  config : Option String := none
  /-- The log level that goes before the one of the settings. -/
  logLevel : Option String := none
deriving DecidableEq, Repr

inductive Command
  | run (options : RunOptions)
  | version
  | help
  /-- The arguments cannot be understood. -/
  | misuse
deriving DecidableEq, Repr

namespace CommandLine

/-- An option that takes a value. -/
inductive OptionName
  | config
  | logLevel
deriving DecidableEq, Repr

/-- Sets an option that is not set yet. The name of a file is not empty. -/
def assign (options : RunOptions) (name : OptionName) (value : String) : Option RunOptions :=
  match name with
  | .config =>
    if options.config.isSome || value = "" then none
    else some { options with config := some value }
  | .logLevel =>
    if options.logLevel.isSome then none else some { options with logLevel := some value }

/-- What an argument is. -/
inductive Argument
  /-- An option whose value is the next argument. -/
  | option (name : OptionName)
  | assignment (name : OptionName) (value : String)
  /-- The end of the options. -/
  | stop
  | version
  | help
  | unknown
deriving DecidableEq, Repr

/-- Reads the rest of an argument that begins with two dashes. -/
def longArgument (cs : List Char) : Argument :=
  let name := String.ofList (cs.takeWhile (· ≠ '='))
  let value? : Option String := match cs.dropWhile (· ≠ '=') with
    | [] => none
    | _ :: value => some (String.ofList value)
  let taking (o : OptionName) : Argument := match value? with
    | none => .option o
    | some v => .assignment o v
  if name = "config" then taking .config
  else if name = "log-level" then taking .logLevel
  else if name = "version" && value?.isNone then .version
  else if name = "help" && value?.isNone then .help
  else .unknown

/-- Reads the rest of an argument that begins with one dash. -/
def shortArgument : List Char → Argument
  | ['c'] => .option .config
  | 'c' :: '=' :: value | 'c' :: value => .assignment .config (String.ofList value)
  | 'V' :: _ => .version
  | 'h' :: _ => .help
  | _ => .unknown

def argument (s : String) : Argument :=
  match s.toList with
  | ['-', '-'] => .stop
  | '-' :: '-' :: cs => longArgument cs
  | '-' :: cs => shortArgument cs
  | _ => .unknown

/-- Whether an argument can be the value of the option before it. -/
def isValue (s : String) : Bool :=
  match s.toList with
  | '-' :: _ :: _ => false
  | _ => true

/-- Reads the arguments. -/
def ofArguments (options : RunOptions) : List String → Command
  | [] => .run options
  | arg :: rest =>
    match argument arg with
    | .unknown => .misuse
    | .version => .version
    | .help => .help
    | .stop => if rest.isEmpty then .run options else .misuse
    | .assignment name value =>
      match assign options name value with
      | some options => ofArguments options rest
      | none => .misuse
    | .option name =>
      match rest with
      | [] => .misuse
      | value :: rest =>
        if isValue value then
          match assign options name value with
          | some options => ofArguments options rest
          | none => .misuse
        else .misuse

/-- The variable that names the settings file if no argument does. -/
def configVariable : String := "FLEXLINK_CONFIG"

/-- What the arguments and the environment ask for. -/
def read (args : List String) (env : Environment) : Command :=
  match ofArguments {} args with
  | .run options =>
    if options.config.isSome then .run options
    else match env.lookup configVariable with
      | none => .run options
      | some name =>
        match assign options .config name with
        | some options => .run options
        | none => .misuse
  | command => command

end CommandLine

end Switchboard
