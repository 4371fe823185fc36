import Switchboard.Json.Record
import Switchboard.Text.Blank
import Switchboard.Text.Lower

/-!
# Logging configuration

A base level, levels of single targets, the layout of lines and, if wanted, a file that the lines
are written to as well.
-/

namespace Switchboard

/-- The layout of log lines. -/
inductive LogFormat
  | compact
  | pretty
  | json
deriving DecidableEq, Repr, Inhabited

namespace LogFormat

def name : LogFormat → String
  | compact => "compact"
  | pretty => "pretty"
  | json => "json"

def choices : List (String × LogFormat) :=
  [("compact", compact), ("pretty", pretty), ("json", json)]

/-- Reads the name of a layout in letters of any case. -/
def ofText? (s : String) : Option LogFormat :=
  choices.lookup (Text.lower s)

end LogFormat

/-- How often a new log file is begun. -/
inductive Rotation
  | never
  | hourly
  | daily
deriving DecidableEq, Repr, Inhabited

namespace Rotation

def name : Rotation → String
  | never => "never"
  | hourly => "hourly"
  | daily => "daily"

def choices : List (String × Rotation) :=
  [("never", never), ("hourly", hourly), ("daily", daily)]

end Rotation

structure FileConfig where
  dir : String := "logs"
  /-- The file name, or what a date is appended to. -/
  stem : String := "flexlink.log"
  rotation : Rotation := .daily
  /-- The layout in the file, `json` if unset. -/
  format : Option LogFormat := none
deriving DecidableEq, Repr

structure LoggingConfig where
  level : String := "info"
  format : LogFormat := .compact
  withAnsi : Bool := true
  withTarget : Bool := true
  /-- Levels of single targets. -/
  targets : Dict := ∅
  file : Option FileConfig := none
deriving DecidableEq

/-- What keeps a configuration from being used. -/
inductive LoggingError
  | invalidLevel (level : String)
  | invalidFormat (format : String)
  | invalidFile (reason : String)
  /-- The filter directive cannot be read. -/
  | invalidDirective (directive : String)
  /-- The log file cannot be opened: what was being done, and why not. -/
  | appender (action reason : String)
  /-- The directory of the log file cannot be made. -/
  | io (reason : String)
  | alreadyInitialized
deriving DecidableEq, Repr

def LoggingError.message : LoggingError → String
  | invalidLevel level => "unknown log level '" ++ level ++ "'"
  | invalidFormat format => "unknown log format '" ++ format ++ "'"
  | invalidFile reason => "invalid file sink: " ++ reason
  | invalidDirective directive =>
    "invalid filter directive '" ++ directive ++ "': invalid filter directive"
  | appender action reason => "cannot create log file appender: " ++ action ++ ": " ++ reason
  | io reason => "i/o error: " ++ reason
  | alreadyInitialized =>
    "global subscriber already set: attempted to set a logger after the logging system was " ++
      "already initialized"

/-- The texts of an error and of what caused it in turn. -/
def LoggingError.chain : LoggingError → List String
  | appender action reason =>
    [(appender action reason).message, action ++ ": " ++ reason, reason]
  | io reason => [(io reason).message, reason]
  | e => [e.message]

namespace LoggingConfig

/-- The accepted levels, in lower case. -/
def levels : List String :=
  ["trace", "debug", "info", "warn", "error", "off"]

def isLevel (level : String) : Bool :=
  levels.contains (Text.lower level)

def checkLevel (level : String) : Except LoggingError Unit :=
  if isLevel level then .ok () else .error (.invalidLevel level)

/-- Refuses unknown levels and a blank file name. -/
def validate (c : LoggingConfig) : Except LoggingError Unit := do
  checkLevel c.level
  for (_, level) in c.targets.toList do
    checkLevel level
  match c.file with
  | none => return ()
  | some file =>
    if Text.isBlankText file.stem then
      throw (.invalidFile "file prefix must not be empty")

/-- The filter directive: the base level, then each target with its level. -/
def directive (c : LoggingConfig) : String :=
  ",".intercalate (Text.lower c.level ::
    c.targets.toList.map fun t => t.1 ++ "=" ++ Text.lower t.2)

end LoggingConfig

namespace FileConfig

def fieldNames : List String := ["dir", "prefix", "rotation", "format"]

def toJson (f : FileConfig) : Json :=
  .obj [("dir", .str f.dir), ("prefix", .str f.stem), ("rotation", .str f.rotation.name),
    ("format", Json.ofOption (fun l => .str l.name) f.format)]

def ofJson? (v : Json) : Option FileConfig := do
  let fields ← v.record fieldNames
  let dir ← Json.withDefault fields "dir" Json.asText "logs"
  let stem ← Json.withDefault fields "prefix" Json.asText "flexlink.log"
  let rotation ← Json.withDefault fields "rotation" (Json.asName Rotation.choices) .daily
  let format ← Json.withDefault fields "format" (Json.nullable (Json.asName LogFormat.choices)) none
  return { dir, stem, rotation, format }

end FileConfig

namespace LoggingConfig

def fieldNames : List String :=
  ["level", "format", "with_ansi", "with_target", "targets", "file"]

def toJson (c : LoggingConfig) : Json :=
  .obj [("level", .str c.level), ("format", .str c.format.name), ("with_ansi", .bool c.withAnsi),
    ("with_target", .bool c.withTarget), ("targets", Json.ofDict c.targets),
    ("file", Json.ofOption FileConfig.toJson c.file)]

def ofJson? (v : Json) : Option LoggingConfig := do
  let fields ← v.record fieldNames
  let level ← Json.withDefault fields "level" Json.asText "info"
  let format ← Json.withDefault fields "format" (Json.asName LogFormat.choices) .compact
  let withAnsi ← Json.withDefault fields "with_ansi" Json.asBool true
  let withTarget ← Json.withDefault fields "with_target" Json.asBool true
  let targets ← Json.withDefault fields "targets" Json.asDict ∅
  let file ← Json.withDefault fields "file" (Json.nullable FileConfig.ofJson?) none
  return { level, format, withAnsi, withTarget, targets, file }

end LoggingConfig

end Switchboard
