import Switchboard.Assembly
import Switchboard.CommandLine
import Switchboard.Logging.Session
import Switchboard.Settings.Load

/-!
# The program

A run loads the settings, sets up logging, starts the broker that the settings describe, and shuts
it down when it is interrupted.
-/

namespace Switchboard

/-- What keeps a run from serving. -/
inductive ProgramError
  | settings (e : SettingsError)
  | logging (e : LoggingError)
  | failure (f : Failure)
deriving DecidableEq, Repr

namespace ProgramError

/-- The texts of an error and of what caused it in turn. -/
def chain : ProgramError → List String
  | settings e => ["loading settings", e.message]
  | logging e => "initializing logging" :: e.chain
  | failure f => f.message :: f.sources

/-- `text` behind `first`, its further lines behind `margin`. -/
def indented (first margin text : String) : String :=
  first ++ ("\n" ++ margin).intercalate (text.splitOn "\n")

/-- The causes of an error, numbered if there are several. -/
def causes (texts : List String) : String :=
  match texts with
  | [] => ""
  | [text] => "\n\nCaused by:\n" ++ indented "    " "    " text
  | texts => "\n\nCaused by:" ++ String.join (texts.zipIdx.map fun (text, n) =>
      let number := toString n
      let first := String.ofList (List.replicate (5 - number.length) ' ') ++ number ++ ": "
      "\n" ++ indented first "       " text)

/-- What the program says about the error. -/
def report (e : ProgramError) : String :=
  "Error: " ++ e.chain.head?.getD "" ++ causes e.chain.tail ++ "\n"

/-- The first line of the report, without its end. -/
def headline (e : ProgramError) : String :=
  "Error: " ++ e.chain.head?.getD ""

end ProgramError

/-- Which build of the program runs. -/
structure BuildInfo where
  commit : String
  built : String

namespace Program

def event (message : String) (fields : Fields := []) : Event where
  level := .info
  target := "flexlink"
  message := message
  fields := fields

def starting (info : BuildInfo) (settings : Settings) : Event :=
  event "starting flexlink"
    [("version", .text version), ("commit", .text info.commit), ("built", .text info.built),
      ("destinations", .number settings.destinations.length)]

def interrupted : Event :=
  event "shutdown requested"

/-- Logs events in order. -/
def recordAll (es : Journal) (s : Session) : Session :=
  es.foldl (fun s e => s.record e) s

/-- The settings of a run. -/
def settings (options : RunOptions) (files : Files) (env : Environment) :
    Except SettingsError Settings := do
  let settings ← Settings.load files options.config env
  return match options.logLevel with
    | none => settings
    | some level => { settings with logging := { settings.logging with level } }

/-- A broker that serves, and what is needed to end it. -/
structure Service where
  broker : Broker ChannelAdapter Unit
  handle : LoggingHandle

/-- Logs the events of the broker from the `n`th one on. -/
def recordFrom (n : Nat) (b : Broker ChannelAdapter Unit) (s : Session) : Session :=
  recordAll (b.exchange.site.journal.drop n) s

/-- Assembles and starts the broker that the settings describe. -/
def begin (info : BuildInfo) (settings : Settings) (handle : LoggingHandle) (s : Session) :
    Except Failure Service × Session :=
  let s := s.record (starting info settings)
  match Assembly.build settings with
  | .error f => (.error f, s)
  | .ok broker =>
    let (outcome, broker) := broker.start
    (outcome.map fun () => { broker, handle }, recordFrom 0 broker s)

/-- Ends a service that was interrupted. -/
def finish (service : Service) (s : Session) : Except Failure Unit × Session :=
  let before := service.broker.exchange.site.journal.length
  let (outcome, broker) := service.broker.shutdown
  (outcome, (recordFrom before broker (s.record interrupted)).shutDown service.handle)

/-- The variable that asks for a log filter. -/
def filterVariable : String := "RUST_LOG"

/-- Runs up to the point where the broker serves. -/
def launch (info : BuildInfo) (options : RunOptions) (files : Files) (env : Environment)
    (s : Session) : Except ProgramError Service × Session :=
  match settings options files env with
  | .error e => (.error (.settings e), s)
  | .ok settings =>
    match s.setUp (env.lookup filterVariable) settings.logging with
    | (.error e, s) => (.error (.logging e), s)
    | (.ok handle, s) =>
      let (outcome, s) := begin info settings handle s
      (outcome.mapError .failure, s)

/-- A whole run, which is interrupted as soon as the broker serves. -/
def run (info : BuildInfo) (options : RunOptions) (files : Files) (env : Environment)
    (s : Session) : Except ProgramError Unit × Session :=
  match launch info options files env s with
  | (.error e, s) => (.error e, s)
  | (.ok service, s) =>
    let (outcome, s) := finish service s
    (outcome.mapError .failure, s)

/-- What `--version` writes. -/
def versionText : String := "flexlink " ++ version ++ "\n"

/-- What `--help` writes. -/
def helpText : String :=
  "Subscription-driven messaging broker\n\n" ++
  "Usage: flexlink [OPTIONS]\n\n" ++
  "Options:\n" ++
  "  -c, --config <CONFIG>        " ++
    "Configuration file (toml, json or yaml) [env: FLEXLINK_CONFIG=]\n" ++
  "      --log-level <LOG_LEVEL>  Log level, overrides the configuration\n" ++
  "  -h, --help                   Print help\n" ++
  "  -V, --version                Print version\n"

end Program

end Switchboard
