import Switchboard.Json.Access
import Switchboard.Settings.Basic

/-!
# Settings and their errors as tools see them

Errors of parsers and of the system are known by their kind alone.
-/

namespace Switchboard

def LoggingError.members (e : LoggingError) : List (String × Json) :=
  match e with
  | .invalidLevel _ => [("error", .str "InvalidLevel"), ("message", .str e.message)]
  | .invalidFormat _ => [("error", .str "InvalidFormat"), ("message", .str e.message)]
  | .invalidFile _ => [("error", .str "InvalidFile"), ("message", .str e.message)]
  | .invalidDirective d => [("error", .str "InvalidDirective"), ("directive", .str d)]
  | .appender .. => [("error", .str "Appender")]
  | .io _ => [("error", .str "Io")]
  | .alreadyInitialized => [("error", .str "AlreadyInitialized")]

def LoggingError.view (e : LoggingError) : Json :=
  .obj e.members

def SettingsError.view (e : SettingsError) : Json :=
  match e with
  | .load => .obj [("error", .str "Load")]
  | .invalid _ => .obj [("error", .str "Invalid"), ("message", .str e.message)]

/-- Each destination with the channel it uses. -/
def Settings.viewChannels (s : Settings) : Json :=
  Json.ofList (fun d => Json.ofTexts [d.id, d.effectiveChannel]) s.destinations

/-- The result of a check. -/
def viewCheck (shown : ε → Json) : Except ε Unit → Json
  | .ok () => .str "ok"
  | .error e => shown e

end Switchboard
