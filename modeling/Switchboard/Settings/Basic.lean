import Switchboard.Logging.Config

/-!
# Settings

What a broker is set up from: the size of its inboxes, its messaging destinations and its logging.
-/

namespace Switchboard

/-- A messaging destination bound to a channel. -/
structure DestinationConfig where
  id : String
  /-- The channel, if it has another name than the destination. -/
  channel : Option String := none
  /-- The roles that the destination accepts. Without any it is open. -/
  roles : List String := []
deriving DecidableEq, Repr

structure Settings where
  channelCapacity : UInt64 := 1024
  destinations : List DestinationConfig := []
  logging : LoggingConfig := {}
deriving DecidableEq

/-- What keeps settings from being used. -/
inductive SettingsError
  /-- The layers cannot be read or do not fit the settings. -/
  | load
  | invalid (reason : String)
deriving DecidableEq, Repr

def SettingsError.message : SettingsError → String
  | load => "failed to load configuration"
  | invalid reason => "invalid configuration: " ++ reason

namespace DestinationConfig

/-- The channel that the destination is bound to. -/
def effectiveChannel (d : DestinationConfig) : String :=
  d.channel.getD d.id

def fieldNames : List String := ["id", "channel", "roles"]

def toJson (d : DestinationConfig) : Json :=
  .obj [("id", .str d.id), ("channel", Json.ofOption .str d.channel),
    ("roles", Json.ofTexts d.roles)]

def ofJson? (v : Json) : Option DestinationConfig := do
  let fields ← v.record fieldNames
  let id ← Json.required fields "id" Json.asText
  let channel ← Json.withDefault fields "channel" (Json.nullable Json.asText) none
  let roles ← Json.withDefault fields "roles" (Json.asList Json.asText) []
  return { id, channel, roles }

end DestinationConfig

namespace Settings

/-- Refuses a blank id and one that is among `seen`, the ids before it. -/
def checkIds (seen : List String) : List DestinationConfig → Except SettingsError Unit
  | [] => .ok ()
  | d :: rest =>
    if Text.isBlankText d.id then .error (.invalid "destination id must not be empty")
    else if seen.contains d.id then
      .error (.invalid ("destination '" ++ d.id ++ "' is declared twice"))
    else checkIds (d.id :: seen) rest

/-- Refuses an empty inbox, blank and repeated destinations and unusable logging. -/
def validate (s : Settings) : Except SettingsError Unit := do
  if s.channelCapacity = 0 then
    throw (.invalid "broker.channel_capacity must be greater than zero")
  checkIds [] s.destinations
  match s.logging.validate with
  | .ok () => return ()
  | .error e => throw (.invalid e.message)

def fieldNames : List String := ["broker", "destinations", "logging"]

def toJson (s : Settings) : Json :=
  .obj [("broker", .obj [("channel_capacity", .int s.channelCapacity.toNat)]),
    ("destinations", Json.ofList DestinationConfig.toJson s.destinations),
    ("logging", s.logging.toJson)]

/-- Reads the size of the inboxes from the part of the settings that is about the broker. -/
def capacityOfJson? (v : Json) : Option UInt64 := do
  let fields ← v.record ["channel_capacity"]
  Json.withDefault fields "channel_capacity" Json.asUInt64 1024

def ofJson? (v : Json) : Option Settings := do
  let fields ← v.record fieldNames
  let channelCapacity ← Json.withDefault fields "broker" capacityOfJson? 1024
  let destinations ←
    Json.withDefault fields "destinations" (Json.asList DestinationConfig.ofJson?) []
  let logging ← Json.withDefault fields "logging" LoggingConfig.ofJson? {}
  return { channelCapacity, destinations, logging }

end Settings

end Switchboard
