import Switchboard.Settings.Basic
import Switchboard.Settings.Tree

/-!
# Settings from a configuration tree

Unknown members are passed over. Each part of the settings may be written as a table or as a list
of its fields in order, whose last fields may be missing.
-/

namespace Switchboard

open ConfigTree

def DestinationConfig.ofTree? (v : ConfigTree) : Option DestinationConfig := do
  let fields ← v.record fieldNames
  let id ← required fields "id" asText
  let channel ← withDefault fields "channel" (nullable asText) none
  let roles ← withDefault fields "roles" (asList asText) []
  return { id, channel, roles }

def FileConfig.ofTree? (v : ConfigTree) : Option FileConfig := do
  let fields ← v.record fieldNames
  let dir ← withDefault fields "dir" asText "logs"
  let stem ← withDefault fields "prefix" asText "flexlink.log"
  let rotation ← withDefault fields "rotation" (asName Rotation.choices) .daily
  let format ← withDefault fields "format" (nullable (asName LogFormat.choices)) none
  return { dir, stem, rotation, format }

/-- Reads the levels of single targets. -/
def LoggingConfig.targetsOfTree? : ConfigTree → Option Dict
  | .table members => members.foldlM (fun d m => (asText m.2).map (d.insert m.1 ·)) ∅
  | _ => none

def LoggingConfig.ofTree? (v : ConfigTree) : Option LoggingConfig := do
  let fields ← v.record fieldNames
  let level ← withDefault fields "level" asText "info"
  let format ← withDefault fields "format" (asName LogFormat.choices) .compact
  let withAnsi ← withDefault fields "with_ansi" asBool true
  let withTarget ← withDefault fields "with_target" asBool true
  let targets ← withDefault fields "targets" targetsOfTree? ∅
  let file ← withDefault fields "file" (nullable FileConfig.ofTree?) none
  return { level, format, withAnsi, withTarget, targets, file }

namespace Settings

/-- Reads the size of the inboxes from the part of the settings that is about the broker. -/
def capacityOfTree? (v : ConfigTree) : Option UInt64 := do
  let fields ← v.record ["channel_capacity"]
  withDefault fields "channel_capacity" asUInt64 1024

def ofTree? (v : ConfigTree) : Option Settings := do
  let fields ← v.record fieldNames
  let channelCapacity ← withDefault fields "broker" capacityOfTree? 1024
  let destinations ← withDefault fields "destinations" (asList DestinationConfig.ofTree?) []
  let logging ← withDefault fields "logging" LoggingConfig.ofTree? {}
  return { channelCapacity, destinations, logging }

end Settings

end Switchboard
