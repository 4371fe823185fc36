import Switchboard.Json.Record
import Switchboard.Uuid

/-!
# Messages

A message travels between clients, destinations and channels. Its headers are texts by name and
its body is bytes.
-/

namespace Switchboard

structure Message where
  id : Uuid
  destination : String
  headers : Dict := ∅
  body : Bytes
  /-- Creation time in milliseconds since the Unix epoch. -/
  timestamp : Int64
deriving DecidableEq

namespace Message

/-- `m` with the header `key` set to `value`. -/
def withHeader (m : Message) (key value : String) : Message :=
  { m with headers := m.headers.insert key value }

def header? (m : Message) (key : String) : Option String :=
  m.headers[key]?

/-- The same message on its way to another destination. -/
def sentTo (m : Message) (destination : String) : Message :=
  { m with destination }

def fieldNames : List String := ["id", "destination", "headers", "body", "timestamp"]

def toJson (m : Message) : Json :=
  .obj [("id", .str m.id.toText), ("destination", .str m.destination),
    ("headers", Json.ofDict m.headers), ("body", Json.ofBytes m.body),
    ("timestamp", .int m.timestamp.toInt)]

def ofJson? (v : Json) : Option Message := do
  let fields ← v.record fieldNames
  let id ← Json.required fields "id" fun v => v.asText.bind Uuid.ofText?
  let destination ← Json.required fields "destination" Json.asText
  let headers ← Json.withDefault fields "headers" Json.asDict ∅
  let body ← Json.required fields "body" Json.asBytes
  let timestamp ← Json.required fields "timestamp" Json.asInt64
  return { id, destination, headers, body, timestamp }

end Message

end Switchboard
