import Switchboard.Json.Access
import Switchboard.Message

/-!
# Messages as tools see them

The short form of a message: where it goes, its headers and its body. A body is shown as text if it
is one and in hexadecimal digits otherwise. Identity and time are left out.
-/

namespace Switchboard

namespace Bytes

def view (body : Bytes) : Json :=
  match text? body with
  | some s => .str s
  | none => .obj [("hex", .str (hex body))]

/-- The bytes that a script gives as digits or as text. -/
def ofScript (v : Json) : Bytes :=
  match v.text? "hex" with
  | some digits => (ofHexDigits? digits.toList).getD []
  | none => ofText (v.text "body")

end Bytes

namespace Message

def view (m : Message) : Json :=
  .obj [("destination", .str m.destination), ("headers", Json.ofDict m.headers),
    ("body", m.body.view)]

/-- The messages of each destination, in the order they came in. -/
def viewAll (ms : List Message) : Json :=
  .obj (((ms.map (·.destination)).eraseDups).map fun n =>
    (n, Json.ofList view (ms.filter (·.destination == n))))

/-- The message that a script describes. Of a repeated header the last text counts. -/
def ofScript (v : Json) (destination : String) (body : Bytes := Bytes.ofScript v) : Message :=
  (v.items "headers").foldl
    (fun m h => match h.elements with
      | [key, value] => m.withHeader key.toText value.toText
      | _ => m)
    { id := Uuid.random 0, destination, body, timestamp := 0 }

/-- The messages that a script publishes on `channel`: with a count, the body of each ends in its
number. -/
def seriesOfScript (v : Json) (channel : String) : List Message :=
  match v.nat? "times" with
  | none => [ofScript v channel]
  | some n => (List.range n).map fun i =>
      ofScript v channel (Bytes.ofScript v ++ Bytes.ofText (toString i))

end Message

end Switchboard
