import Switchboard.Request.Basic
import Switchboard.View.Message

/-!
# Requests and responses as tools see them
-/

namespace Switchboard

def Principal.ofScript? (v : Json) : Option Principal :=
  match v with
  | .obj _ => some { name := v.text "name", roles := v.texts "roles" }
  | _ => none

/-- The request that a script describes. -/
def Request.ofScript (v : Json) : Request :=
  let destination := v.text "destination"
  { client := v.text "client", destination, principal := Principal.ofScript? (v.field "principal")
    body := match v.text "kind" with
      | "subscribe" => .subscribe
      | "unsubscribe" => .unsubscribe
      | "publish" => .publish (.ofScript v destination)
      | _ => .invoke (v.text "operation") (v.items "args") }

def Request.view (r : Request) : Json :=
  .obj ([("client", .str r.client), ("destination", .str r.destination),
      ("kind", .str r.kind.name), ("principal", Json.ofOption Principal.toJson r.principal)] ++
    match r.body with
    | .publish m => [("message", m.view)]
    | .invoke operation args => [("operation", .str operation), ("args", .arr args)]
    | _ => [])

def Response.view : Response → Json
  | .ack => .str "ack"
  | .published n => .obj [("published", .ofNat n)]
  | .result v => .obj [("result", v)]

end Switchboard
