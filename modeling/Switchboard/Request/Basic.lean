import Switchboard.Message
import Switchboard.Request.Kind

/-!
# Requests and responses

A client asks the broker to subscribe or unsubscribe it, to publish a message or to invoke an
operation. Its principal says in whose name it asks.
-/

namespace Switchboard

/-- An authenticated caller. -/
structure Principal where
  name : String
  roles : List String := []
deriving DecidableEq, Repr

namespace Principal

def hasRole (p : Principal) (role : String) : Bool :=
  p.roles.contains role

def toJson (p : Principal) : Json :=
  .obj [("name", .str p.name), ("roles", Json.ofTexts p.roles)]

def ofJson? (v : Json) : Option Principal := do
  let fields ← v.record ["name", "roles"]
  let name ← Json.required fields "name" Json.asText
  let roles ← Json.withDefault fields "roles" (Json.asList Json.asText) []
  return { name, roles }

end Principal

/-- What a client asks for. -/
inductive RequestBody
  | subscribe
  | unsubscribe
  | publish (message : Message)
  | invoke (operation : String) (args : List Json)

def RequestBody.kind : RequestBody → RequestKind
  | subscribe => .subscribe
  | unsubscribe => .unsubscribe
  | publish _ => .publish
  | invoke .. => .invoke

structure Request where
  client : String
  destination : String
  principal : Option Principal := none
  body : RequestBody

def Request.kind (r : Request) : RequestKind := r.body.kind

inductive Response
  | ack
  /-- The number of subscriptions that a published message reached. -/
  | published (receivers : Nat)
  | result (value : Json)

end Switchboard
