import Switchboard.Broker
import Switchboard.Scripted.Adapter
import Switchboard.View.Request

/-!
# Scripted stages

Stages, interceptors, converters and endpoints that leave marks, change requests or fail as a
script says.
-/

namespace Switchboard

/-- A state in which doubles leave marks. -/
class Marks (σ : Type) where
  mark : String → σ → σ

/-- The state of a chain that stands alone. -/
structure Bench where
  trace : List String := []
  journal : Journal := []

instance : Journaled Bench where
  record e b := { b with journal := b.journal ++ [e] }

instance : Marks Bench where
  mark s b := { b with trace := b.trace ++ [s] }

instance : Marks (Exchange α Record) where
  mark s x := { x with site := { x.site with
    extra := { x.site.extra with trace := x.site.extra.trace ++ [s] } } }

namespace Stage

variable {σ : Type}

/-- A stage that marks when a request enters, and when it leaves and how. -/
def marking (mark : String → σ → σ) (name : String) : Stage σ :=
  .custom fun next request => ExceptT.mk do
    modify (mark (name ++ " in"))
    match ← (next request).outcome with
    | .ok response =>
      modify (mark (name ++ " out"))
      return .ok response
    | .error f =>
      modify (mark (name ++ " err"))
      return .error f

/-- A stage that refuses every request. -/
def refusing (f : Failure) : Stage σ :=
  .custom fun _ _ => throw f

end Stage

namespace Scripted

variable {σ : Type} [Journaled σ] [Marks σ]

def mark (s : String) : Attempt σ Unit :=
  modify (Marks.mark s)

/-- Fails if the script says so. -/
def fail (v : Json) : Attempt σ Unit :=
  match v.member? "fail" with
  | some e => throw (.ofScript e)
  | none => pure ()

/-- The request with the members that the script replaces. A header is only added to a message. -/
def change (v : Json) (r : Request) : Request :=
  let r := { r with
    destination := v.text "destination" r.destination
    client := v.text "client" r.client
    principal := match v.member? "principal" with
      | some p => Principal.ofScript? p
      | none => r.principal }
  match v.items "header", r.body with
  | [key, value], .publish m =>
    { r with body := .publish (m.withHeader key.toText value.toText) }
  | _, _ => r

/-- The response that the script puts in place of the endpoint's. -/
def replace (v : Json) (name : String) (r : Request) (response : Response) : Response :=
  match v.member? "replace" with
  | some x => .result x
  | none =>
    if v.flag "wrap" then .result (.arr [.str name, response.view])
    else if v.flag "request" then .result r.view
    else response

def interceptor (v : Json) : Interceptor σ :=
  let name := v.text "name"
  if v.flag "passive" then {}
  else
    let pre := v.field "pre"
    let post := v.field "post"
    { before := fun r => do
        mark (name ++ " pre")
        fail pre
        return change pre r
      after := fun r response => do
        mark (name ++ " post " ++ r.destination)
        fail post
        return replace post name r response }

def converter (v : Json) : Converter σ :=
  if v.flag "mask" then .maskServerErrors
  else
    { handles := fun f => (v.items "codes").contains (Json.ofNat f.status.code)
      convert := fun f => return match v.text? "note" with
        | some note => f.withNote note
        | none => ⟨.generic (.ofScript v "to") (v.text "message"), []⟩ }

def rules (v : Json) : AccessRules :=
  (v.items "rules").foldl
    (fun (rules : AccessRules) r => match r.elements with
      | [d, roles] => rules.require d.toText (roles.elements.map Json.toText)
      | _ => rules) {}

def stage (v : Json) : Stage σ :=
  match v.text "type" with
  | "trace" => .marking Marks.mark (v.text "name")
  | "reject" => .refusing (.ofScript (v.field "error"))
  | "authorization" => .authorization (rules v)
  | "conversion" => .conversion ((v.items "converters").map converter)
  | _ => .interception ((v.items "interceptors").map interceptor)

def endpoint (v : Json) : Endpoint σ := fun r => do
  mark "dispatch"
  match v.text "type" "ack" with
  | "echo" => return .result r.view
  | "published" => return .published (v.nat "receivers")
  | "fail" => throw (.ofScript (v.field "error"))
  | _ => return .ack

end Scripted

end Switchboard
