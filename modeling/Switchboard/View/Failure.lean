import Switchboard.Failure.Basic
import Switchboard.Json.Access

/-!
# Failures as tools see them

Everything that a failure tells its different readers, in one object.
-/

namespace Switchboard

namespace Failure

def members (f : Failure) : List (String × Json) :=
  [("error", .str f.status.name), ("message", .str f.message),
    ("client_message", .str f.clientMessage), ("contexts", Json.ofTexts f.notes),
    ("sources", Json.ofTexts f.sources), ("level", .str f.level.name),
    ("tags", Json.ofList (fun t => Json.ofTexts [t.1, t.2]) f.tags)]

def view (f : Failure) : Json :=
  .obj f.members

/-- An outcome: what `shown` makes of a result, or the failure. -/
def viewOr (shown : α → Json) : Except Failure α → Json
  | .ok a => shown a
  | .error f => f.view

end Failure

def ResourceError.view (e : ResourceError) : Json :=
  Failure.view ⟨.resource e, []⟩

/-- The members of a failure and its resource: the destination with the text of the source. -/
def LifecycleError.view (e : LifecycleError) : Json :=
  .obj ((Failure.lifecycle e).members ++
    [("resource", Json.ofTexts [e.destination, e.source.message])])

def ResourceError.ofScript (v : Json) : ResourceError :=
  match v.text "kind" with
  | "unavailable" => .unavailable (v.text "message")
  | "invalid_state" => .invalidState (v.text "message")
  | _ => .failed (v.text "message")

def Cause.IoKind.ofText : String → IoKind
  | "NotFound" => .notFound
  | "PermissionDenied" => .permissionDenied
  | "ConnectionRefused" => .connectionRefused
  | "ConnectionReset" => .connectionReset
  | "ConnectionAborted" => .connectionAborted
  | "TimedOut" => .timedOut
  | _ => .other

def RequestKind.ofText (name : String) : RequestKind :=
  (all.find? (·.name == name)).getD .subscribe

def Transition.ofText : String → Transition
  | "start" => .start
  | "stop" => .stop
  | _ => .dispose

def BrokerError.ofScript (v : Json) : BrokerError :=
  let d := v.text "destination"
  match v.text "kind" with
  | "destination_not_found" => .destinationNotFound d
  | "duplicate_destination" => .duplicateDestination d
  | "unauthorized" => .unauthorized d
  | "client_not_connected" => .clientNotConnected (v.text "client")
  | "operation_not_allowed" => .operationNotAllowed d (v.text "operation")
  | "unsupported_request" => .unsupportedRequest d (.ofText (v.text "request"))
  | _ => .permissionDenied d (v.text "principal")

/-- The status with the code at `name`. -/
def Status.ofScript (v : Json) (name : String) : Status :=
  (ofCode? (v.nat name)).getD .internal

def Cause.ofScript (v : Json) : Cause :=
  let d := v.text "destination"
  match v.text "type" with
  | "generic" => .generic (.ofScript v "code") (v.text "message")
  | "resource" => .resource (.ofScript v)
  | "init" => .lifecycle (.initialization d (.ofScript (v.field "source")))
  | "transition" =>
    .lifecycle (.transition d (.ofText (v.text "transition")) (.ofScript (v.field "source")))
  | "broker" => .broker (.ofScript v)
  | "io" => .ofIo (.ofText (v.text "kind")) (v.text "message")
  | _ => .foreign { typeName := "PlainError", message := v.text "message" }

/-- The failure that a script describes, with the notes it lists. -/
def Failure.ofScript (v : Json) : Failure :=
  (v.texts "contexts").foldl (fun f note => f.withNote note) ⟨.ofScript v, []⟩

end Switchboard
