import Switchboard.Request.Kind
import Switchboard.Status

/-!
# Causes of failures

What can go wrong, as data: listener resources, the lifecycle of a destination's listener, the
routing of requests, and errors of an embedding application. Each cause fixes its status, its
text, the text a client may see and the tags of its log events.
-/

namespace Switchboard

/-- A listener resource or its provider failed. -/
inductive ResourceError
  | unavailable (detail : String)
  | invalidState (detail : String)
  | failed (detail : String)
deriving DecidableEq, Repr

namespace ResourceError

def status : ResourceError → Status
  | unavailable _ => .resourceUnavailable
  | invalidState _ => .invalidResourceState
  | failed _ => .resourceTransitionFailed

def message : ResourceError → String
  | unavailable detail => "resource unavailable: " ++ detail
  | invalidState detail => "resource in invalid state: " ++ detail
  | failed detail => "resource failure: " ++ detail

end ResourceError

/-- A step in the life of an initialized listener. -/
inductive Transition
  | start
  | stop
  | dispose
deriving DecidableEq, Repr

def Transition.name : Transition → String
  | start => "start"
  | stop => "stop"
  | dispose => "dispose"

/-- The listener of a destination did not follow its subscriptions. -/
inductive LifecycleError
  | initialization (destination : String) (source : ResourceError)
  | transition (destination : String) (step : Transition) (source : ResourceError)
deriving DecidableEq, Repr

namespace LifecycleError

def destination : LifecycleError → String
  | initialization d _ => d
  | transition d _ _ => d

def source : LifecycleError → ResourceError
  | initialization _ e => e
  | transition _ _ e => e

def status : LifecycleError → Status
  | initialization .. => .resourceInitFailed
  | transition .. => .resourceTransitionFailed

def message : LifecycleError → String
  | initialization d e =>
    "failed to initialize listener for destination '" ++ d ++ "': " ++ e.message
  | transition d step e =>
    "listener for destination '" ++ d ++ "' failed to " ++ step.name ++ ": " ++ e.message

def clientMessage (e : LifecycleError) : String :=
  "Destination '" ++ e.destination ++ "' is temporarily unavailable"

end LifecycleError

/-- A request could not be routed. -/
inductive BrokerError
  | destinationNotFound (destination : String)
  | duplicateDestination (destination : String)
  | clientNotConnected (client : String)
  | operationNotAllowed (destination operation : String)
  | unsupportedRequest (destination : String) (kind : RequestKind)
  | unauthorized (destination : String)
  | permissionDenied (destination principal : String)
deriving DecidableEq, Repr

namespace BrokerError

def status : BrokerError → Status
  | destinationNotFound .. => .destinationNotFound
  | duplicateDestination .. => .alreadyExists
  | clientNotConnected .. => .clientNotConnected
  | operationNotAllowed .. => .operationNotAllowed
  | unsupportedRequest .. => .unsupported
  | unauthorized .. => .unauthorized
  | permissionDenied .. => .permissionDenied

def message : BrokerError → String
  | destinationNotFound d => "destination not found: " ++ d
  | duplicateDestination d => "destination already registered: " ++ d
  | clientNotConnected c => "client not connected: " ++ c
  | operationNotAllowed d operation =>
    "operation '" ++ operation ++ "' is not allowed on destination '" ++ d ++ "'"
  | unsupportedRequest d kind => "destination '" ++ d ++ "' does not support " ++ kind.name
  | unauthorized d => "authentication required for destination '" ++ d ++ "'"
  | permissionDenied d principal =>
    "principal '" ++ principal ++ "' may not access destination '" ++ d ++ "'"

/-- Only a refusal hides something: the principal's name. -/
def clientMessage : BrokerError → String
  | permissionDenied d _ => "Access denied to destination '" ++ d ++ "'"
  | e => e.message

/-- The tags that say which destination and operation the error is about. -/
def subject : BrokerError → List (String × String)
  | destinationNotFound d | duplicateDestination d | unauthorized d | permissionDenied d _
  | unsupportedRequest d _ => [("destination", d)]
  | operationNotAllowed d operation => [("destination", d), ("operation", operation)]
  | clientNotConnected _ => []

end BrokerError

/-- What a client may read when nothing else is said: an internal error keeps its text back. -/
def defaultClientMessage (status : Status) (message : String) : String :=
  if status = .internal then "Internal server error" else message

/-- The tags when nothing else is said. -/
def defaultTags (typeName : String) (status : Status) : List (String × String) :=
  [("error_type", typeName), ("status_code", status.display)]

/-- An error of the embedding application, known by the name of its type. -/
structure ForeignError where
  typeName : String
  message : String
  status : Status := .internal
  clientMessage : String := defaultClientMessage status message
  tags : List (String × String) := defaultTags typeName status
  /-- The texts of what caused it in turn. -/
  sources : List String := []
deriving DecidableEq, Repr

/-- The cause of a failure. -/
inductive Cause
  /-- Any status with any text. -/
  | generic (status : Status) (message : String)
  | resource (error : ResourceError)
  | lifecycle (error : LifecycleError)
  | broker (error : BrokerError)
  | foreign (error : ForeignError)
deriving DecidableEq, Repr

namespace Cause

def status : Cause → Status
  | generic status _ => status
  | resource e => e.status
  | lifecycle e => e.status
  | broker e => e.status
  | foreign e => e.status

def message : Cause → String
  | generic _ message => message
  | resource e => e.message
  | lifecycle e => e.message
  | broker e => e.message
  | foreign e => e.message

def clientMessage : Cause → String
  | lifecycle e => e.clientMessage
  | broker e => e.clientMessage
  | foreign e => e.clientMessage
  | c => defaultClientMessage c.status c.message

/-- The name under which the cause is counted. -/
def typeName : Cause → String
  | generic .. => "GenericError"
  | resource _ => "ResourceError"
  | lifecycle _ => "lifecycle"
  | broker _ => "broker"
  | foreign e => e.typeName

/-- Names and values for structured logs. -/
def tags (c : Cause) : List (String × String) :=
  match c with
  | lifecycle (.initialization d _) => defaultTags c.typeName c.status ++ [("destination", d)]
  | lifecycle (.transition d step _) =>
    defaultTags c.typeName c.status ++ [("destination", d), ("transition", step.name)]
  | broker e => defaultTags c.typeName c.status ++ e.subject
  | foreign e => e.tags
  | _ => defaultTags c.typeName c.status

/-- The texts of the cause and of what caused it in turn. -/
def chain : Cause → List String
  | lifecycle e => [e.message, e.source.message]
  | foreign e => e.message :: e.sources
  | c => [c.message]

/-- What an operation of the system reports besides its text. -/
inductive IoKind
  | notFound
  | permissionDenied
  | connectionRefused
  | connectionReset
  | connectionAborted
  | timedOut
  | other
deriving DecidableEq, Repr

def IoKind.status : IoKind → Status
  | notFound => .notFound
  | permissionDenied => .permissionDenied
  | connectionRefused | connectionReset | connectionAborted => .connectionFailed
  | timedOut => .timeout
  | other => .io

/-- A failed operation of the system. -/
def ofIo (kind : IoKind) (message : String) : Cause :=
  .generic kind.status message

end Cause

end Switchboard
