/-!
# Status codes

Every failure carries one status. It decides on which side the failure lies and how loudly it is
logged.
-/

namespace Switchboard

/-- Severity of a log event, from the least to the most severe. -/
inductive Level
  | trace
  | debug
  | info
  | warn
  | error
deriving DecidableEq, Repr, Inhabited

namespace Level

def all : List Level := [.trace, .debug, .info, .warn, .error]

/-- The name that log lines show. -/
def label : Level → String
  | trace => "TRACE"
  | debug => "DEBUG"
  | info => "INFO"
  | warn => "WARN"
  | error => "ERROR"

/-- The name that failures report. -/
def name : Level → String
  | trace => "Trace"
  | debug => "Debug"
  | info => "Info"
  | warn => "Warn"
  | error => "Error"

/-- How much has to be logged for an event of this level to appear: `error` needs the least. -/
def verbosity : Level → Nat
  | error => 1
  | warn => 2
  | info => 3
  | debug => 4
  | trace => 5

end Level

/-- What went wrong, by category. -/
inductive Status
  | unsupported
  | internal
  | invalidArgs
  | notFound
  | alreadyExists
  | destinationNotFound
  | clientNotConnected
  | permissionDenied
  | unauthorized
  | operationNotAllowed
  | resourceUnavailable
  | resourceInitFailed
  | resourceTransitionFailed
  | invalidResourceState
  | io
  | timeout
  | connectionFailed
deriving DecidableEq, Repr, Inhabited

namespace Status

def all : List Status :=
  [unsupported, internal, invalidArgs, notFound, alreadyExists, destinationNotFound,
    clientNotConnected, permissionDenied, unauthorized, operationNotAllowed, resourceUnavailable,
    resourceInitFailed, resourceTransitionFailed, invalidResourceState, io, timeout,
    connectionFailed]

/-- The number of a status: 1xxx general, 2xxx lookup, 3xxx authorization, 5xxx listener
resources, 6xxx input and output. -/
def code : Status → Nat
  | unsupported => 1001
  | internal => 1003
  | invalidArgs => 1004
  | notFound => 2000
  | alreadyExists => 2001
  | destinationNotFound => 2004
  | clientNotConnected => 2005
  | permissionDenied => 3001
  | unauthorized => 3002
  | operationNotAllowed => 3003
  | resourceUnavailable => 5000
  | resourceInitFailed => 5001
  | resourceTransitionFailed => 5002
  | invalidResourceState => 5003
  | io => 6000
  | timeout => 6002
  | connectionFailed => 6003

def name : Status → String
  | unsupported => "Unsupported"
  | internal => "Internal"
  | invalidArgs => "InvalidArgs"
  | notFound => "NotFound"
  | alreadyExists => "AlreadyExists"
  | destinationNotFound => "DestinationNotFound"
  | clientNotConnected => "ClientNotConnected"
  | permissionDenied => "PermissionDenied"
  | unauthorized => "Unauthorized"
  | operationNotAllowed => "OperationNotAllowed"
  | resourceUnavailable => "ResourceUnavailable"
  | resourceInitFailed => "ResourceInitFailed"
  | resourceTransitionFailed => "ResourceTransitionFailed"
  | invalidResourceState => "InvalidResourceState"
  | io => "Io"
  | timeout => "Timeout"
  | connectionFailed => "ConnectionFailed"

/-- The status with number `n`, if there is one. -/
def ofCode? (n : Nat) : Option Status :=
  all.find? fun s => s.code == n

/-- The name followed by the number in parentheses. -/
def display (s : Status) : String :=
  s.name ++ " (" ++ toString s.code ++ ")"

/-- The request itself is wrong. Invalid arguments count although their number is general. -/
def isClientError (s : Status) : Bool :=
  (2000 ≤ s.code && s.code ≤ 3999) || s == invalidArgs

def isServerError (s : Status) : Bool :=
  !s.isClientError

/-- The level at which a failure is logged when it reaches the edge of the broker. -/
def level : Status → Level
  | notFound | alreadyExists | destinationNotFound => .debug
  | invalidArgs | clientNotConnected | unsupported => .info
  | permissionDenied | unauthorized | operationNotAllowed => .warn
  | io | timeout | connectionFailed | resourceUnavailable => .warn
  | internal | resourceInitFailed | resourceTransitionFailed | invalidResourceState => .error

end Status

end Switchboard
