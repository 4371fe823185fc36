import Switchboard.Adapter

/-!
# Destinations

A destination is served by a messaging adapter, or exports a target whose operations clients may
invoke. The registry knows each id once; the first registration of an id stands.
-/

namespace Switchboard

/-- Which operations of a target may be invoked. -/
structure RemotingOptions where
  included : Std.ExtTreeSet String := ∅
  excluded : Std.ExtTreeSet String := ∅

namespace RemotingOptions

def including (o : RemotingOptions) (operations : List String) : RemotingOptions :=
  { o with included := o.included.insertMany operations }

def excluding (o : RemotingOptions) (operations : List String) : RemotingOptions :=
  { o with excluded := o.excluded.insertMany operations }

/-- Exclusions win. Where nothing is included, all that is not excluded is allowed. -/
def allows (o : RemotingOptions) (operation : String) : Bool :=
  !o.excluded.contains operation && (o.included.isEmpty || o.included.contains operation)

/-- A set of names shown between braces. -/
def inspectNames (names : Std.ExtTreeSet String) : String :=
  "\x7b" ++ ", ".intercalate (names.toList.map Text.quoted) ++ "\x7d"

/-- The options shown as a record. -/
def inspect (o : RemotingOptions) : String :=
  Text.braced "RemotingOptions"
    [("include_methods", inspectNames o.included), ("exclude_methods", inspectNames o.excluded)]

end RemotingOptions

/-- A service of the embedding application: answers an operation with its arguments. -/
abbrev Target (ε : Type) := String → List Json → Attempt ε Json

/-- What a destination id leads to. -/
inductive Destination (α ε : Type)
  | messaging (adapter : α)
  | remoting (target : Target ε) (options : RemotingOptions)

namespace Destination

variable {α ε : Type}

def kind : Destination α ε → String
  | messaging _ => "messaging"
  | remoting .. => "remoting"

def adapter? : Destination α ε → Option α
  | messaging a => some a
  | remoting .. => none

/-- The destination shown as a record. -/
def inspect [MessagingAdapter α ε] : Destination α ε → String
  | messaging a => "Messaging(" ++ Text.quoted (MessagingAdapter.destination ε a) ++ ")"
  | remoting _ options =>
    "Remoting(RemotingExport \x7b options: " ++ options.inspect ++ ", .. \x7d)"

end Destination

structure Registry (α ε : Type) where
  destinations : Std.ExtTreeMap String (Destination α ε) := ∅

namespace Registry

variable {α ε : Type}

def get? (r : Registry α ε) (id : String) : Option (Destination α ε) :=
  r.destinations[id]?

/-- The ids in ascending order. -/
def ids (r : Registry α ε) : List String :=
  r.destinations.keys

def size (r : Registry α ε) : Nat :=
  r.destinations.size

def isEmpty (r : Registry α ε) : Bool :=
  r.destinations.isEmpty

/-- The messaging destinations with their adapters, in ascending order of their ids. -/
def adapters (r : Registry α ε) : List (String × α) :=
  r.destinations.toList.filterMap fun d => d.2.adapter?.map (d.1, ·)

/-- Registers a destination under an id that is not taken yet. -/
def register (r : Registry α ε) (id : String) (d : Destination α ε) :
    Except Failure (Registry α ε) :=
  if r.destinations.contains id then .error (Failure.broker (.duplicateDestination id))
  else .ok ⟨r.destinations.insert id d⟩

/-- Registers an adapter under its own destination. -/
def registerMessaging [MessagingAdapter α ε] (r : Registry α ε) (adapter : α) :
    Except Failure (Registry α ε) :=
  r.register (MessagingAdapter.destination ε adapter) (.messaging adapter)

def registerRemoting (r : Registry α ε) (id : String) (target : Target ε)
    (options : RemotingOptions) : Except Failure (Registry α ε) :=
  r.register id (.remoting target options)

/-- Replaces the adapter of a messaging destination. -/
def setAdapter (r : Registry α ε) (id : String) (adapter : α) : Registry α ε :=
  ⟨r.destinations.insert id (.messaging adapter)⟩

/-- The event that logs a registration. -/
def registered (id : String) (d : Destination α ε) : Event where
  level := .debug
  target := "flexlink::registry::destinations"
  message := "destination registered"
  fields := [("destination", .rendered id), ("kind", .text d.kind)]

/-- The registry shown as a record. -/
def inspect [MessagingAdapter α ε] (r : Registry α ε) : String :=
  Text.braced "DestinationRegistry"
    [("destinations", "\x7b" ++ ", ".intercalate
      (r.destinations.toList.map fun d => Text.quoted d.1 ++ ": " ++ d.2.inspect) ++ "\x7d")]

end Registry

end Switchboard
