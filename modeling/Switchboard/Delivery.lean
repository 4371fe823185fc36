import Switchboard.Journal.Event
import Switchboard.Message
import Switchboard.Text.Quoted
import Std.Data.ExtTreeSet

/-!
# Delivery to clients

Each connected client has an outbox that feeds a mailbox of its own. A message of a destination is
copied into the outboxes of the clients routed to it. A client whose mailbox turns out closed is
dropped together with all its routes, which is its departure; a client without an outbox is passed
over and keeps its routes.
-/

namespace Switchboard

/-- What a client reads from. -/
structure Mailbox where
  /-- The messages not yet read, oldest first. -/
  pending : List Message := []
  /-- Whether messages can still be put into it. -/
  accepting : Bool := true

/-- What a client finds in its mailbox. -/
inductive Receipt
  | message (m : Message)
  | empty
  /-- Nothing is left and nothing can come any more. -/
  | closed

/-- A client dropped because its mailbox was closed. -/
structure Departure where
  client : String
  /-- The destination whose message found the mailbox closed. -/
  noticed : String
  /-- The destinations the client was routed to, in ascending order. -/
  destinations : List String
deriving DecidableEq, Repr

structure Delivery where
  /-- The mailbox that feeds each connected client. -/
  outboxes : Std.ExtTreeMap String Nat := ∅
  /-- The mailboxes not yet dropped by their clients. -/
  mailboxes : Std.ExtTreeMap Nat Mailbox := ∅
  /-- The clients routed to each destination. No destination is kept without a client. -/
  routes : Std.ExtTreeMap String (Std.ExtTreeSet String) := ∅
  nextMailbox : Nat := 0
  /-- Who is told about departures, if anybody. -/
  watcher : Option String := none
  /-- How many messages were put into a mailbox. -/
  deliveredCount : Nat := 0
  /-- How many messages found a mailbox closed. -/
  droppedCount : Nat := 0

namespace Delivery

def isConnected (d : Delivery) (client : String) : Bool :=
  d.outboxes.contains client

def clientCount (d : Delivery) : Nat :=
  d.outboxes.size

/-- The clients routed to `destination`, in ascending order. -/
def routesOf (d : Delivery) (destination : String) : List String :=
  match d.routes[destination]? with
  | none => []
  | some clients => clients.toList

def isRouted (d : Delivery) (destination client : String) : Bool :=
  match d.routes[destination]? with
  | none => false
  | some clients => clients.contains client

/-- A new mailbox for `client`. An earlier outbox is replaced; routes stay. -/
def connect (d : Delivery) (client : String) : Nat × Delivery :=
  (d.nextMailbox, { d with
    outboxes := d.outboxes.insert client d.nextMailbox
    mailboxes := d.mailboxes.insert d.nextMailbox {}
    nextMailbox := d.nextMailbox + 1 })

/-- Routes `client` to `destination`. Gives whether the route is new. -/
def addRoute (d : Delivery) (destination client : String) : Bool × Delivery :=
  (!d.isRouted destination client, { d with
    routes := d.routes.insert destination ((d.routes[destination]?.getD ∅).insert client) })

/-- The clients of one destination without `client`, if any are left. -/
def without (client : String) (clients : Std.ExtTreeSet String) : Option (Std.ExtTreeSet String) :=
  let left := clients.erase client
  if left.isEmpty then none else some left

/-- Takes a route away. Gives whether there was one. -/
def removeRoute (d : Delivery) (destination client : String) : Bool × Delivery :=
  (d.isRouted destination client, { d with
    routes := match d.routes[destination]? with
      | none => d.routes
      | some clients =>
        match without client clients with
        | none => d.routes.erase destination
        | some left => d.routes.insert destination left })

/-- Takes all routes of `client` away. Gives their destinations in ascending order. -/
def takeRoutes (d : Delivery) (client : String) : List String × Delivery :=
  ((d.routes.toList.filter fun r => r.2.contains client).map (·.1),
    { d with routes := d.routes.filterMap fun _ clients => without client clients })

/-- Drops the outbox and the routes of `client`. Gives the destinations it was routed to. -/
def disconnect (d : Delivery) (client : String) : List String × Delivery :=
  { d with outboxes := d.outboxes.erase client }.takeRoutes client

/-- Whether messages can be put into the mailbox. -/
def accepts (d : Delivery) (mailbox : Nat) : Bool :=
  match d.mailboxes[mailbox]? with
  | none => false
  | some box => box.accepting

/-- Offers `m` of `destination` to `client`. Gives the departure that this brings about, if the
mailbox of the client is closed. -/
def offer (d : Delivery) (destination : String) (m : Message) (client : String) :
    Option Departure × Delivery :=
  match d.outboxes[client]? with
  | none => (none, d)
  | some mailbox =>
    match d.mailboxes[mailbox]? with
    | some { pending, accepting := true } =>
      (none, { d with
        mailboxes := d.mailboxes.insert mailbox { pending := pending ++ [m] }
        deliveredCount := d.deliveredCount + 1 })
    | _ =>
      let (destinations, d) := d.disconnect client
      (some { client, noticed := destination, destinations },
        { d with droppedCount := d.droppedCount + 1 })

/-- Offers `m` to each of `clients` in turn. -/
def offerAll (destination : String) (m : Message) :
    List String → Delivery → List Departure × Delivery
  | [], d => ([], d)
  | client :: rest, d =>
    let (departure, d) := d.offer destination m client
    let (departures, d) := offerAll destination m rest d
    (departure.toList ++ departures, d)

/-- Delivers `m` to the clients routed to `destination`. Gives the departures it brings about. -/
def deliver (d : Delivery) (destination : String) (m : Message) : List Departure × Delivery :=
  offerAll destination m (d.routesOf destination) d

/-- Whether some client is still fed through the mailbox. -/
def isFed (d : Delivery) (mailbox : Nat) : Bool :=
  d.outboxes.toList.any fun o => o.2 == mailbox

/-- Reads once from a mailbox. -/
def receive (d : Delivery) (mailbox : Nat) : Receipt × Delivery :=
  match d.mailboxes[mailbox]? with
  | none => (.closed, d)
  | some box =>
    match box.pending with
    | m :: rest =>
      (.message m, { d with mailboxes := d.mailboxes.insert mailbox { box with pending := rest } })
    | [] => (if box.accepting && d.isFed mailbox then .empty else .closed, d)

/-- The client takes no more messages but may read those that wait. -/
def closeMailbox (d : Delivery) (mailbox : Nat) : Delivery :=
  { d with mailboxes := d.mailboxes.modify mailbox fun box => { box with accepting := false } }

/-- The client throws its mailbox away with all that waits in it. -/
def dropMailbox (d : Delivery) (mailbox : Nat) : Delivery :=
  { d with mailboxes := d.mailboxes.erase mailbox }

/-- Tells `watcher` about departures from now on, and nobody else. -/
def watch (d : Delivery) (watcher : String) : Delivery :=
  { d with watcher := some watcher }

/-- The delivery shown as a record. -/
def inspect (d : Delivery) : String :=
  Text.braced "Delivery"
    [("clients", toString d.clientCount), ("routes", toString d.routes.size),
      ("departure_hook", toString d.watcher.isSome),
      ("delivered_count", toString d.deliveredCount), ("dropped_count", toString d.droppedCount)]

end Delivery

/-- The event that logs a departure. -/
def Departure.event (d : Departure) : Event where
  level := .debug
  target := "flexlink::broker::delivery"
  message := "client outbox closed, dropping it"
  fields := [("destination", .rendered d.noticed), ("client_id", .text d.client),
    ("routes", .number d.destinations.length)]

end Switchboard
