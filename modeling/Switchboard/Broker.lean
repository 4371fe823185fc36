import Switchboard.Chain.Basic
import Switchboard.Delivery
import Switchboard.Forwarding
import Switchboard.Registry

/-!
# The message broker

The broker takes the requests of clients through its chain to the destination each one names, and
fans out the messages of destinations to the clients routed to them. Clients that depart during a
delivery are unsubscribed from the adapters they were routed to.
-/

namespace Switchboard

/-- What requests act on: the site of the adapters, the clients and the destinations. -/
structure Exchange (α ε : Type) where
  site : Site ε
  delivery : Delivery := {}
  registry : Registry α ε := {}

namespace Exchange

variable {α ε : Type}

instance : Journaled (Exchange α ε) where
  record e x := { x with site := Journaled.record e x.site }

/-- Runs an operation on the adapter `a`, which is registered under `id`. -/
def withAdapter (id : String) (a : α) (op : Attempt (α × Site ε) β) : Attempt (Exchange α ε) β :=
  ExceptT.mk fun x =>
    let (outcome, a, site) := op.exec (a, x.site)
    (outcome, { x with site, registry := x.registry.setAdapter id a })

/-- Runs an operation on the adapter registered under `id`, if there is one. -/
def onAdapter? (id : String) (op : Attempt (α × Site ε) β) :
    StateM (Exchange α ε) (Option (Except Failure β)) := do
  match ((← get).registry.get? id).bind Destination.adapter? with
  | none => return none
  | some a => return some (← (withAdapter id a op).outcome)

/-- Runs `op` on each of the adapters with the given ids and gives the first failure. All of them
have their turn. -/
def onEach (op : Attempt (α × Site ε) Unit) :
    List String → StateM (Exchange α ε) (Except Failure Unit)
  | [] => return .ok ()
  | id :: rest => do
    let first ← onAdapter? id op
    let others ← onEach op rest
    match first with
    | some (.error f) => return .error f
    | _ => return others

/-- Runs `op` on each of the adapters with the given ids up to the first failure. -/
def onEachUntil (op : Attempt (α × Site ε) Unit) : List String → Attempt (Exchange α ε) Unit
  | [] => pure ()
  | id :: rest => do
    match ← onAdapter? id op with
    | some (.error f) => throw f
    | _ => onEachUntil op rest

/-- The ids of the messaging destinations in ascending order. -/
def messagingIds (x : Exchange α ε) : List String :=
  x.registry.adapters.map (·.1)

def event (level : Level) (message : String) (fields : Fields := []) : Event where
  level := level
  target := "flexlink::broker::message_broker"
  message := message
  fields := fields

section Operations

variable [MessagingAdapter α ε]

/-- Unsubscribes a departed client from the adapters it was routed to. -/
def release (d : Departure) : StateM (Exchange α ε) Unit := do
  log d.event
  match ← onEach (MessagingAdapter.unsubscribe d.client) d.destinations with
  | .ok () => return ()
  | .error f =>
    log (event .warn "unsubscribing departed client failed"
      [("client_id", .text d.client), ("error", .rendered f.message)])

/-- Delivers a message of a destination to its clients and releases those that departed. -/
def deliver (destination : String) (m : Message) (x : Exchange α ε) : Exchange α ε :=
  let (departures, delivery) := x.delivery.deliver destination m
  departures.foldl (fun x d => ((release d).run x).2) { x with delivery }

/-- The listener with the given task and the id of its destination. -/
def findTask? (task : Nat) (x : Exchange α ε) : Option (String × α × Listener) :=
  x.registry.adapters.findSome? fun (id, a) =>
    match MessagingAdapter.listener? ε a with
    | some l => if l.task = some task then some (id, a, l) else none
    | none => none

instance : Forwards (Exchange α ε) where
  hub x := x.site.hub
  setHub h x := { x with site := { x.site with hub := h } }
  listener? task x := (x.findTask? task).map fun found => found.2.2
  setListener task l x :=
    match x.findTask? task with
    | none => x
    | some (id, a, _) =>
      { x with registry := x.registry.setAdapter id (MessagingAdapter.setListener ε l a) }
  deliver := deliver

/-- Subscribes a client that has an outbox. The route is recorded first and stays if the adapter
fails. -/
def subscribe (id : String) (a : α) (client : String) : Attempt (Exchange α ε) Response := do
  let x ← get
  if x.delivery.isConnected client then
    set { x with delivery := (x.delivery.addRoute id client).2 }
    withAdapter id a (MessagingAdapter.subscribe client)
    return .ack
  else throw (Failure.broker (.clientNotConnected client))

def unsubscribe (id : String) (a : α) (client : String) : Attempt (Exchange α ε) Response := do
  modify fun x => { x with delivery := (x.delivery.removeRoute id client).2 }
  withAdapter id a (MessagingAdapter.unsubscribe client)
  return .ack

def publish (id : String) (a : α) (m : Message) : Attempt (Exchange α ε) Response := do
  return .published (← withAdapter id a (MessagingAdapter.invoke m))

/-- Invokes an operation of an exported target, if its options allow that. -/
def invoke (target : Target ε) (options : RemotingOptions) (destination operation : String)
    (args : List Json) : Attempt (Exchange α ε) Response :=
  if options.allows operation then do
    let call : Attempt (Exchange α ε) Json := ExceptT.mk fun x =>
      let (outcome, extra) := (target operation args).exec x.site.extra
      (outcome, { x with site := { x.site with extra } })
    return .result (← call.withNote ("invoking '" ++ operation ++ "' on '" ++ destination ++ "'"))
  else throw (Failure.broker (.operationNotAllowed destination operation))

/-- Answers a request at the destination it names. -/
def dispatch : Endpoint (Exchange α ε) := fun request => do
  match (← get).registry.get? request.destination, request.body with
  | none, _ => throw (Failure.broker (.destinationNotFound request.destination))
  | some (.messaging a), .subscribe => subscribe request.destination a request.client
  | some (.messaging a), .unsubscribe => unsubscribe request.destination a request.client
  | some (.messaging a), .publish m => publish request.destination a m
  | some (.remoting target options), .invoke operation args =>
    invoke target options request.destination operation args
  | some _, body => throw (Failure.broker (.unsupportedRequest request.destination body.kind))

end Operations

end Exchange

/-- A chain in front of an exchange. -/
structure Broker (α ε : Type) where
  chain : Chain (Exchange α ε)
  exchange : Exchange α ε

namespace Broker

variable {α ε : Type} [MessagingAdapter α ε]

/-- The party that departures are told to. -/
def watcher : String := "broker"

/-- The broker of the given destinations, whose clients are yet to connect. -/
def ofRegistry (chain : Chain (Exchange α ε)) (registry : Registry α ε) (site : Site ε) :
    Broker α ε :=
  ⟨chain, { site, registry, delivery := { watcher := some watcher } }⟩

/-- Runs an operation on the exchange. -/
def act (b : Broker α ε) (op : StateM (Exchange α ε) β) : β × Broker α ε :=
  let (result, exchange) := op.run b.exchange
  (result, { b with exchange })

/-- Starts the adapters in ascending order of their ids, up to the first failure. -/
def start (b : Broker α ε) : Except Failure Unit × Broker α ε :=
  b.act do
    match ← (Exchange.onEachUntil MessagingAdapter.start (← get).messagingIds).outcome with
    | .error f => return .error f
    | .ok () =>
      log (Exchange.event .info "message broker started"
        [("destinations", .number (← get).registry.size)])
      return .ok ()

/-- Stops all adapters in ascending order of their ids and gives the first failure. -/
def stop (b : Broker α ε) : Except Failure Unit × Broker α ε :=
  b.act do
    let outcome ← Exchange.onEach MessagingAdapter.stop (← get).messagingIds
    log (Exchange.event .info "message broker stopped")
    return outcome

/-- Connects a client and gives its mailbox. -/
def connect (b : Broker α ε) (client : String) : Nat × Broker α ε :=
  b.act do
    log (Exchange.event .debug "client connected" [("client_id", .text client)])
    modifyGet fun x =>
      let (mailbox, delivery) := x.delivery.connect client
      (mailbox, { x with delivery })

/-- Drops the outbox of a client and unsubscribes it everywhere. -/
def disconnect (b : Broker α ε) (client : String) : Except Failure Unit × Broker α ε :=
  b.act do
    let destinations ← modifyGet fun x =>
      let (destinations, delivery) := x.delivery.disconnect client
      (destinations, { x with delivery })
    log (Exchange.event .debug "client disconnected"
      [("client_id", .text client), ("subscriptions", .number destinations.length)])
    Exchange.onEach (MessagingAdapter.unsubscribe client) destinations

/-- Answers a request. -/
def handle (b : Broker α ε) (request : Request) : Except Failure Response × Broker α ε :=
  b.act (b.chain.execute Exchange.dispatch request).outcome

/-- Runs the forwarding tasks until none is ready. -/
def settle (b : Broker α ε) : Broker α ε :=
  { b with exchange := Forwarding.settle b.exchange }

/-- Closes all channels of the hub. -/
def shutdownHub (b : Broker α ε) : Broker α ε :=
  { b with exchange := Forwards.setHub b.exchange.site.hub.shutdown b.exchange }

/-- Stops all adapters and closes all channels. -/
def shutdown (b : Broker α ε) : Except Failure Unit × Broker α ε :=
  let (outcome, b) := b.stop
  (outcome, b.shutdownHub)

end Broker

end Switchboard
