import Switchboard.Failure.Basic
import Switchboard.Lifecycle.Coordinator
import Switchboard.Listener

/-!
# Messaging adapters

An adapter ties a messaging destination to whatever carries its messages. The broker knows it by
the operations of `MessagingAdapter`; `ChannelAdapter` is the one that serves a channel of the
hub, with a listener that runs while the destination has subscribers.
-/

namespace Switchboard

instance {α σ : Type} [Journaled σ] : Journaled (α × σ) where
  record e s := (s.1, Journaled.record e s.2)

/-- What all adapters of a broker share: the hub, the events logged so far, and a state of the
embedding application. -/
structure Site (ε : Type) where
  hub : Hub
  journal : Journal := []
  extra : ε

instance {ε : Type} : Journaled (Site ε) where
  record e s := { s with journal := s.journal ++ [e] }

/-- The operations of an adapter of type `α`. They change the adapter and the site. -/
class MessagingAdapter (α ε : Type) where
  destination : α → String
  /-- Gets ready, before anybody subscribes. -/
  start : Attempt (α × Site ε) Unit
  /-- Tears down, whoever is subscribed. -/
  stop : Attempt (α × Site ε) Unit
  subscribe (client : String) : Attempt (α × Site ε) Unit
  unsubscribe (client : String) : Attempt (α × Site ε) Unit
  /-- Sends a client's message and tells how many receivers it reached. -/
  invoke (m : Message) : Attempt (α × Site ε) Nat
  state : α → Site ε → ListenerState
  subscriberCount : α → Nat
  /-- The listener that forwards messages for the adapter, if it has one. -/
  listener? : α → Option Listener
  setListener : Listener → α → α

/-- One destination bound to one channel. -/
structure ChannelAdapter where
  channel : String
  coordinator : Coordinator Listener

namespace ChannelAdapter

variable {ε : Type}

/-- The adapter of `destination` on `channel`, with nobody subscribed. -/
def ofChannel (destination channel : String) : ChannelAdapter :=
  ⟨channel, { destination }⟩

def destination (a : ChannelAdapter) : String :=
  a.coordinator.destination

/-- What makes the listeners of the adapter. -/
def provider (a : ChannelAdapter) : Provider Hub Listener :=
  Listener.provider a.channel a.destination

def state (a : ChannelAdapter) (h : Hub) : ListenerState :=
  a.coordinator.state a.provider h

/-- Runs an operation of the coordinator on the hub. -/
def coordinate
    (op : Provider Hub Listener → Coordinator Listener → Hub →
      Except LifecycleError Unit × Coordinator Listener × Hub) :
    StateM (ChannelAdapter × Site ε) (Except LifecycleError Unit) :=
  fun (a, s) =>
    let (outcome, c, h) := op a.provider a.coordinator s.hub
    (outcome, { a with coordinator := c }, { s with hub := h })

/-- An event about the adapter. -/
def event (a : ChannelAdapter) (level : Level) (message : String) (more : Fields := []) :
    Event where
  level := level
  target := "flexlink::adapter::channel_adapter"
  message := message
  fields := ("destination", .rendered a.destination) :: more

/-- Logs an event about the adapter as it is now. -/
def note (level : Level) (message : String) (more : ChannelAdapter → Fields := fun _ => []) :
    StateM (ChannelAdapter × Site ε) Unit := do
  let (a, _) ← get
  log (a.event level message (more a))

def start : Attempt (ChannelAdapter × Site ε) Unit := ExceptT.mk do
  let (a, _) ← get
  match ← coordinate Coordinator.start with
  | .ok () =>
    note .info "channel adapter started" fun a => [("channel", .rendered a.channel)]
    return .ok ()
  | .error e =>
    return .error
      ((Failure.lifecycle e).withNote ("starting adapter for '" ++ a.destination ++ "'"))

def stop : Attempt (ChannelAdapter × Site ε) Unit := ExceptT.mk do
  let (a, _) ← get
  match ← coordinate Coordinator.stop with
  | .ok () =>
    note .info "channel adapter stopped"
    return .ok ()
  | .error e =>
    let f := (Failure.lifecycle e).withNote ("stopping adapter for '" ++ a.destination ++ "'")
    log (f.report "channel adapter did not stop cleanly")
    return .error f

/-- The fields of an event about a client. -/
def clientFields (client : String) (a : ChannelAdapter) : Fields :=
  [("client_id", .text client), ("subscribers", .number a.coordinator.subscriberCount)]

/-- The fields of an event about a client whose request failed. -/
def clientFailure (client : String) (e : LifecycleError) : Fields :=
  [("client_id", .text client), ("error", .rendered e.message)]

def subscribe (client : String) : Attempt (ChannelAdapter × Site ε) Unit := ExceptT.mk do
  match ← coordinate fun p => Coordinator.subscribe p client with
  | .ok () =>
    note .debug "client subscribed" (clientFields client)
    return .ok ()
  | .error e =>
    note .warn "subscription recorded but listener is not running" fun _ => clientFailure client e
    return .error ((Failure.lifecycle e).withNote ("subscribing '" ++ client ++ "'"))

def unsubscribe (client : String) : Attempt (ChannelAdapter × Site ε) Unit := ExceptT.mk do
  match ← coordinate fun p => Coordinator.unsubscribe p client with
  | .ok () =>
    note .debug "client unsubscribed" (clientFields client)
    return .ok ()
  | .error e =>
    note .warn "listener did not halt after last unsubscribe" fun _ => clientFailure client e
    return .error ((Failure.lifecycle e).withNote ("unsubscribing '" ++ client ++ "'"))

/-- Publishes `m` into the channel under the name of the destination. -/
def invoke (m : Message) : Attempt (ChannelAdapter × Site ε) Nat := ExceptT.mk do
  let (a, s) ← get
  let (receivers, h) := s.hub.publish a.channel (m.sentTo a.destination)
  set (a, { s with hub := h })
  note .trace "message published" fun _ => [("receivers", .number receivers)]
  return .ok receivers

instance : MessagingAdapter ChannelAdapter ε where
  destination := destination
  start := start
  stop := stop
  subscribe := subscribe
  unsubscribe := unsubscribe
  invoke := invoke
  state a s := a.state s.hub
  subscriberCount a := a.coordinator.subscriberCount
  listener? a := a.coordinator.held
  setListener l a := { a with coordinator := { a.coordinator with held := some l } }

end ChannelAdapter

end Switchboard
