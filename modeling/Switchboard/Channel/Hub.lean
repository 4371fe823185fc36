import Switchboard.Channel.Basic
import Switchboard.Failure.Cause

/-!
# The hub

The hub holds the channels. A name leads to the channel registered under it; a name that was
removed and opened again leads to a new channel, while senders and subscriptions of the old one
stay with the old one. After a shutdown no channel can be opened any more.

Senders and subscriptions are numbers handed out by the hub. Whoever holds one gives it back with
`release` or `detach`.
-/

namespace Switchboard

/-- The right to send into a channel. -/
structure Sender where
  channel : Nat
deriving DecidableEq, Repr

/-- A place to read the messages of a channel from. -/
structure Subscription where
  channel : Nat
  number : Nat
  /-- The name under which the channel was asked for. -/
  label : String
deriving DecidableEq, Repr

structure Hub where
  /-- How many messages an inbox keeps. -/
  slots : Nat
  /-- The registered channels by name. -/
  names : Std.ExtTreeMap String Nat := ∅
  /-- All channels that were ever opened, by number. -/
  channels : Std.ExtTreeMap Nat Channel := ∅
  isShutDown : Bool := false
  publishCount : Nat := 0
  /-- How many publishes reached nobody. -/
  sendErrorCount : Nat := 0
  /-- The tasks that may run, the one woken first in front. -/
  ready : List Nat := []
  nextChannel : Nat := 0
  nextSubscription : Nat := 0
  nextTask : Nat := 0

namespace Hub

/-- An empty hub whose inboxes keep `capacity` messages, rounded up to a power of two. -/
def ofCapacity (capacity : Nat) : Hub :=
  { slots := (max 1 capacity).nextPowerOfTwo }

def defaultCapacity : Nat := 1024

def channel (h : Hub) (number : Nat) : Channel :=
  h.channels[number]?.getD {}

def setChannel (h : Hub) (number : Nat) (c : Channel) : Hub :=
  { h with channels := h.channels.insert number c }

def modifyChannel (h : Hub) (number : Nat) (f : Channel → Channel) : Hub :=
  h.setChannel number (f (h.channel number))

/-- Wakes all tasks waiting on a channel. -/
def wake (h : Hub) (number : Nat) : Hub :=
  let c := h.channel number
  { h.setChannel number { c with waiting := [] } with ready := h.ready ++ c.waiting }

/-- One more sender of a channel. -/
def retain (h : Hub) (number : Nat) : Sender × Hub :=
  (⟨number⟩, h.modifyChannel number fun c => { c with senders := c.senders + 1 })

/-- Gives a sender back. -/
def release (h : Hub) (s : Sender) : Hub :=
  h.modifyChannel s.channel fun c => { c with senders := c.senders - 1 }

/-- A new channel registered under `name`, held by the registry itself. -/
def register (h : Hub) (name : String) : Nat × Hub :=
  let number := h.nextChannel
  (number, { h with
    names := h.names.insert name number
    channels := h.channels.insert number { senders := 1 }
    nextChannel := number + 1 })

/-- A sender of the channel `name`, which is created if needed. -/
def openChannel (h : Hub) (name : String) : Except ResourceError Sender × Hub :=
  if h.isShutDown then
    (.error (.unavailable ("broker is shut down, cannot open channel '" ++ name ++ "'")), h)
  else
    let (number, h) := match h.names[name]? with
      | some number => (number, h)
      | none => h.register name
    let (s, h) := h.retain number
    (.ok s, h)

/-- A sender of the channel registered under `name`, if there is one. -/
def sender? (h : Hub) (name : String) : Option Sender × Hub :=
  match h.names[name]? with
  | none => (none, h)
  | some number =>
    let (s, h) := h.retain number
    (some s, h)

/-- A new subscription to the channel of `s`. -/
def attach (h : Hub) (s : Sender) (label : String) : Subscription × Hub :=
  let number := h.nextSubscription
  (⟨s.channel, number, label⟩,
    { h.modifyChannel s.channel fun c => { c with inboxes := c.inboxes.insert number {} } with
      nextSubscription := number + 1 })

/-- Ends a subscription. -/
def detach (h : Hub) (sub : Subscription) : Hub :=
  h.modifyChannel sub.channel fun c => { c with inboxes := c.inboxes.erase sub.number }

/-- A subscription to the channel `name`, which is created if needed. -/
def subscribe (h : Hub) (name : String) : Except ResourceError Subscription × Hub :=
  match h.openChannel name with
  | (.error e, h) => (.error e, h)
  | (.ok s, h) =>
    let (sub, h) := h.attach s name
    (.ok sub, h.release s)

/-- Sends `m` into a channel and tells how many subscriptions it reached, if any. -/
def send (h : Hub) (number : Nat) (m : Message) : Option Nat × Hub :=
  let c := h.channel number
  if c.receiverCount = 0 then (none, h)
  else (some c.receiverCount, (h.setChannel number (c.broadcast h.slots m)).wake number)

/-- Sends `m` through `s` and tells how many subscriptions it reached. If it reached none, `m`
comes back. -/
def sendThrough (h : Hub) (s : Sender) (m : Message) : Except Message Nat × Hub :=
  let (reached, h) := h.send s.channel m
  (reached.elim (.error m) .ok, h)

/-- Publishes `m` under `name` and tells how many subscriptions it reached. A name without a
channel gets none. -/
def publish (h : Hub) (name : String) (m : Message) : Nat × Hub :=
  let h := { h with publishCount := h.publishCount + 1 }
  let (reached, h) := match h.names[name]? with
    | none => (none, h)
    | some number => h.send number m
  match reached with
  | some n => (n, h)
  | none => (0, { h with sendErrorCount := h.sendErrorCount + 1 })

/-- Reads once from a subscription. -/
def receive (h : Hub) (sub : Subscription) : Received × Hub :=
  let (got, c) := (h.channel sub.channel).receive sub.number
  (got, h.setChannel sub.channel c)

/-- Takes the channel under `name` out of the registry and wakes the tasks that wait on it. -/
def close (h : Hub) (name : String) : Bool × Hub :=
  match h.names[name]? with
  | none => (false, h)
  | some number =>
    (true, ({ h with names := h.names.erase name }.release ⟨number⟩).wake number)

/-- Closes every channel and refuses new ones. -/
def shutdown (h : Hub) : Hub :=
  h.names.keys.foldl (fun h name => (h.close name).2) { h with isShutDown := true }

/-- A new task, ready to run. -/
def spawn (h : Hub) : Nat × Hub :=
  (h.nextTask, { h with ready := h.ready ++ [h.nextTask], nextTask := h.nextTask + 1 })

/-- Makes `task` wait on a channel. -/
def wait (h : Hub) (task number : Nat) : Hub :=
  h.modifyChannel number fun c => { c with waiting := c.waiting ++ [task] }

/-- A new task that waits on the channel of `s`. -/
def park (h : Hub) (s : Sender) : Nat × Hub :=
  (h.nextTask, { h with nextTask := h.nextTask + 1 }.wait h.nextTask s.channel)

/-- Whether `task` was woken. -/
def isReady (h : Hub) (task : Nat) : Bool :=
  h.ready.contains task

/-- The task whose turn it is. -/
def nextReady? (h : Hub) : Option (Nat × Hub) :=
  match h.ready with
  | [] => none
  | task :: rest => some (task, { h with ready := rest })

def contains (h : Hub) (name : String) : Bool :=
  h.names.contains name

/-- The names of the registered channels in ascending order. -/
def channelNames (h : Hub) : List String :=
  h.names.keys

/-- The live subscriptions of the channel registered under `name`. -/
def receiverCount (h : Hub) (name : String) : Nat :=
  match h.names[name]? with
  | none => 0
  | some number => (h.channel number).receiverCount

/-- Whether `s` sends into the channel registered under `name`. -/
def isCurrent (h : Hub) (name : String) (s : Sender) : Bool :=
  h.names[name]? == some s.channel

/-- The messages sent since the position of `sub`, kept or not. -/
def outstanding (h : Hub) (sub : Subscription) : Nat :=
  ((h.channel sub.channel).inboxes[sub.number]?.map Inbox.outstanding).getD 0

/-- Whether nobody can send to `sub` any more. -/
def isClosed (h : Hub) (sub : Subscription) : Bool :=
  !(h.channel sub.channel).isOpen

end Hub

end Switchboard
