import Switchboard.Channel.Hub
import Switchboard.Lifecycle.Provider

/-!
# Channel listeners

The listener of a destination reads one channel. It is initialized while it holds a sender of the
channel registered under its name, and it runs while its slot holds a subscription. A task of its
own takes the messages out of the slot; emptying the slot detaches the task at once.
-/

namespace Switchboard

structure Listener where
  channel : String
  destination : String
  sender : Option Sender := none
  slot : Option Subscription := none
  /-- The task that forwards what the slot receives. -/
  task : Option Nat := none
  /-- Whether that task has run yet. -/
  begun : Bool := false

/-- What a look into the slot of a listener gives. -/
inductive Pull
  | message (m : Message)
  | lagged (skipped : Nat)
  | empty
  /-- The channel was closed, which has emptied the slot. -/
  | closed
  /-- The slot is empty. -/
  | detached

namespace Listener

def isRunning (l : Listener) : Bool :=
  l.slot.isSome

def isInitialized (l : Listener) (h : Hub) : Bool :=
  match l.sender with
  | none => false
  | some s => h.isCurrent l.channel s

/-- Empties the slot and ends the task. -/
def halt (l : Listener) (h : Hub) : Listener × Hub :=
  ({ l with slot := none, task := none, begun := false },
    match l.slot with
    | none => h
    | some sub => h.detach sub)

/-- Gives up the slot, the task and the sender. -/
def drop (l : Listener) (h : Hub) : Listener × Hub :=
  let (l, h) := l.halt h
  ({ l with sender := none },
    match l.sender with
    | none => h
    | some s => h.release s)

/-- Subscribes to the channel and starts a task. -/
def start (l : Listener) (h : Hub) : Except ResourceError Unit × Listener × Hub :=
  if l.isRunning then (.ok (), l, h)
  else match l.sender with
    | none => (.error (.invalidState ("listener on '" ++ l.channel ++ "' was disposed")), l, h)
    | some s =>
      let (l, h) := l.halt h
      let (sub, h) := h.attach s l.channel
      let (task, h) := h.spawn
      (.ok (), { l with slot := some sub, task := some task }, h)

/-- Makes the listeners of `destination` on the channel `channel`. -/
def provider (channel destination : String) : Provider Hub Listener where
  acquire h :=
    match h.openChannel channel with
    | (.error e, h) => (.error e, h)
    | (.ok s, h) => (.ok { channel, destination, sender := some s }, h)
  dispose l h := (.ok (), (l.drop h).2)
  start := start
  stop l h := (.ok (), l.halt h)
  isInitialized := isInitialized
  isRunning l _ := l.isRunning

/-- Looks into the slot once. A message is taken under the name of the listener's destination. -/
def pull (l : Listener) (h : Hub) : Pull × Listener × Hub :=
  match l.slot with
  | none => (.detached, l, h)
  | some sub =>
    match h.receive sub with
    | (.message m, h) => (.message (m.sentTo l.destination), l, h)
    | (.lagged n, h) => (.lagged n, l, h)
    | (.empty, h) => (.empty, l, h)
    | (.closed, h) => (.closed, { l with slot := none }, h.detach sub)

end Listener

end Switchboard
