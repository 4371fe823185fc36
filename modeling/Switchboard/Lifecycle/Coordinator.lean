import Switchboard.Lifecycle.Provider
import Switchboard.Text.Quoted
import Std.Data.ExtTreeSet

/-!
# The lifecycle of a destination's listener

The coordinator of a destination keeps its subscribers and its listener. The first subscriber
initializes the listener if needed and starts it, the last one to leave stops it but keeps it
initialized. `start` only initializes. `stop` disposes of the listener and leaves the subscribers
alone, so that it runs again after the next subscription into the empty set. A listener that
reports itself uninitialized is disposed of and replaced by the next `start` or first subscriber.

A failed call is reported as it is. Nothing is tried again or taken back.
-/

namespace Switchboard

structure Coordinator (η : Type) where
  destination : String
  members : Std.ExtTreeSet String := ∅
  held : Option η := none

namespace Coordinator

variable {ω η : Type}

def isSubscribed (c : Coordinator η) (id : String) : Bool :=
  c.members.contains id

def subscriberCount (c : Coordinator η) : Nat :=
  c.members.size

/-- The subscribers in ascending order. -/
def subscribers (c : Coordinator η) : List String :=
  c.members.toList

def state (p : Provider ω η) (c : Coordinator η) (w : ω) : ListenerState :=
  p.stateOf c.held w

/-- The failure of a step of an initialized listener. -/
def failure (c : Coordinator η) (step : Transition) (e : ResourceError) : LifecycleError :=
  .transition c.destination step e

/-- Makes a new listener and holds it. -/
def replace (p : Provider ω η) (c : Coordinator η) (w : ω) :
    Except LifecycleError η × Coordinator η × ω :=
  match p.acquire w with
  | (.ok h, w) => (.ok h, { c with held := some h }, w)
  | (.error e, w) => (.error (.initialization c.destination e), { c with held := none }, w)

/-- An initialized listener: the one held, or a new one. -/
def ensure (p : Provider ω η) (c : Coordinator η) (w : ω) :
    Except LifecycleError η × Coordinator η × ω :=
  match c.held with
  | none => c.replace p w
  | some h =>
    if p.isInitialized h w then (.ok h, c, w)
    else match p.dispose h w with
      | (.ok (), w) => c.replace p w
      | (.error e, w) => (.error (c.failure .dispose e), { c with held := none }, w)

/-- Runs the listener `h` if it does not run. -/
def run (p : Provider ω η) (h : η) (c : Coordinator η) (w : ω) :
    Except LifecycleError Unit × Coordinator η × ω :=
  if p.isRunning h w then (.ok (), c, w)
  else match p.start h w with
    | (.ok (), h, w) => (.ok (), { c with held := some h }, w)
    | (.error e, h, w) => (.error (c.failure .start e), { c with held := some h }, w)

/-- Records a subscriber. The first one brings the listener up; if that fails, it stays
recorded. -/
def subscribe (p : Provider ω η) (id : String) (c : Coordinator η) (w : ω) :
    Except LifecycleError Unit × Coordinator η × ω :=
  let joined := { c with members := c.members.insert id }
  if c.members.isEmpty then
    match joined.ensure p w with
    | (.ok h, c, w) => c.run p h w
    | (.error e, c, w) => (.error e, c, w)
  else (.ok (), joined, w)

/-- Stops the held listener if it runs. -/
def halt (p : Provider ω η) (c : Coordinator η) (w : ω) :
    Except LifecycleError Unit × Coordinator η × ω :=
  match c.held with
  | none => (.ok (), c, w)
  | some h =>
    if p.isRunning h w then
      match p.stop h w with
      | (.ok (), h, w) => (.ok (), { c with held := some h }, w)
      | (.error e, h, w) => (.error (c.failure .stop e), { c with held := some h }, w)
    else (.ok (), c, w)

/-- Forgets a subscriber. The last one to leave stops the listener. -/
def unsubscribe (p : Provider ω η) (id : String) (c : Coordinator η) (w : ω) :
    Except LifecycleError Unit × Coordinator η × ω :=
  if c.members.contains id then
    let left := { c with members := c.members.erase id }
    if left.members.isEmpty then left.halt p w else (.ok (), left, w)
  else (.ok (), c, w)

/-- Makes sure that the listener is initialized. -/
def start (p : Provider ω η) (c : Coordinator η) (w : ω) :
    Except LifecycleError Unit × Coordinator η × ω :=
  match c.ensure p w with
  | (.ok _, c, w) => (.ok (), c, w)
  | (.error e, c, w) => (.error e, c, w)

/-- Stops and disposes of the listener, whoever is subscribed. It is disposed of even if it could
not be stopped; the first failure is reported. -/
def stop (p : Provider ω η) (c : Coordinator η) (w : ω) :
    Except LifecycleError Unit × Coordinator η × ω :=
  match c.held with
  | none => (.ok (), c, w)
  | some h =>
    let (halted, h, w) := if p.isRunning h w then p.stop h w else (.ok (), h, w)
    let (disposed, w) := p.dispose h w
    let c := { c with held := none }
    match halted, disposed with
    | .error e, _ => (.error (c.failure .stop e), c, w)
    | .ok (), .error e => (.error (c.failure .dispose e), c, w)
    | .ok (), .ok () => (.ok (), c, w)

/-- The coordinator shown as a record. -/
def inspect (p : Provider ω η) (c : Coordinator η) (w : ω) : String :=
  Text.braced "SubscriptionLifecycleCoordinator"
    [("destination", Text.quoted c.destination), ("subscribers", toString c.subscriberCount),
      ("state", (c.state p w).title)]

end Coordinator

end Switchboard
