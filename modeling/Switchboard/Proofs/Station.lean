import Switchboard.Proofs.Channel.Readers
import Switchboard.Proofs.Forwarding
import Switchboard.Proofs.Listener

/-!
# One listener at work

A station is a hub with the listener of one destination. Others use the hub as they like, and the
sink that takes what the listener forwards may do so too, or operate the listener, while it is
called. A station notices what happens to its listener.
-/

namespace Switchboard

/-- How many messages a report says were missed. -/
def Event.skipped (e : Event) : Nat :=
  match e.fields.lookup "skipped" with
  | some (.number n) => n
  | _ => 0

/-- What a station notices: that the listener starts to read a subscription and that it does so no
more, which messages are sent into the channel it reads, what the sink is given, and what is
logged. -/
inductive Notice
  | started (sub : Subscription)
  | stopped
  | sent (m : Message)
  | given (destination : String) (m : Message)
  | logged (e : Event)

abbrev Timeline := List Notice

namespace Notice

/-- What there is to notice about the slot of a listener. -/
def ofSlot : Option Subscription → Option Subscription → Timeline
  | none, some sub => [started sub]
  | some _, none => [stopped]
  | _, _ => []

@[simp]
theorem ofSlot_self (slot : Option Subscription) : ofSlot slot slot = [] := by
  cases slot <;> rfl

def sent? : Notice → Option Message
  | sent m => some m
  | _ => none

def given? : Notice → Option Message
  | given _ m => some m
  | _ => none

/-- How many of the messages sent so far are read or missed with it. -/
def passes : Notice → Nat
  | given .. => 1
  | logged e => e.skipped
  | _ => 0

/-- What the listener reads after one more notice, and what was noticed since it started to. -/
def follow : Option (Subscription × Timeline) → Notice → Option (Subscription × Timeline)
  | _, started sub => some (sub, [])
  | _, stopped => none
  | current, n => current.map fun c => (c.1, c.2 ++ [n])

end Notice

namespace Timeline

/-- The subscription that the listener reads, and what was noticed since it started to. -/
def underway (t : Timeline) : Option (Subscription × Timeline) :=
  t.foldl Notice.follow none

def sent (t : Timeline) : List Message :=
  t.filterMap Notice.sent?

def given (t : Timeline) : List Message :=
  t.filterMap Notice.given?

/-- The messages given and those reported missed, counted together. -/
def passed (t : Timeline) : Nat :=
  (t.map Notice.passes).sum

end Timeline

/-- What is done to a listener from outside. -/
inductive Station.Operation
  | acquire
  | start
  | stop
  | dispose

inductive Station.Move
  | operate (op : Station.Operation)
  | traffic (move : Traffic)

structure Station (ε : Type) where
  hub : Hub
  channel : String
  destination : String
  handle : Option Listener := none
  guests : Guests := {}
  extra : ε
  timeline : Timeline := []
  /-- Takes a message of a destination and answers with moves. -/
  sink : String → Message → ε → List Station.Move × ε

namespace Station

variable {ε : Type}

def slot? (p : Station ε) : Option Subscription :=
  p.handle.bind Listener.slot

def note (p : Station ε) (news : Timeline) : Station ε :=
  { p with timeline := p.timeline ++ news }

/-- Puts `handle` and `h` in place of the listener and the hub. -/
def seat (handle : Option Listener) (h : Hub) (p : Station ε) : Station ε :=
  { p with hub := h, handle }.note (Notice.ofSlot p.slot? (handle.bind Listener.slot))

/-- The listener, if there is one, and the hub after an operation. -/
def Operation.run (op : Operation) (provider : Provider Hub Listener) (handle : Option Listener)
    (h : Hub) : Option Listener × Hub :=
  match op, handle with
  | acquire, none =>
    let (made, h) := provider.acquire h
    (made.toOption, h)
  | start, some l =>
    let (_, l, h) := provider.start l h
    (some l, h)
  | stop, some l =>
    let (_, l, h) := provider.stop l h
    (some l, h)
  | dispose, some l => (none, (provider.dispose l h).2)
  | _, handle => (handle, h)

/-- What `move` sends into the channel that the listener reads. -/
def sends (p : Station ε) (move : Traffic) : List Message :=
  p.slot?.elim [] fun sub => move.sends sub.channel (p.hub, p.guests)

def Move.run : Move → Station ε → Station ε
  | operate op, p =>
    let (handle, h) := op.run (Listener.provider p.channel p.destination) p.handle p.hub
    p.seat handle h
  | traffic move, p =>
    let (hub, guests) := move.step (p.hub, p.guests)
    { p with hub, guests }.note ((p.sends move).map .sent)

instance : Journaled (Station ε) where
  record e p := p.note [.logged e]

instance : Forwards (Station ε) where
  hub p := p.hub
  setHub h p := { p with hub := h }
  listener? task p := p.handle.filter fun l => l.task = some task
  setListener _ l p := p.seat (some l) p.hub
  deliver destination m p :=
    let (moves, extra) := p.sink destination m p.extra
    moves.foldl (fun p move => move.run p) ({ p with extra }.note [.given destination m])

inductive Happening
  | move (m : Move)
  | forward
  /-- A task forwards up to so many messages, whoever's turn it is. -/
  | flush (task messages : Nat)

def step (p : Station ε) : Happening → Station ε
  | .move m => m.run p
  | .forward => Forwarding.advance p
  | .flush task messages => Forwarding.flush task messages p

def run (happenings : List Happening) (p : Station ε) : Station ε :=
  happenings.foldl step p

/-- A station on an empty hub, which has yet to make its listener. -/
def fresh (capacity : Nat) (channel destination : String) (extra : ε)
    (sink : String → Message → ε → List Move × ε) : Station ε where
  hub := Hub.ofCapacity capacity
  channel
  destination
  extra
  sink

end Station

end Switchboard
