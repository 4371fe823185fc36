import Switchboard.Journal.Event
import Switchboard.Listener

/-!
# Forwarding

The tasks of running listeners hand the messages of their slots to a sink. A task forwards at
most one batch before the next one gets its turn, waits on its channel when nothing is left, and
ends when its slot is empty. A sink may itself stop listeners, also the one it was called by.
-/

namespace Switchboard

/-- A state in which listeners forward messages: a hub, listeners found by their tasks, and the
sink that takes the messages. -/
class Forwards (σ : Type) extends Journaled σ where
  hub : σ → Hub
  setHub : Hub → σ → σ
  /-- The listener whose task is the given one. -/
  listener? : Nat → σ → Option Listener
  /-- Puts the listener of a task back. -/
  setListener : Nat → Listener → σ → σ
  /-- The sink: takes a message of a destination. -/
  deliver : String → Message → σ → σ

/-- How a run of a task over its slot ends. -/
inductive Drained
  /-- Nothing is left for now. -/
  | empty
  /-- The batch was used up. -/
  | more
  /-- The slot is empty. -/
  | detached
deriving DecidableEq, Repr

namespace Forwarding

variable {σ : Type} [Forwards σ]

/-- Messages forwarded before the next task gets its turn. -/
def batchSize : Nat := 64

def event (level : Level) (message destination : String) (more : Fields := []) : Event where
  level := level
  target := "flexlink::adapter::listener"
  message := message
  fields := ("destination", .rendered destination) :: more

/-- Looks into the slot of `task`. -/
def pull (task : Nat) (s : σ) : Pull × σ :=
  match Forwards.listener? task s with
  | none => (.detached, s)
  | some l =>
    let (got, l, h) := l.pull (Forwards.hub s)
    (got, Forwards.setListener task l (Forwards.setHub h s))

/-- Forwards up to `n` messages of `task`, which serves `destination`. -/
def drain (task : Nat) (destination : String) : Nat → σ → Drained × σ
  | 0, s => (.more, s)
  | n + 1, s =>
    match pull task s with
    | (.message m, s) => drain task destination n (Forwards.deliver destination m s)
    | (.lagged skipped, s) =>
      drain task destination n (Journaled.record
        (event .warn "channel listener lagged" destination [("skipped", .number skipped)]) s)
    | (.empty, s) => (.empty, s)
    | (.closed, s) =>
      (.detached, Journaled.record (event .debug "backing channel closed" destination) s)
    | (.detached, s) => (.detached, s)

/-- Marks that the task of `l` has run, which is logged the first time. -/
def begin (task : Nat) (l : Listener) (s : σ) : σ :=
  if l.begun then s
  else Journaled.record (event .debug "channel listener running" l.destination)
    (Forwards.setListener task { l with begun := true } s)

/-- Gives the task of `l` its turn. -/
def turn (task : Nat) (l : Listener) (s : σ) : σ :=
  match drain task l.destination batchSize (begin task l s) with
  | (.detached, s) =>
    Journaled.record (event .debug "channel listener detached" l.destination) s
  | (.more, s) =>
    let h := Forwards.hub s
    Forwards.setHub { h with ready := h.ready ++ [task] } s
  | (.empty, s) =>
    match l.slot with
    | none => s
    | some sub => Forwards.setHub ((Forwards.hub s).wait task sub.channel) s

/-- Runs the first task that is ready. Gives nothing if none is. -/
def step? (s : σ) : Option σ :=
  match (Forwards.hub s).nextReady? with
  | none => none
  | some (task, h) =>
    let s := Forwards.setHub h s
    match Forwards.listener? task s with
    | none => some s
    | some l => some (turn task l s)

/-- Runs up to `n` turns. -/
def runFor : Nat → σ → σ
  | 0, s => s
  | n + 1, s =>
    match step? s with
    | none => s
    | some s => runFor n s

/-- The messages that wait in any inbox of the hub, with the readers still to be told of a gap. -/
def backlog (h : Hub) : Nat :=
  h.channels.toList.foldl
    (fun n c => c.2.inboxes.toList.foldl (fun n i => n + i.2.pending.length + 1) n) 0

/-- Runs the tasks until none is ready. Every turn either takes a task off the ready ones or
uses up a batch. -/
def settle (s : σ) : σ :=
  let h := Forwards.hub s
  runFor (h.ready.length + backlog h) s

end Forwarding

end Switchboard
