import Switchboard.Channel.Inbox

/-!
# Channels

A channel copies each message into the inbox of every live subscription. It stays open while a
sender of it is left. Tasks may wait on it: a message that reached somebody, or its removal, wakes
all that wait.
-/

namespace Switchboard

structure Channel where
  /-- The inboxes of the live subscriptions, by the number of the subscription. -/
  inboxes : Std.ExtTreeMap Nat Inbox := ∅
  /-- How many senders are left. -/
  senders : Nat := 0
  /-- The waiting tasks, the one that waited first in front. -/
  waiting : List Nat := []

namespace Channel

def receiverCount (c : Channel) : Nat :=
  c.inboxes.size

def isOpen (c : Channel) : Bool :=
  0 < c.senders

/-- `c` after `m` was put into every inbox of at most `slots` messages. -/
def broadcast (slots : Nat) (m : Message) (c : Channel) : Channel :=
  { c with inboxes := c.inboxes.map fun _ inbox => inbox.push slots m }

/-- Reads once from the inbox of `subscription`. Without such an inbox nothing can come. -/
def receive (subscription : Nat) (c : Channel) : Received × Channel :=
  match c.inboxes[subscription]? with
  | none => (.closed, c)
  | some inbox =>
    let (got, inbox) := inbox.take c.isOpen
    (got, { c with inboxes := c.inboxes.insert subscription inbox })

end Channel

end Switchboard
