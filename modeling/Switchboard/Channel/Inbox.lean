import Switchboard.Message

/-!
# Inboxes

Each subscription has an inbox of bounded size. A full inbox forgets its oldest message for each
new one and counts what it forgot; its reader is told once how many messages it missed and goes on
with the oldest one kept.
-/

namespace Switchboard

structure Inbox where
  /-- The messages kept, oldest first. -/
  pending : List Message := []
  /-- The messages forgotten since the reader was last told. -/
  skipped : Nat := 0

/-- What a reader finds. -/
inductive Received
  | message (m : Message)
  /-- So many messages were forgotten before they were read. -/
  | lagged (skipped : Nat)
  | empty
  /-- Nothing is left and nobody can send any more. -/
  | closed

namespace Inbox

/-- The messages sent since the reader's position, kept or not. -/
def outstanding (i : Inbox) : Nat :=
  i.skipped + i.pending.length

/-- `i` after one more message, where at most `slots` are kept. -/
def push (slots : Nat) (m : Message) (i : Inbox) : Inbox :=
  if i.pending.length < slots then { i with pending := i.pending ++ [m] }
  else { pending := (i.pending ++ [m]).tail, skipped := i.skipped + 1 }

/-- Reads once. `live` says whether anybody can still send. -/
def take (live : Bool) (i : Inbox) : Received × Inbox :=
  if 0 < i.skipped then (.lagged i.skipped, { i with skipped := 0 })
  else match i.pending with
    | m :: rest => (.message m, { i with pending := rest })
    | [] => (if live then .empty else .closed, i)

end Inbox

/-- The texts of the ends of a read. -/
def Received.text? : Received → Option String
  | message _ => none
  | lagged n => some ("receiver lagged behind by " ++ toString n ++ " messages")
  | empty => some "no messages available"
  | closed => some "channel is closed"

end Switchboard
