import Switchboard.Proofs.Broker.Accounts
import Switchboard.Proofs.Exchange.Published

/-!
# A broker in order

Over every run of the broker that settings describe, the exchange stays in order: besides its
accounts and its tables, no two clients share a mailbox, and each filled slot has a task of its own
that is ready or waits with nothing left to read (`run_orderly`).
-/

namespace Switchboard

/-! ### The core -/

namespace Exchange.Core

variable {ε : Type} {k : Core ε}

theorem separate_dispatch (separate : k.delivery.Separate) (request : Request) :
    (k.dispatch request).delivery.Separate := by
  unfold dispatch
  split
  · split
    · rw [delivery_operate]
      exact separate.fewer id (Nat.le_refl _)
    · exact separate
  · rw [delivery_operate]
    exact separate.fewer id (Nat.le_refl _)
  · exact separate
  · exact separate

theorem staffed_of_fresh (slots : 0 < k.hub.slots)
    (fresh : ∀ {id a}, k.adapter? id = some a → a.destination = id ∧ a.coordinator.held = none) :
    k.Staffed none where
  named there := (fresh there).1
  staffed there held := by
    rw [(fresh there).2] at held
    cases held
  apart there held := by
    rw [(fresh there).2] at held
    cases held
  slots := slots

end Exchange.Core

theorem Hub.slots_ofCapacity (capacity : Nat) : 0 < (Hub.ofCapacity capacity).slots :=
  Nat.pos_of_isPowerOfTwo (Nat.isPowerOfTwo_nextPowerOfTwo _)

/-! ### All moves -/

namespace Deployment

variable {ε : Type} {d : Deployment ε} {channels : String → Option String}

/-- The exchange is in order, and the chain keeps to itself. -/
structure Orderly (channels : String → Option String) (d : Deployment ε) : Prop where
  core : d.broker.exchange.core.Orderly channels d.guests none
  provided : ∀ stage ∈ d.broker.chain, stage.Leaves Exchange.core

theorem step_separate (provided : ∀ stage ∈ d.broker.chain, stage.Leaves Exchange.core)
    (separate : d.broker.exchange.core.delivery.Separate) (move : Move) :
    (d.step move).broker.exchange.core.delivery.Separate := by
  cases move with
  | stop =>
    change d.broker.stop.2.exchange.core.delivery.Separate
    rw [Broker.core_stop, Exchange.Core.delivery_operateAll]
    exact separate
  | guest move => exact separate
  | _ =>
    refine step_keeps (P := fun k => k.delivery.Separate) Exchange.Core.separate_stable provided
      trivial separate separate.connect (Exchange.Core.separate_dispatch separate) ?_
    intro ids
    rw [Exchange.Core.delivery_operateAll]
    exact separate

theorem step_staffed (orderly : d.Orderly channels) (move : Move) :
    (d.step move).broker.exchange.core.Staffed none := by
  obtain ⟨⟨audited, -, -, staffed⟩, provided⟩ := orderly
  cases move with
  | connect client => exact staffed.withDelivery _
  | disconnect client =>
    change (d.broker.disconnect client).2.exchange.core.Staffed none
    rw [Broker.core_disconnect]
    exact staffed.depart audited client
  | handle request =>
    change (d.broker.handle request).2.exchange.core.Staffed none
    rcases Broker.core_handle provided request with same | ⟨request', answered⟩
    · exact same ▸ staffed
    · exact answered ▸ staffed.dispatch audited request'
  | start =>
    obtain ⟨front, -, same⟩ := d.broker.core_start
    change d.broker.start.2.exchange.core.Staffed none
    exact same ▸ staffed.operateAll audited .start front
  | stop =>
    change d.broker.stop.2.exchange.core.Staffed none
    rw [Broker.core_stop]
    exact staffed.operateAll audited .stop _
  | deliver destination m =>
    change (Exchange.deliver destination m d.broker.exchange).core.Staffed none
    rw [Exchange.core_deliver]
    exact staffed.deliver audited destination m
  | readMailbox mailbox | closeMailbox mailbox | dropMailbox mailbox => exact staffed.withDelivery _
  | forward => exact (Exchange.turn_advance audited staffed).staffed audited staffed
  | flush task messages =>
    change (Forwarding.flush task messages d.broker.exchange).core.Staffed none
    rcases Exchange.flush_drains audited staffed task messages with
      same | ⟨id, sub, outcome, reads, drains⟩
    · exact same ▸ staffed
    · exact (drains.staffed audited staffed).2
  | guest move => exact staffed.tended audited (Guests.run_tends move _ d.guests)

theorem step_orderly (orderly : d.Orderly channels) (move : Move) :
    (d.step move).Orderly channels where
  core := {
    audited := step_audited orderly.provided orderly.core.audited move
    aligned := (step_aligned ⟨orderly.core.aligned, orderly.provided⟩ move).core
    separate := step_separate orderly.provided orderly.core.separate move
    staffed := step_staffed orderly move }
  provided := by
    rw [chain_step]
    exact orderly.provided

theorem run_keeps_orderly (moves : List Move) :
    ∀ {d : Deployment ε}, d.Orderly channels → (d.run moves).Orderly channels := by
  induction moves with
  | nil =>
    intro d orderly
    exact orderly
  | cons move rest ih =>
    intro d orderly
    exact ih (step_orderly orderly move)

/-- Whatever is done to the broker that `settings` describe, its exchange stays in order. -/
theorem run_orderly {settings : Settings} {journal : Journal} {b : Broker ChannelAdapter Unit}
    (built : Assembly.build settings journal = .ok b) (moves : List Move) :
    (run moves ⟨b, {}⟩).Orderly settings.channel? := by
  refine run_keeps_orderly moves ?_
  obtain ⟨-, audited⟩ := run_audited built []
  have got := (Assembly.get?_of_build built).2
  obtain ⟨p, site, rfl, hub, extended⟩ := Assembly.ofRegistry_of_build built
  have healthy := healthy_of_extends hub extended
  refine ⟨⟨audited, healthy.aligned.core, ⟨?_, ?_⟩, ?_⟩, healthy.aligned.provided⟩
  · intro client other mailbox outbox
    cases outbox
  · intro client mailbox outbox
    cases outbox
  · refine Exchange.Core.staffed_of_fresh ?_ ?_
    · change 0 < site.hub.slots
      rw [hub]
      exact Hub.slots_ofCapacity _
    · intro id a there
      have registered := got id
      rw [Exchange.get?_of_adapter? there] at registered
      obtain ⟨c, found, same⟩ := Option.map_eq_some_iff.mp registered.symm
      cases same
      have named : c.id = id := by simpa using List.find?_some found
      exact ⟨named, rfl⟩

end Deployment

end Switchboard
