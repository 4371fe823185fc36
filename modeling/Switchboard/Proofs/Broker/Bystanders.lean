import Switchboard.Proofs.Broker.Orderly
import Switchboard.Proofs.Exchange.Bystanders

/-!
# Clients keep out of each other's way

Over every run of any broker whose adapters are new, what is done in the name of one client spares
all others (`run_spares`), also in the middle of a delivery and in the middle of a task's turn.
-/

namespace Switchboard

/-- Nobody has used the adapters. -/
def Registry.Fresh {ε : Type} (registry : Registry ChannelAdapter ε) : Prop :=
  ∀ {id a}, registry.get? id = some (.messaging a) →
    a.coordinator.members = ∅ ∧ a.coordinator.held = none

namespace Exchange.Core

variable {ε : Type} {k : Core ε} {g : Guests}

/-- The hub counts what is held, the tables agree, and no two clients share a mailbox. -/
@[mk_iff]
structure Regular (g : Guests) (k : Core ε) : Prop where
  solvent : k.Solvent g
  aligned : k.Aligned
  separate : k.delivery.Separate

theorem Regular.stable : Stable (Regular g (ε := ε)) := by
  have all := (Solvent.stable (g := g) (ε := ε)).and (aligned_stable.and separate_stable)
  simpa only [← regular_iff] using all

theorem Regular.offers (regular : k.Regular g) (destination : String) (m : Message)
    (front : List String) : (front.foldl (offer destination m) k).Regular g :=
  List.foldlRecOn front (offer destination m) regular fun _ regular client _ =>
    offer_induction destination m Regular.stable.tables Regular.stable.depart regular client

end Exchange.Core

namespace Deployment

variable {ε : Type} {d : Deployment ε}

theorem step_solvent (provided : ∀ stage ∈ d.broker.chain, stage.Leaves Exchange.core)
    (solvent : d.broker.exchange.core.Solvent d.guests) (move : Move) :
    (d.step move).broker.exchange.core.Solvent (d.step move).guests := by
  cases move with
  | stop =>
    change d.broker.stop.2.exchange.core.Solvent d.guests
    rw [Broker.core_stop]
    exact solvent.operateAll _ _
  | guest move => exact Sound.guests solvent move
  | _ =>
    exact step_keeps Exchange.Core.Solvent.stable provided trivial solvent
      (fun _ => solvent.withDelivery _) solvent.dispatch (fun ids => solvent.operateAll .start ids)

theorem step_regular (provided : ∀ stage ∈ d.broker.chain, stage.Leaves Exchange.core)
    (regular : d.broker.exchange.core.Regular d.guests) (move : Move) :
    (d.step move).broker.exchange.core.Regular (d.step move).guests where
  solvent := step_solvent provided regular.solvent move
  aligned := (step_aligned ⟨regular.aligned, provided⟩ move).core
  separate := step_separate provided regular.separate move

theorem run_regular (moves : List Move) : ∀ {d : Deployment ε},
    (∀ stage ∈ d.broker.chain, stage.Leaves Exchange.core) →
      d.broker.exchange.core.Regular d.guests →
        (d.run moves).broker.exchange.core.Regular (d.run moves).guests := by
  induction moves with
  | nil =>
    intro d provided regular
    exact regular
  | cons move rest ih =>
    intro d provided regular
    exact ih (by rwa [chain_step]) (step_regular provided regular move)

theorem ofRegistry_regular {chain : Chain (Exchange ChannelAdapter ε)}
    {registry : Registry ChannelAdapter ε}
    (provided : ∀ stage ∈ chain, stage.Leaves Exchange.core) (fresh : registry.Fresh)
    (capacity : Nat) (extra : ε) :
    (Broker.ofRegistry chain registry
      { hub := Hub.ofCapacity capacity, extra }).exchange.core.Regular {} where
  solvent := by
    refine Sound.of_idle ?_ (Hub.balanced_ofCapacity capacity)
    intro a member
    obtain ⟨id, there⟩ := Exchange.Core.mem_adapters.mp member
    exact (fresh (Exchange.get?_of_adapter? there)).2
  aligned := (ofRegistry_aligned provided (fun there => (fresh there).1) _ {}).core
  separate := by
    refine ⟨?_, ?_⟩
    · intro client other mailbox outbox
      cases outbox
    · intro client mailbox outbox
      cases outbox

/-- Over every run, whatever is done in the name of a client and however it ends, any other client
keeps its outbox and what waits there, its routes and its subscriptions, and the destinations it is
routed to keep their state. So it is when the client connects, when it disconnects, when its request
is answered, and when a delivery finds its mailbox shut, wherever tasks have got to by then: what
they come by is `Forwarding.Passes`, and a turn ends there (`Forwarding.advance_passes`). -/
theorem run_spares {chain : Chain (Exchange ChannelAdapter ε)}
    {registry : Registry ChannelAdapter ε}
    (provided : ∀ stage ∈ chain, stage.Leaves Exchange.core) (fresh : registry.Fresh)
    (capacity : Nat) (extra : ε) (moves : List Move) {client other : String}
    (differs : other ≠ client) :
    let b := (run moves ⟨Broker.ofRegistry chain registry
      { hub := Hub.ofCapacity capacity, extra }, {}⟩).broker
    b.exchange.core.Spares other (b.connect client).2.exchange.core ∧
      b.exchange.core.Spares other (b.disconnect client).2.exchange.core ∧
      (∀ request, request.client = client →
        b.exchange.core.Spares other ((Exchange.dispatch request).exec b.exchange).2.core) ∧
      ∀ x, Forwarding.Passes b.exchange x → ∀ destination m,
        (Exchange.deliver destination m x).core = (x.delivery.routesOf destination).foldl
          (Exchange.Core.offer destination m) x.core ∧
        ∀ front : List String,
          let k := front.foldl (Exchange.Core.offer destination m) x.core
          k.Spares other (k.offer destination m client) := by
  intro b
  have regular := run_regular moves (d := ⟨Broker.ofRegistry chain registry
    { hub := Hub.ofCapacity capacity, extra }, {}⟩) provided
    (ofRegistry_regular provided fresh capacity extra)
  have enlisted := regular.aligned.enlisted other
  refine ⟨Exchange.Core.spares_connect regular.separate differs, ?_, ?_, ?_⟩
  · rw [Broker.core_disconnect]
    exact Exchange.Core.spares_depart regular.solvent enlisted differs
  · rintro request rfl
    rw [Exchange.core_dispatch]
    exact Exchange.Core.spares_dispatch regular.solvent enlisted differs
  · intro x passes destination m
    refine ⟨?_, ?_⟩
    · rw [Exchange.core_deliver, Exchange.Core.deliver_eq_foldl]
      rfl
    · intro front k
      have now := (passes.keeps Exchange.Core.Regular.stable.forwarding regular).offers
        destination m front
      exact Exchange.Core.spares_offer now.solvent (now.aligned.enlisted other) now.separate
        differs destination m

/-- The second subscriber of a destination loses nothing when the first one disconnects. -/
theorem run_spares_subscriber :
    let registry : Registry ChannelAdapter Unit :=
      ({} : Registry ChannelAdapter Unit).setAdapter "quotes" (.ofChannel "quotes" "ticks")
    let subscribe (client : String) : Move :=
      .handle { client, destination := "quotes", body := .subscribe }
    let m : Message := { id := ⟨7⟩, destination := "quotes", body := [1], timestamp := 0 }
    let b := (run [.connect "A", .connect "B", subscribe "A", subscribe "B", .deliver "quotes" m]
      ⟨Broker.ofRegistry [.conversion [.maskServerErrors], .authorization {}] registry
        { hub := Hub.ofCapacity 4, extra := () }, {}⟩).broker
    let x := (b.disconnect "A").2.exchange
    x.delivery.isRouted "quotes" "B" = true ∧ x.delivery.pending 1 = [m] ∧
      ∃ a, x.core.adapter? "quotes" = some a ∧ a.state x.site.hub = .running := by
  intro registry subscribe m
  have fresh : registry.Fresh := by
    intro id a there
    simp only [registry, Registry.get?, Registry.setAdapter, Std.ExtTreeMap.getElem?_insert]
      at there
    split at there
    · cases there
      exact ⟨rfl, rfl⟩
    · simp at there
  have differs : "B" ≠ "A" := by decide
  have spares := (run_spares (assembled_leaves {}) fresh 4 () [.connect "A", .connect "B",
    subscribe "A", subscribe "B", .deliver "quotes" m] differs).2.1
  generalize reached : (run _ _).broker = b at spares ⊢
  have outbox : b.exchange.delivery.outboxes["B"]? = some 1 := by
    rw [← reached]
    decide +kernel
  have waiting : b.exchange.delivery.pending 1 = [m] := by
    rw [← reached]
    decide +kernel
  have routed : b.exchange.delivery.isRouted "quotes" "B" = true := by
    rw [← reached]
    decide +kernel
  have running : (b.exchange.core.adapter? "quotes").map (·.state b.exchange.site.hub) =
      some .running := by
    rw [← reached]
    decide +kernel
  obtain ⟨a, there, state⟩ := Option.map_eq_some_iff.mp running
  obtain ⟨a', there', -, state'⟩ := spares.state there routed
  exact ⟨(spares.routed "quotes").trans routed,
    (Delivery.pending_congr (spares.mailbox outbox)).trans waiting, a', there', state'.trans state⟩

end Deployment

end Switchboard
