import Switchboard.Proofs.Broker.Accounts
import Switchboard.Proofs.Exchange.Closed

/-!
# A shutdown is final

Shutting the broker of some settings down always succeeds. Whatever clients, the application, the
tasks and the guests do afterwards, no adapter gets a listener and no channel is opened again, and
unless somebody hands a message to the delivery directly, no mailbox receives one, not even one that
was queued before (`shutdown_final`).
-/

namespace Switchboard

namespace Broker

variable {ε : Type} (b : Broker ChannelAdapter ε)

theorem shutdown_ok : b.shutdown.1 = .ok () :=
  Exchange.onEach_stop_ok b.exchange.messagingIds b.exchange

theorem shutdown_closed : b.shutdown.2.exchange.core.Closed := by
  have stopped := b.core_stop
  refine ⟨Hub.down_shutdown b.stop.2.exchange.site.hub, ?_⟩
  intro id a there
  have left : b.stop.2.exchange.core.adapter? id = some a := there
  rw [stopped] at left
  refine Exchange.Core.idle_of_stopAll _ ?_ left
  intro id a found
  exact Or.inl (Exchange.mem_messagingIds_iff.mpr (Option.isSome_of_eq_some found))

variable {b : Broker ChannelAdapter ε}

theorem start_refused (closed : b.exchange.core.Closed) {id : String} {a : ChannelAdapter}
    (there : b.exchange.core.adapter? id = some a) : ∃ f, b.start.1 = .error f := by
  rw [b.start_left.1]
  have listed := Exchange.mem_messagingIds_iff.mpr (Option.isSome_of_eq_some there)
  cases named : b.exchange.messagingIds with
  | nil =>
    rw [named] at listed
    cases listed
  | cons first rest =>
    have known : first ∈ b.exchange.messagingIds := named ▸ List.mem_cons_self
    obtain ⟨a', found⟩ := Option.isSome_iff_exists.mp (Exchange.mem_messagingIds_iff.mp known)
    exact Exchange.start_refused closed found rest

end Broker

namespace Deployment

variable {ε : Type}

/-- The broker is shut down, and the guests keep what they hold. -/
def shutdown (d : Deployment ε) : Deployment ε :=
  { d with broker := d.broker.shutdown.2 }

def Move.Delivers : Move → Prop
  | deliver _ _ => True
  | _ => False

variable {d : Deployment ε} {move : Move}

/-- The exchange is closed, and the chain keeps to itself. -/
structure Closed (d : Deployment ε) : Prop where
  core : d.broker.exchange.core.Closed
  provided : ∀ stage ∈ d.broker.chain, stage.Leaves Exchange.core

theorem step_closed (closed : d.Closed) (move : Move) : (d.step move).Closed := by
  obtain ⟨core, provided⟩ := closed
  refine ⟨?_, by rwa [chain_step]⟩
  cases move with
  | stop =>
    change d.broker.stop.2.exchange.core.Closed
    rw [Broker.core_stop]
    exact core.operateAll _ _
  | guest move => exact ⟨Guests.run_down core.down move, core.idle⟩
  | _ =>
    exact step_keeps Exchange.Core.Closed.stable provided trivial core
      (fun _ => core.withDelivery _) core.dispatch (fun ids => core.operateAll .start ids)

/-- Nothing reaches a mailbox, unless it is handed to the delivery directly. -/
theorem step_quiet (closed : d.Closed) (spared : ¬ move.Delivers) :
    d.broker.exchange.delivery.Quiet (d.step move).broker.exchange.delivery := by
  obtain ⟨core, provided⟩ := closed
  cases move with
  | connect client => exact Delivery.quiet_connect _ client
  | disconnect client =>
    change Delivery.Quiet _ (d.broker.disconnect client).2.exchange.core.delivery
    rw [Broker.core_disconnect]
    exact Exchange.Core.depart_quiet d.broker.exchange.core client
  | handle request =>
    change Delivery.Quiet _ (d.broker.handle request).2.exchange.core.delivery
    rcases Broker.core_handle provided request with same | ⟨request', answered⟩
    · rw [same]
      exact .refl _
    · rw [answered]
      exact Exchange.Core.dispatch_quiet d.broker.exchange.core request'
  | start =>
    obtain ⟨front, -, started⟩ := d.broker.core_start
    change Delivery.Quiet _ d.broker.start.2.exchange.core.delivery
    rw [started, Exchange.Core.delivery_operateAll]
    exact .refl _
  | stop =>
    change Delivery.Quiet _ d.broker.stop.2.exchange.core.delivery
    rw [Broker.core_stop, Exchange.Core.delivery_operateAll]
    exact .refl _
  | deliver destination m => exact absurd trivial spared
  | readMailbox mailbox => exact Delivery.quiet_receive _ mailbox
  | closeMailbox mailbox => exact Delivery.quiet_closeMailbox _ mailbox
  | dropMailbox mailbox => exact Delivery.quiet_dropMailbox _ mailbox
  | forward =>
    change Delivery.Quiet _ (Forwarding.advance d.broker.exchange).delivery
    rw [Exchange.delivery_advance core]
    exact .refl _
  | flush task messages =>
    change Delivery.Quiet _ (Forwarding.flush task messages d.broker.exchange).delivery
    rw [Exchange.flush_of_closed core]
    exact .refl _
  | guest move => exact .refl _

theorem run_closed (moves : List Move) : ∀ {d : Deployment ε}, d.Closed → (d.run moves).Closed := by
  induction moves with
  | nil =>
    intro d closed
    exact closed
  | cons move rest ih =>
    intro d closed
    exact ih (step_closed closed move)

theorem run_quiet (moves : List Move) (spared : ∀ move ∈ moves, ¬ move.Delivers) :
    ∀ {d : Deployment ε}, d.Closed →
      d.broker.exchange.delivery.Quiet (d.run moves).broker.exchange.delivery := by
  induction moves with
  | nil =>
    intro d closed
    exact .refl _
  | cons move rest ih =>
    intro d closed
    have first := step_quiet closed (spared move List.mem_cons_self)
    have later : ∀ other ∈ rest, ¬ other.Delivers :=
      fun other member => spared other (List.mem_cons_of_mem move member)
    exact first.trans (ih later (step_closed closed move))

/-- Over every run of the broker that settings describe, a shutdown succeeds. Whatever is done
afterwards, except for messages handed to the delivery directly: the adapters stay uninitialized, no
channel is registered, none can be opened or subscribed to, an accepted message reaches nobody, the
broker cannot be started again if it has destinations, and no mailbox receives anything more. -/
theorem shutdown_final {settings : Settings} {journal : Journal} {b : Broker ChannelAdapter Unit}
    (built : Assembly.build settings journal = .ok b) (moves : List Move) :
    let d := run moves ⟨b, {}⟩
    d.broker.shutdown.1 = .ok () ∧
      ∀ later : List Move, (∀ move ∈ later, ¬ move.Delivers) →
        let e := d.shutdown.run later
        let x := e.broker.exchange
        (∀ c ∈ settings.destinations, ∃ a, x.registry.get? c.id = some (.messaging a)) ∧
          (∀ id a, x.registry.get? id = some (.messaging a) →
            a.state x.site.hub = .uninitialized) ∧
          (∀ name, x.site.hub.contains name = false ∧
            (∃ reason, (x.site.hub.openChannel name).1 = .error (.unavailable reason)) ∧
            ∃ reason, (x.site.hub.subscribe name).1 = .error (.unavailable reason)) ∧
          (∀ request m response, request.body = .publish m →
            (e.broker.handle request).1 = .ok response → response = .published 0) ∧
          (settings.destinations ≠ [] → ∃ f, e.broker.start.1 = .error f) ∧
          x.delivery.deliveredCount = d.broker.exchange.delivery.deliveredCount ∧
          ∀ mailbox, x.delivery.pending mailbox <:+ d.broker.exchange.delivery.pending mailbox := by
  intro d
  refine ⟨d.broker.shutdown_ok, ?_⟩
  intro later spared e x
  -- a shutdown is two moves, so what holds over every run holds over this one
  have whole : e = run (moves ++ [.stop, .guest .shutdown] ++ later) ⟨b, {}⟩ := by
    rw [run, List.foldl_append, List.foldl_append]
    rfl
  obtain ⟨⟨rules, chain⟩, audited⟩ :=
    run_audited built (moves ++ [.stop, .guest .shutdown] ++ later)
  rw [← whole] at chain audited
  have provided : ∀ stage ∈ d.shutdown.broker.chain, stage.Leaves Exchange.core := by
    obtain ⟨⟨rules, chain⟩, -⟩ := run_audited built moves
    exact (show d.shutdown.broker.chain = _ from chain) ▸ assembled_leaves rules
  have shut : d.shutdown.Closed := ⟨d.broker.shutdown_closed, provided⟩
  have closed : x.core.Closed := (run_closed later shut).core
  have quiet : d.broker.exchange.delivery.Quiet x.delivery := by
    have stopped : d.shutdown.broker.exchange.core.delivery = d.broker.exchange.delivery := by
      change d.broker.stop.2.exchange.core.delivery = _
      rw [Broker.core_stop, Exchange.Core.delivery_operateAll]
      rfl
    exact stopped ▸ run_quiet later spared shut
  have there {c} (asked : c ∈ settings.destinations) : ∃ a, x.core.adapter? c.id = some a := by
    obtain ⟨a, found, -⟩ := adapter_of_audited built audited asked
    exact ⟨a, found⟩
  refine ⟨?_, ?_, ?_, ?_, ?_, quiet.delivered, quiet.pending⟩
  · intro c asked
    obtain ⟨a, found⟩ := there asked
    exact ⟨a, Exchange.get?_of_adapter? found⟩
  · intro id a found
    have idle := closed.idle (Exchange.adapter?_of_get? found)
    rw [ChannelAdapter.state, Coordinator.state_of_free idle]
  · intro name
    obtain ⟨reason, unopened⟩ := closed.down.openChannel name
    obtain ⟨reason', unsubscribed⟩ := closed.down.subscribe name
    refine ⟨?_, ⟨reason, congrArg Prod.fst unopened⟩, reason', congrArg Prod.fst unsubscribed⟩
    have free : x.site.hub.names[name]? = none := closed.down.free name
    rw [Hub.contains, Std.ExtTreeMap.contains_eq_isSome_getElem?, free]
    rfl
  · intro request m response publishes answered
    obtain ⟨a, -, published, -⟩ := Broker.publish_ok chain publishes answered
    have nobody := closed.down.publish a.channel (m.sentTo a.destination)
    rw [published]
    exact congrArg Response.published nobody
  · intro asked
    obtain ⟨c, member⟩ := List.exists_mem_of_ne_nil _ asked
    obtain ⟨a, found⟩ := there member
    exact Broker.start_refused closed found

/-- A message that waits for its task is never delivered once the broker is shut down. -/
theorem shutdown_final_with_queue :
    let settings : Settings := { destinations := [{ id := "quotes", channel := some "ticks" }] }
    let m : Message := { id := ⟨7⟩, destination := "quotes", body := [1], timestamp := 0 }
    let subscribe (client : String) : Move :=
      .handle { client, destination := "quotes", body := .subscribe }
    let queued := [.connect "A", subscribe "A",
      .handle { client := "A", destination := "quotes", body := .publish m }]
    let later := [.connect "B", subscribe "B", .forward, .flush 0 1]
    ∃ b, Assembly.build settings = .ok b ∧
      let d : Deployment Unit := run queued ⟨b, {}⟩
      (d.step .forward).broker.exchange.delivery.pending 0 = [m] ∧
        d.broker.shutdown.1 = .ok () ∧
        (d.shutdown.run later).broker.exchange.delivery.pending 0 = [] ∧
        (d.shutdown.run later).broker.exchange.site.hub.contains "ticks" = false := by
  intro settings m subscribe queued later
  let seen (b : Broker ChannelAdapter Unit) :=
    let d : Deployment Unit := run queued ⟨b, {}⟩
    (d.broker.exchange.delivery.pending 0, (d.step .forward).broker.exchange.delivery.pending 0)
  have outcome : (Assembly.build settings).toOption.map seen = some ([], [m]) := by decide +kernel
  obtain ⟨b, there, both⟩ := Option.map_eq_some_iff.mp outcome
  have built := Assembly.build_of_toOption there
  obtain ⟨waiting, forwarded⟩ := Prod.mk.inj both
  have spared : ∀ move ∈ later, ¬ move.Delivers := by simp [later, subscribe, Move.Delivers]
  -- from here on the runs are not to be computed again
  clear_value queued later
  obtain ⟨succeeded, final⟩ := shutdown_final built queued
  obtain ⟨-, -, gone, -, -, -, kept⟩ := final later spared
  have none := kept 0
  rw [waiting] at none
  exact ⟨b, built, forwarded, succeeded, List.suffix_nil.mp none, (gone "ticks").1⟩

end Deployment

end Switchboard
