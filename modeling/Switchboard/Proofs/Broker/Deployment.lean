import Switchboard.Proofs.Chain
import Switchboard.Proofs.Exchange.Forwarding

/-!
# A broker in use

A deployment is a broker together with the guests of its hub. Its moves are all that clients, the
embedding application, the listeners' tasks and the guests may do, one after the other and in any
order. Whether a move fails or not, the routes, the recorded subscribers and the outboxes agree
after it (`run_aligned`).
-/

namespace Switchboard

/-! ### The parts of a broker -/

namespace Broker

variable {ε : Type} (b : Broker ChannelAdapter ε)

theorem disconnect_left (client : String) :
    let x := b.exchange
    let left := (Exchange.onEach (MessagingAdapter.unsubscribe client)
      (x.delivery.disconnect client).1).run (Journaled.record (Exchange.event .debug
        "client disconnected" [("client_id", .text client),
          ("subscriptions", .number (x.delivery.disconnect client).1.length)])
        { x with delivery := (x.delivery.disconnect client).2 })
    b.disconnect client = (left.1, { b with exchange := left.2 }) := rfl

theorem start_left :
    let left :=
      (Exchange.onEachUntil MessagingAdapter.start b.exchange.messagingIds).exec b.exchange
    b.start.1 = left.1 ∧ b.start.2.exchange.core = left.2.core := by
  dsimp only
  rcases started : (Exchange.onEachUntil MessagingAdapter.start b.exchange.messagingIds).exec
    b.exchange with ⟨_ | _, x⟩
  all_goals
    simp [start, act, Attempt.outcome,
      show StateT.run (ExceptT.run (Exchange.onEachUntil _ _)) _ = _ from started]
  rfl

theorem core_disconnect (client : String) :
    (b.disconnect client).2.exchange.core = b.exchange.core.depart client := by
  rw [disconnect_left]
  exact Exchange.core_onEach (ChannelAdapter.unsubscribe_performs client) _ _

theorem core_start : ∃ front, front <+: b.exchange.messagingIds ∧
    b.start.2.exchange.core = b.exchange.core.operateAll .start front := by
  obtain ⟨front, short, started⟩ :=
    Exchange.core_onEachUntil ChannelAdapter.start_performs b.exchange.messagingIds b.exchange
  exact ⟨front, short, b.start_left.2.trans started⟩

theorem core_stop : b.stop.2.exchange.core =
    b.exchange.core.operateAll .stop b.exchange.messagingIds :=
  Exchange.core_onEach ChannelAdapter.stop_performs b.exchange.messagingIds b.exchange

theorem core_handle {b : Broker ChannelAdapter ε}
    (provided : ∀ stage ∈ b.chain, stage.Leaves Exchange.core) (request : Request) :
    (b.handle request).2.exchange.core = b.exchange.core ∨
      ∃ request', (b.handle request).2.exchange.core = b.exchange.core.dispatch request' := by
  have quiet (e : Event) (x : Exchange ChannelAdapter ε) :
      (Journaled.record e x).core = x.core := rfl
  rcases execute_once quiet provided Exchange.dispatch request b.exchange with
    same | ⟨request', x, reached, answered⟩
  · exact Or.inl same
  · rw [Exchange.core_dispatch, reached] at answered
    exact Or.inr ⟨request', answered⟩

/-! ### A broker that masks and authorizes -/

variable {b} {rules : AccessRules}

theorem handle_guarded
    (chain : b.chain = [.conversion [.maskServerErrors], .authorization rules])
    (request : Request) :
    (Converter.guarded [.maskServerErrors] (rules.authorize Exchange.dispatch) request).exec
      b.exchange = ((b.handle request).1, (b.handle request).2.exchange) := by
  rw [handle, chain]
  rfl

theorem outcome_handle (chain : b.chain = [.conversion [.maskServerErrors], .authorization rules])
    (request : Request) : (b.handle request).1 =
      ((rules.authorize Exchange.dispatch request).exec b.exchange).1.mapError
        Failure.disclosed := by
  rw [← exec_masked, handle_guarded chain]

theorem mask_leaves : (Stage.conversion [.maskServerErrors]).Leaves (@Exchange.core ε) := by
  intro c there f x
  rw [List.mem_singleton.mp there]
  rfl

theorem core_handle_eq (chain : b.chain = [.conversion [.maskServerErrors], .authorization rules])
    (request : Request) : (b.handle request).2.exchange.core =
      ((rules.authorize Exchange.dispatch request).exec b.exchange).2.core := by
  rw [← guarded_leaves mask_leaves, handle_guarded chain]

end Broker

/-- The registered adapters have no subscriber yet. -/
def Registry.Vacant {ε : Type} (registry : Registry ChannelAdapter ε) : Prop :=
  ∀ {id a}, registry.get? id = some (.messaging a) → a.coordinator.members = ∅

structure Deployment (ε : Type) where
  broker : Broker ChannelAdapter ε
  guests : Guests := {}

namespace Deployment

variable {ε : Type}

inductive Move
  | connect (client : String)
  | disconnect (client : String)
  | handle (request : Request)
  | start
  | stop
  | deliver (destination : String) (m : Message)
  | readMailbox (mailbox : Nat)
  /-- A client takes no more messages. -/
  | closeMailbox (mailbox : Nat)
  /-- A client throws its mailbox away. -/
  | dropMailbox (mailbox : Nat)
  /-- The first ready task has its turn. -/
  | forward
  /-- A task forwards up to so many messages, whoever's turn it is. -/
  | flush (task messages : Nat)
  | guest (move : Guests.Move)

/-- Changes the exchange, which does not fail. -/
def onExchange (f : Exchange ChannelAdapter ε → Exchange ChannelAdapter ε) (d : Deployment ε) :
    Option Failure × Deployment ε :=
  (none, { d with broker := { d.broker with exchange := f d.broker.exchange } })

def after {α : Type} (d : Deployment ε) (left : Except Failure α × Broker ChannelAdapter ε) :
    Option Failure × Deployment ε :=
  (match left.1 with | .ok _ => none | .error f => some f, { d with broker := left.2 })

/-- The failure that a move reports, if it does, and what it leaves. -/
def perform : Move → Deployment ε → Option Failure × Deployment ε
  | .connect client, d => (none, { d with broker := (d.broker.connect client).2 })
  | .disconnect client, d => d.after (d.broker.disconnect client)
  | .handle request, d => d.after (d.broker.handle request)
  | .start, d => d.after d.broker.start
  | .stop, d => d.after d.broker.stop
  | .deliver destination m, d => d.onExchange (Exchange.deliver destination m)
  | .readMailbox mailbox, d =>
    d.onExchange fun x => { x with delivery := (x.delivery.receive mailbox).2 }
  | .closeMailbox mailbox, d =>
    d.onExchange fun x => { x with delivery := x.delivery.closeMailbox mailbox }
  | .dropMailbox mailbox, d =>
    d.onExchange fun x => { x with delivery := x.delivery.dropMailbox mailbox }
  | .forward, d => d.onExchange Forwarding.advance
  | .flush task messages, d => d.onExchange (Forwarding.flush task messages)
  | .guest move, d =>
    let (hub, guests) := move.run (d.broker.exchange.site.hub, d.guests)
    let (failure, d) := d.onExchange (Forwards.setHub hub)
    (failure, { d with guests })

def step (d : Deployment ε) (move : Move) : Deployment ε :=
  (perform move d).2

def run (moves : List Move) (d : Deployment ε) : Deployment ε :=
  moves.foldl step d

/-- The move is neither a stop nor one of the guests. -/
def Move.Ordinary : Move → Prop
  | stop | guest _ => False
  | _ => True

variable {d : Deployment ε}

/-- An ordinary move opens an outbox, hands a request on, starts some adapters, or does what the
turn of a task may do as well. -/
theorem step_keeps {P : Exchange.Core ε → Prop} (stable : Exchange.Core.Stable P)
    (provided : ∀ stage ∈ d.broker.chain, stage.Leaves Exchange.core) {move : Move}
    (ordinary : move.Ordinary) (holds : P d.broker.exchange.core)
    (connected : ∀ client, P { d.broker.exchange.core with
      delivery := (d.broker.exchange.delivery.connect client).2 })
    (dispatched : ∀ request, P (d.broker.exchange.core.dispatch request))
    (started : ∀ ids, P (d.broker.exchange.core.operateAll .start ids)) :
    P (d.step move).broker.exchange.core := by
  cases move with
  | stop | guest move => exact ordinary.elim
  | connect client => exact connected client
  | disconnect client =>
    change P (d.broker.disconnect client).2.exchange.core
    rw [Broker.core_disconnect]
    exact stable.depart holds client
  | handle request =>
    change P (d.broker.handle request).2.exchange.core
    rcases Broker.core_handle provided request with same | ⟨request', answered⟩
    · exact same ▸ holds
    · exact answered ▸ dispatched request'
  | start =>
    obtain ⟨front, -, same⟩ := d.broker.core_start
    change P d.broker.start.2.exchange.core
    exact same ▸ started front
  | deliver destination m =>
    change P (Exchange.deliver destination m d.broker.exchange).core
    rw [Exchange.core_deliver]
    exact stable.deliver holds destination m
  | readMailbox mailbox => exact stable.tables holds (Delivery.sameTables_receive _ mailbox)
  | closeMailbox mailbox => exact stable.tables holds ⟨rfl, rfl, rfl⟩
  | dropMailbox mailbox => exact stable.tables holds ⟨rfl, rfl, rfl⟩
  | forward => exact Forwarding.advance_stable stable.forwarding holds
  | flush task messages => exact Forwarding.flush_stable stable.forwarding holds task messages

theorem chain_step (move : Move) : (d.step move).broker.chain = d.broker.chain := by
  cases move <;> rfl

/-! ### The tables of a broker in use -/

/-- The tables agree, and the chain keeps to itself. -/
structure Aligned (d : Deployment ε) : Prop where
  core : d.broker.exchange.core.Aligned
  provided : ∀ stage ∈ d.broker.chain, stage.Leaves Exchange.core

theorem step_aligned (aligned : d.Aligned) (move : Move) : (d.step move).Aligned := by
  obtain ⟨core, provided⟩ := aligned
  refine ⟨?_, by rwa [chain_step]⟩
  have still {op : Coordinator.Operation} (same : ∀ members, op.members members = members)
      (ids : List String) : (d.broker.exchange.core.operateAll op ids).Aligned :=
    core.congr (Exchange.Core.delivery_operateAll _ _ _)
      (Exchange.Core.members_operateAll same _ _)
  cases move with
  | stop =>
    change d.broker.stop.2.exchange.core.Aligned
    rw [Broker.core_stop]
    exact still (fun _ => rfl) _
  | guest move => exact core.congr rfl rfl
  | _ =>
    exact step_keeps Exchange.Core.aligned_stable provided trivial core
      (Exchange.Core.connect_aligned core) (Exchange.Core.dispatch_aligned core)
      (still fun _ => rfl)

theorem run_keeps_aligned (moves : List Move) :
    ∀ {d : Deployment ε}, d.Aligned → (d.run moves).Aligned := by
  induction moves with
  | nil =>
    intro d aligned
    exact aligned
  | cons move rest ih =>
    intro d aligned
    exact ih (step_aligned aligned move)

theorem ofRegistry_aligned {chain : Chain (Exchange ChannelAdapter ε)}
    {registry : Registry ChannelAdapter ε}
    (provided : ∀ stage ∈ chain, stage.Leaves Exchange.core) (vacant : registry.Vacant)
    (site : Site ε) (guests : Guests) :
    Aligned ⟨Broker.ofRegistry chain registry site, guests⟩ := by
  have empty (id : String) :
      (Broker.ofRegistry chain registry site).exchange.core.members id = ∅ := by
    unfold Exchange.Core.members
    split
    · rfl
    · rename_i a there
      exact vacant (Exchange.get?_of_adapter? there)
  refine ⟨⟨?_, ?_⟩, provided⟩
  · intro id
    rw [empty]
    rfl
  · intro id client member
    rw [empty] at member
    exact absurd member Std.ExtTreeSet.not_mem_empty

/-- The adapters start without a subscriber, as a fresh delivery has no routes. Over every run, the
clients routed to a messaging destination are the subscribers that its adapter records, and each of
them has an outbox; nothing else has a route, and no destination is kept without a client. -/
theorem run_aligned {chain : Chain (Exchange ChannelAdapter ε)}
    {registry : Registry ChannelAdapter ε}
    (provided : ∀ stage ∈ chain, stage.Leaves Exchange.core) (vacant : registry.Vacant)
    (site : Site ε) (guests : Guests) (moves : List Move) :
    let x := (run moves ⟨Broker.ofRegistry chain registry site, guests⟩).broker.exchange
    (∀ id a, x.registry.get? id = some (.messaging a) →
      x.delivery.routesOf id = a.coordinator.subscribers ∧
        ∀ client ∈ x.delivery.routesOf id, x.delivery.isConnected client = true) ∧
      (∀ id : String, (∀ a, x.registry.get? id ≠ some (.messaging a)) →
        x.delivery.routes[id]? = none) ∧
      ∀ (id : String) (clients), x.delivery.routes[id]? = some clients → clients ≠ ∅ := by
  intro x
  have aligned : x.core.Aligned :=
    (run_keeps_aligned moves (ofRegistry_aligned provided vacant site guests)).core
  refine ⟨?_, ?_, ?_⟩
  · intro id a there
    have recorded := Exchange.Core.members_of_adapter (Exchange.adapter?_of_get? there)
    have routed := aligned.routesOf id
    rw [recorded] at routed
    refine ⟨routed, ?_⟩
    intro client member
    have subscribed : client ∈ x.core.members id := by
      rw [recorded]
      exact Std.ExtTreeSet.mem_toList.mp (routed ▸ member)
    exact aligned.connected subscribed
  · intro id foreign
    have nobody : x.core.members id = ∅ := by
      unfold Exchange.Core.members
      split
      · rfl
      · rename_i a there
        exact absurd (Exchange.get?_of_adapter? there) (foreign a)
    have unrouted := aligned.routes id
    rw [nobody] at unrouted
    exact unrouted
  · intro id clients found empty
    have routed := aligned.routes id
    rw [show x.core.delivery.routes[id]? = some clients from found, Delivery.entry] at routed
    split at routed
    · cases routed
    · rename_i filled
      cases routed
      exact filled (Std.ExtTreeSet.isEmpty_iff.mpr empty)

theorem assembled_leaves (rules : AccessRules) :
    ∀ stage ∈ ([.conversion [.maskServerErrors], .authorization rules] :
      Chain (Exchange ChannelAdapter ε)), stage.Leaves Exchange.core := by
  intro stage member
  rcases List.mem_pair.mp member with rfl | rfl
  · exact Broker.mask_leaves
  · trivial

/-- On a hub that was shut down, a subscription fails and is recorded all the same. -/
theorem run_aligned_after_failure :
    let registry : Registry ChannelAdapter Unit :=
      ({} : Registry ChannelAdapter Unit).setAdapter "quotes" (.ofChannel "quotes" "ticks")
    let x := (run [.guest .shutdown, .connect "A",
        .handle { client := "A", destination := "quotes", body := .subscribe }]
      ⟨Broker.ofRegistry [.conversion [.maskServerErrors], .authorization {}] registry
        { hub := Hub.ofCapacity 4, extra := () }, {}⟩).broker.exchange
    ∃ a, x.registry.get? "quotes" = some (.messaging a) ∧ x.delivery.routesOf "quotes" = ["A"] ∧
      a.coordinator.subscribers = ["A"] ∧ a.state x.site.hub = .uninitialized := by
  intro registry x
  have vacant : registry.Vacant := by
    intro id a there
    simp only [registry, Registry.get?, Registry.setAdapter, Std.ExtTreeMap.getElem?_insert]
      at there
    split at there
    · cases there
      rfl
    · simp at there
  obtain ⟨routed, -, -⟩ := run_aligned (assembled_leaves {}) vacant
    { hub := Hub.ofCapacity 4, extra := () } {} [.guest .shutdown, .connect "A",
      .handle { client := "A", destination := "quotes", body := .subscribe }]
  have state : (x.core.adapter? "quotes").map (·.state x.site.hub) = some .uninitialized := by
    decide +kernel
  have routes : x.delivery.routesOf "quotes" = ["A"] := by decide +kernel
  obtain ⟨a, there, idle⟩ := Option.map_eq_some_iff.mp state
  have found := Exchange.get?_of_adapter? there
  exact ⟨a, found, routes, (routed "quotes" a found).1 ▸ routes, idle⟩

end Deployment

end Switchboard
