import Switchboard.Proofs.Assembly
import Switchboard.Proofs.Broker.Deployment
import Switchboard.Proofs.Exchange.Lively

/-!
# Which destinations run

The broker that settings describe, in use: as long as nobody shuts the hub down, the adapter of a
destination runs if and only if clients are routed to it and nothing broke its listener since the
first of them came (`run_running`).
-/

namespace Switchboard

namespace Deployment

variable {ε : Type}

def routed (d : Deployment ε) (id : String) : List String :=
  d.broker.exchange.delivery.routesOf id

/-- The move stops the adapters or closes `channel`. -/
def Move.Breaks (channel : String) : Move → Prop
  | stop => True
  | guest (.close name) => name = channel
  | _ => False

/-- The routes of `id` last went from empty to non-empty at some move of the run, and none of the
moves since then broke a listener of `channel`. -/
def Unbroken (d : Deployment ε) (moves : List Move) (id channel : String) : Prop :=
  ∃ before move since, moves = before ++ move :: since ∧ (d.run before).routed id = [] ∧
    (∀ front, front <+: since → (d.run (before ++ move :: front)).routed id ≠ []) ∧
    ∀ later ∈ since, ¬ later.Breaks channel

variable {d : Deployment ε} {moves : List Move} {move : Move} {id channel : String}

theorem run_append (d : Deployment ε) (moves : List Move) (move : Move) :
    d.run (moves ++ [move]) = (d.run moves).step move := by
  rw [run, List.foldl_append]
  rfl

theorem not_unbroken_nil : ¬ d.Unbroken [] id channel := by
  rintro ⟨before, move, since, split, -⟩
  exact List.append_ne_nil_of_right_ne_nil before (List.cons_ne_nil move since) split.symm

theorem unbroken_append : d.Unbroken (moves ++ [move]) id channel ↔
    (d.run (moves ++ [move])).routed id ≠ [] ∧
      ((d.run moves).routed id = [] ∨ d.Unbroken moves id channel ∧ ¬ move.Breaks channel) := by
  constructor
  · rintro ⟨before, first, since, split, empty, filled, kept⟩
    have now := filled since List.prefix_rfl
    rw [← split] at now
    refine ⟨now, ?_⟩
    rcases List.eq_nil_or_concat since with rfl | ⟨since, last, rfl⟩
    · obtain ⟨rfl, -⟩ := List.append_inj' split rfl
      exact Or.inl empty
    · rw [List.concat_eq_append, ← List.cons_append, ← List.append_assoc] at split
      obtain ⟨rfl, same⟩ := List.append_inj' split rfl
      cases same
      refine Or.inr ⟨⟨before, first, since, rfl, empty, ?_, ?_⟩, kept move (by simp)⟩
      · intro front short
        exact filled front (short.trans (by simp))
      · intro later member
        exact kept later (by simp [member])
  · rintro ⟨now, empty | ⟨⟨before, first, since, rfl, empty, filled, kept⟩, spared⟩⟩
    · refine ⟨moves, move, [], rfl, empty, ?_, ?_⟩
      · intro front short
        rw [List.prefix_nil.mp short]
        exact now
      · intro later member
        cases member
    · refine ⟨before, first, since ++ [move], by simp, empty, ?_, ?_⟩
      · intro front short
        rcases List.prefix_concat_iff.mp short with rfl | shorter
        · simpa using now
        · exact filled front shorter
      · intro later member
        rcases List.mem_append.mp member with old | new
        · exact kept later old
        · rw [List.mem_singleton.mp new]
          exact spared

/-! ### What a move breaks and mends -/

/-- The tables agree, the accounts are in order, and the adapters run where `stands` says so. -/
structure Healthy (channels : String → Option String) (stands : String → String → Prop)
    (d : Deployment ε) : Prop where
  aligned : d.Aligned
  served : d.broker.exchange.core.Served channels d.guests stands

variable {channels : String → Option String} {stands : String → String → Prop}

theorem Aligned.routed_eq_nil (aligned : d.Aligned) :
    d.routed id = [] ↔ d.broker.exchange.core.members id = ∅ := by
  have routes := aligned.core.routesOf id
  rw [routed, show d.broker.exchange.delivery.routesOf id = _ from routes,
    ← List.isEmpty_iff, Std.ExtTreeSet.isEmpty_toList, Std.ExtTreeSet.isEmpty_iff]

theorem Move.breaks_guest {move : Guests.Move} :
    (guest move).Breaks channel ↔ move = .close channel := by
  cases move <;> simp [Breaks]

theorem stop_served (healthy : d.Healthy channels stands) :
    (d.step .stop).broker.exchange.core.Served channels d.guests
      fun id c => d.routed id = [] ∨ stands id c ∧ ¬ Move.stop.Breaks c := by
  have stopped : (d.step .stop).broker.exchange.core = _ := d.broker.core_stop
  rw [stopped]
  have served := healthy.served.stopAll d.broker.exchange.messagingIds
  refine ⟨served.accounted, served.lively.congr ?_⟩
  intro id c filled
  rw [Exchange.Core.members_operateAll (fun _ => rfl)] at filled
  have listed : id ∈ d.broker.exchange.messagingIds := by
    cases there : d.broker.exchange.core.adapter? id with
    | none =>
      rw [Exchange.Core.members, there] at filled
      exact absurd rfl filled
    | some a => exact Exchange.mem_messagingIds_iff.mpr (Option.isSome_of_eq_some there)
  rw [healthy.aligned.routed_eq_nil, or_iff_right filled]
  simp [Move.Breaks, listed]

theorem guest_served (healthy : d.Healthy channels stands) {move : Guests.Move}
    (spares : move ≠ .shutdown) :
    (d.step (.guest move)).broker.exchange.core.Served channels (d.step (.guest move)).guests
      fun id c => d.routed id = [] ∨ stands id c ∧ ¬ (Move.guest move).Breaks c := by
  have served := healthy.served.guests spares
  refine ⟨served.accounted, served.lively.congr ?_⟩
  intro id c (filled : d.broker.exchange.core.members id ≠ ∅)
  rw [healthy.aligned.routed_eq_nil, or_iff_right filled, Move.breaks_guest]

theorem Move.Ordinary.spares (ordinary : move.Ordinary) : ¬ move.Breaks channel := by
  cases move with
  | stop | guest move => exact ordinary.elim
  | _ => exact id

theorem ordinary_served (healthy : d.Healthy channels stands) (ordinary : move.Ordinary) :
    (d.step move).broker.exchange.core.Served channels d.guests
      fun id c => d.routed id = [] ∨ stands id c ∧ ¬ move.Breaks c := by
  have mended {id} (empty : d.broker.exchange.core.members id = ∅) (c : String) :
      d.routed id = [] ∨ stands id c ∧ ¬ move.Breaks c :=
    Or.inl (healthy.aligned.routed_eq_nil.mpr empty)
  have served : d.broker.exchange.core.Served channels d.guests
      fun id c => d.routed id = [] ∨ stands id c ∧ ¬ move.Breaks c := by
    refine ⟨healthy.served.accounted, healthy.served.lively.congr ?_⟩
    intro id c filled
    rw [healthy.aligned.routed_eq_nil, or_iff_right filled]
    exact and_iff_left ordinary.spares
  exact step_keeps Exchange.Core.Served.stable healthy.aligned.provided ordinary served
    (fun _ => served.withDelivery _) (served.dispatch mended)
    fun ids => served.operateAll Coordinator.Operation.noConfusion
      (fun _ => Coordinator.Operation.noConfusion) ids

theorem step_served (healthy : d.Healthy channels stands) (spares : move ≠ .guest .shutdown) :
    (d.step move).broker.exchange.core.Served channels (d.step move).guests
      fun id c => d.routed id = [] ∨ stands id c ∧ ¬ move.Breaks c := by
  cases move with
  | stop => exact stop_served healthy
  | guest move =>
    refine guest_served healthy ?_
    rintro rfl
    exact spares rfl
  | _ => exact ordinary_served healthy trivial

theorem step_healthy (healthy : d.Healthy channels stands) (spares : move ≠ .guest .shutdown) :
    (d.step move).Healthy channels fun id c =>
      d.routed id = [] ∨ stands id c ∧ ¬ move.Breaks c :=
  ⟨step_aligned healthy.aligned move, step_served healthy spares⟩

/-- Over every run without a shutdown, what stands is what was not broken. -/
theorem run_healthy (healthy : d.Healthy channels (d.Unbroken [])) (moves : List Move)
    (spares : ∀ move ∈ moves, move ≠ .guest .shutdown) :
    (d.run moves).Healthy channels (d.Unbroken moves) := by
  induction moves using List.reverseRecOn with
  | nil => exact healthy
  | append_singleton moves move ih =>
    have before := ih fun other member => spares other (List.mem_append_left _ member)
    have after := step_healthy before (spares move (by simp))
    rw [← run_append] at after
    refine ⟨after.aligned, after.served.accounted, after.served.lively.congr ?_⟩
    intro id c filled
    rw [unbroken_append]
    exact and_iff_right (mt after.aligned.routed_eq_nil.mp filled)

/-! ### What a move reports -/

theorem run_chain (moves : List Move) : ∀ d : Deployment ε, (d.run moves).broker.chain =
    d.broker.chain := by
  induction moves with
  | nil =>
    intro d
    rfl
  | cons move rest ih =>
    intro d
    exact (ih (d.step move)).trans (chain_step move)

theorem failure_of_authorize {x : Exchange ChannelAdapter ε} {g : Guests}
    (accounted : x.core.Accounted channels g) {rules : AccessRules} {request : Request}
    {f : Failure} (failed : ((rules.authorize Exchange.dispatch request).exec x).1 = .error f) :
    ∃ e, f = Failure.broker e := by
  rw [exec_authorize] at failed
  split at failed
  · exact Exchange.failure_of_dispatch accounted failed
  · cases failed
    exact ⟨_, rfl⟩

theorem status_of_refusal {f : Failure} {e : BrokerError}
    (refusal : f = Failure.broker e ∨ f = (Failure.broker e).masked) (e' : LifecycleError) :
    f.status ≠ e'.status := by
  have status : f.status = e.status := by
    rcases refusal with rfl | rfl <;> rfl
  rw [status]
  cases e <;> cases e' <;> exact Status.noConfusion

theorem failure_of_handle {b : Broker ChannelAdapter ε} {g : Guests} {rules : AccessRules}
    (accounted : b.exchange.core.Accounted channels g)
    (chain : b.chain = [.conversion [.maskServerErrors], .authorization rules]) {request : Request}
    {f : Failure} (failed : (b.handle request).1 = .error f) :
    ∃ e, f = Failure.broker e ∨ f = (Failure.broker e).masked := by
  rw [Broker.outcome_handle chain] at failed
  cases reached : ((rules.authorize Exchange.dispatch request).exec b.exchange).1 with
  | ok response =>
    rw [reached] at failed
    cases failed
  | error f' =>
    obtain ⟨e, rfl⟩ := failure_of_authorize accounted reached
    rw [reached] at failed
    cases failed
    refine ⟨e, ?_⟩
    unfold Failure.disclosed
    split
    · exact Or.inr rfl
    · exact Or.inl rfl

theorem failure_of_perform (served : d.broker.exchange.core.Served channels d.guests stands)
    {rules : AccessRules}
    (chain : d.broker.chain = [.conversion [.maskServerErrors], .authorization rules])
    {f : Failure} (failed : (perform move d).1 = some f) :
    ∃ e, f = Failure.broker e ∨ f = (Failure.broker e).masked := by
  have accounted := served.accounted
  cases move with
  | handle request =>
    simp only [perform, after] at failed
    split at failed
    · cases failed
    · rename_i f' refused
      cases failed
      exact failure_of_handle accounted chain refused
  | disconnect client =>
    have succeeded : (d.broker.disconnect client).1 = .ok () := by
      rw [Broker.disconnect_left]
      exact Exchange.onEach_ok (ChannelAdapter.unsubscribe_performs client) _
        (accounted.withDelivery (d.broker.exchange.delivery.disconnect client).2)
    simp only [perform, after, succeeded] at failed
    cases failed
  | start =>
    have succeeded : d.broker.start.1 = .ok () :=
      d.broker.start_left.1.trans
        (Exchange.onEachUntil_ok ChannelAdapter.start_performs _ accounted)
    simp only [perform, after, succeeded] at failed
    cases failed
  | stop =>
    have succeeded : d.broker.stop.1 = .ok () :=
      Exchange.onEach_ok ChannelAdapter.stop_performs _ accounted
    simp only [perform, after, succeeded] at failed
    cases failed
  | _ => cases failed

/-! ### The broker of some settings -/

theorem healthy_of_extends {settings : Settings} {p : Assembly.Plan} {site : Site Unit}
    (hub : site.hub = Hub.ofCapacity settings.channelCapacity.toNat)
    (extended : Assembly.Plan.Extends {} settings.destinations p) :
    let d : Deployment Unit := ⟨Broker.ofRegistry p.chain p.registry site, {}⟩
    d.Healthy (fun id => (d.broker.exchange.core.adapter? id).map ChannelAdapter.channel)
      (d.Unbroken []) := by
  intro d
  have asked {id destination} (there : p.registry.get? id = some destination) :
      ∃ c : DestinationConfig, destination = c.destination := by
    rcases extended.others there with old | ⟨c, -, same⟩
    · simp [Registry.get?] at old
    · exact ⟨c, same⟩
  have fresh {id a} (there : p.registry.get? id = some (.messaging a)) :
      a.coordinator.held = none ∧ a.coordinator.members = ∅ := by
    obtain ⟨c, same⟩ := asked there
    cases same
    exact ⟨rfl, rfl⟩
  refine ⟨?_, ⟨?_, ?_, ?_, fun _ => rfl⟩, ⟨?_⟩⟩
  · exact ofRegistry_aligned (assembled_leaves p.rules) (fun there => (fresh there).2) site {}
  · have balanced : site.hub.Balanced (Guests.holdings {}) := hub ▸ Hub.balanced_ofCapacity _
    refine Sound.of_idle ?_ balanced
    intro a member
    obtain ⟨id, there⟩ := Exchange.Core.mem_adapters.mp member
    exact (fresh (Exchange.get?_of_adapter? there)).1
  · exact congrArg Hub.isShutDown hub
  · intro id destination there
    obtain ⟨c, rfl⟩ := asked there
    exact ⟨_, rfl⟩
  · intro id a there
    have free := (fresh (Exchange.get?_of_adapter? there)).1
    refine iff_of_false ?_ fun alive => not_unbroken_nil alive.2
    intro running
    rw [ChannelAdapter.state, Coordinator.state_of_free free] at running
    cases running

/-- Over every run of the broker that settings describe in which nobody shuts the hub down, the
adapter of a destination runs if and only if clients are routed to it and, since the first of them
came, the adapters were not stopped and its channel was not closed. What a move then reports is a
refusal of the broker, and never that a listener failed. -/
theorem run_running {settings : Settings} {journal : Journal} {b : Broker ChannelAdapter Unit}
    (built : Assembly.build settings journal = .ok b) {moves : List Move}
    (spares : ∀ move ∈ moves, move ≠ .guest .shutdown) :
    let d : Deployment Unit := ⟨b, {}⟩
    let x := (d.run moves).broker.exchange
    (∀ c ∈ settings.destinations, ∃ a, x.registry.get? c.id = some (.messaging a) ∧
      (a.state x.site.hub = .running ↔
        (d.run moves).routed c.id ≠ [] ∧ d.Unbroken moves c.id c.effectiveChannel) ∧
      ∀ before move, moves = before ++ [move] → (d.run before).routed c.id = [] →
        (d.run moves).routed c.id ≠ [] → a.state x.site.hub = .running) ∧
    ∀ move f, (perform move (d.run moves)).1 = some f →
      (∃ e, f = Failure.broker e ∨ f = (Failure.broker e).masked) ∧
        ∀ e : LifecycleError, f.status ≠ e.status := by
  intro d x
  obtain ⟨p, site, rfl, hub, extended⟩ := Assembly.ofRegistry_of_build built
  have healthy := run_healthy (healthy_of_extends hub extended) moves spares
  refine ⟨?_, ?_⟩
  · intro c asked
    have given : d.broker.exchange.core.adapter? c.id =
        some (.ofChannel c.id c.effectiveChannel) :=
      Exchange.adapter?_of_get? (extended.comes asked)
    have bound := healthy.served.accounted.bound c.id
    rw [given] at bound
    obtain ⟨a, there, channel⟩ := Option.map_eq_some_iff.mp bound
    have running : a.state x.site.hub = .running ↔
        (d.run moves).routed c.id ≠ [] ∧ d.Unbroken moves c.id c.effectiveChannel := by
      have alive := healthy.served.lively.running_iff there
      rw [ne_eq, ← healthy.aligned.routed_eq_nil, channel] at alive
      exact alive
    refine ⟨a, Exchange.get?_of_adapter? there, running, ?_⟩
    rintro before move rfl empty filled
    exact running.mpr ⟨filled, unbroken_append.mpr ⟨filled, Or.inl empty⟩⟩
  · intro move f failed
    obtain ⟨e, refusal⟩ := failure_of_perform healthy.served (run_chain moves d) failed
    exact ⟨⟨e, refusal⟩, status_of_refusal refusal⟩

/-- A closed channel breaks the listener for good, though clients join and leave, until the first
client comes after the last one left. -/
theorem run_running_after_close :
    let settings : Settings := { destinations := [{ id := "quotes", channel := some "ticks" }] }
    let subscribe (client : String) : Move :=
      .handle { client, destination := "quotes", body := .subscribe }
    let broken :=
      [.connect "A", subscribe "A", .guest (.close "ticks"), .connect "B", subscribe "B"]
    let mended := broken ++ [.disconnect "A", .disconnect "B", .connect "A", subscribe "A"]
    ∃ b, Assembly.build settings = .ok b ∧
      let d : Deployment Unit := ⟨b, {}⟩
      (d.run broken).routed "quotes" = ["A", "B"] ∧ ¬ d.Unbroken broken "quotes" "ticks" ∧
        (d.run mended).routed "quotes" = ["A"] ∧ d.Unbroken mended "quotes" "ticks" := by
  intro settings subscribe broken mended
  let seen (moves : List Move) (b : Broker ChannelAdapter Unit) :=
    let d : Deployment Unit := run moves ⟨b, {}⟩
    let k := d.broker.exchange.core
    (d.routed "quotes", (k.adapter? "quotes").map fun a => a.state k.hub)
  have outcome : ((Assembly.build settings).toOption.map fun b => (seen broken b, seen mended b)) =
      some ((["A", "B"], some .uninitialized), (["A"], some .running)) := by decide +kernel
  obtain ⟨b, built, both⟩ := Option.map_eq_some_iff.mp outcome
  have built : Assembly.build settings = .ok b := by
    cases reached : Assembly.build settings with
    | error f =>
      rw [reached] at built
      cases built
    | ok b' =>
      rw [reached] at built
      cases built
      rfl
  obtain ⟨first, second⟩ := Prod.mk.inj both
  obtain ⟨stale, idle⟩ := Prod.mk.inj first
  obtain ⟨fresh, running⟩ := Prod.mk.inj second
  have asked : { id := "quotes", channel := some "ticks" } ∈ settings.destinations :=
    List.mem_singleton.mpr rfl
  have spared : ∀ move ∈ broken, move ≠ .guest .shutdown := by simp [broken, subscribe]
  have spared' : ∀ move ∈ mended, move ≠ .guest .shutdown := by simp [mended, broken, subscribe]
  -- from here on the runs are not to be computed again
  clear_value broken mended
  refine ⟨b, built, stale, ?_, fresh, ?_⟩
  · obtain ⟨a, found, alive, -⟩ := (run_running built spared).1 _ asked
    rw [Exchange.adapter?_of_get? found] at idle
    intro unbroken
    have filled : (run broken ⟨b, {}⟩).routed "quotes" ≠ [] := by
      rw [stale]
      exact List.cons_ne_nil "A" ["B"]
    have contrary := alive.mpr ⟨filled, unbroken⟩
    cases (Option.some.inj idle).symm.trans contrary
  · obtain ⟨a, found, alive, -⟩ := (run_running built spared').1 _ asked
    rw [Exchange.adapter?_of_get? found] at running
    exact (alive.mp (Option.some.inj running)).2

end Deployment

end Switchboard
