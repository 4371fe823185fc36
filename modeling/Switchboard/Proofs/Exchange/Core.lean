import Switchboard.Proofs.Adapter
import Switchboard.Proofs.Exchange.Rounds

/-!
# The core of an exchange

An exchange over channel adapters decides by three things: the hub, the delivery and the
destinations. Here its operations are reduced to what they do to these, whether they fail or not.
The journal and the state of the application, which they also change, are left out.
-/

namespace Switchboard.Exchange

variable {ε : Type}

structure Core (ε : Type) where
  hub : Hub
  delivery : Delivery
  registry : Registry ChannelAdapter ε

def core (x : Exchange ChannelAdapter ε) : Core ε :=
  ⟨x.site.hub, x.delivery, x.registry⟩

namespace Core

def adapter? (k : Core ε) (id : String) : Option ChannelAdapter :=
  (k.registry.get? id).bind Destination.adapter?

def operate (op : Coordinator.Operation) (k : Core ε) (id : String) : Core ε :=
  match k.adapter? id with
  | none => k
  | some a =>
    let (a, hub) := a.coordinated op k.hub
    { k with hub, registry := k.registry.setAdapter id a }

def operateAll (op : Coordinator.Operation) (ids : List String) (k : Core ε) : Core ε :=
  ids.foldl (operate op) k

/-- A departed client is unsubscribed. -/
def release (k : Core ε) (d : Departure) : Core ε :=
  k.operateAll (.unsubscribe d.client) d.destinations

def deliver (destination : String) (m : Message) (k : Core ε) : Core ε :=
  let (departures, delivery) := k.delivery.deliver destination m
  departures.foldl release { k with delivery }

/-- The destination that a request names takes part in it if it is an adapter. -/
def dispatch (request : Request) (k : Core ε) : Core ε :=
  match k.adapter? request.destination, request.body with
  | some _, .subscribe =>
    if k.delivery.isConnected request.client then
      { k with delivery := (k.delivery.addRoute request.destination request.client).2 }.operate
        (.subscribe request.client) request.destination
    else k
  | some _, .unsubscribe =>
    { k with delivery := (k.delivery.removeRoute request.destination request.client).2 }.operate
      (.unsubscribe request.client) request.destination
  | some a, .publish m =>
    { k with hub := (k.hub.publish a.channel (m.sentTo a.destination)).2 }
  | _, _ => k

theorem adapter?_setAdapter (k : Core ε) (hub : Hub) (id other : String) (a : ChannelAdapter) :
    ({ k with hub, registry := k.registry.setAdapter id a } : Core ε).adapter? other =
      if id = other then some a else k.adapter? other := by
  unfold adapter? Registry.get? Registry.setAdapter
  rw [Std.ExtTreeMap.getElem?_insert]
  simp only [Std.LawfulEqCmp.compare_eq_iff_eq]
  split <;> rfl

theorem registered_of_adapter? {k : Core ε} {id : String} {a : ChannelAdapter}
    (there : k.adapter? id = some a) : k.registry.get? id = some (.messaging a) := by
  obtain ⟨d, found, adapter⟩ := Option.bind_eq_some_iff.mp there
  cases d with
  | messaging b =>
    cases adapter
    exact found
  | remoting target options => cases adapter

theorem mem_registered {k : Core ε} {id : String} {a : ChannelAdapter} :
    (id, a) ∈ k.registry.adapters ↔ k.adapter? id = some a :=
  Registry.mem_adapters

theorem operate_of_free {op : Coordinator.Operation} {k : Core ε} {id : String}
    (nobody : k.adapter? id = none) : k.operate op id = k := by
  unfold operate
  rw [nobody]

theorem operate_of_adapter {op : Coordinator.Operation} {k : Core ε} {id : String}
    {a : ChannelAdapter} (there : k.adapter? id = some a) :
    k.operate op id = { k with
      hub := (a.coordinated op k.hub).2
      registry := k.registry.setAdapter id (a.coordinated op k.hub).1 } := by
  unfold operate
  rw [there]

theorem operateAll_induction {P : Core ε → Prop} {op : Coordinator.Operation} {k : Core ε}
    (ids : List String) (each : ∀ {k}, P k → ∀ id, P (k.operate op id)) (holds : P k) :
    P (k.operateAll op ids) :=
  List.foldlRecOn ids (operate op) holds fun _ kept id _ => each kept id

end Core

/-! ### Operations on adapters -/

section Adapters

variable {op : Attempt (ChannelAdapter × Site ε) Unit} {o : Coordinator.Operation}

theorem core_withAdapter (performs : ChannelAdapter.Performs op o)
    {x : Exchange ChannelAdapter ε} {id : String} {a : ChannelAdapter}
    (there : x.core.adapter? id = some a) :
    ((withAdapter id a op).exec x).2.core = x.core.operate o id := by
  have adapter := performs.adapter a x.site
  have hub := performs.hub a x.site
  rw [Core.operate_of_adapter there]
  simp only [core] at adapter hub ⊢
  rw [← adapter, ← hub]
  rfl

theorem core_onAdapter (performs : ChannelAdapter.Performs op o) (id : String)
    (x : Exchange ChannelAdapter ε) :
    ((onAdapter? id op).run x).2.core = x.core.operate o id := by
  cases there : x.core.adapter? id with
  | none =>
    rw [Core.operate_of_free there, run_onAdapter?_of_free there]
  | some a =>
    rw [run_onAdapter?_of_adapter there]
    exact core_withAdapter performs there

theorem core_onEach (performs : ChannelAdapter.Performs op o) (ids : List String) :
    ∀ x : Exchange ChannelAdapter ε, ((onEach op ids).run x).2.core = x.core.operateAll o ids := by
  induction ids with
  | nil =>
    intro x
    rfl
  | cons id rest ih =>
    intro x
    have first := core_onAdapter performs id x
    have others := ih ((onAdapter? id op).run x).2
    rw [first] at others
    unfold onEach
    simp only [StateT.run_bind, id_bind]
    split <;> exact others

theorem onAdapter_succeeds (performs : ChannelAdapter.Performs op o) {id : String}
    {x : Exchange ChannelAdapter ε} (succeeds : ∀ {a}, x.core.adapter? id = some a →
      (o.run a.provider a.coordinator x.site.hub).1 = .ok ()) (f : Failure) :
    ((onAdapter? id op).run x).1 ≠ some (.error f) := by
  cases there : x.core.adapter? id with
  | none =>
    rw [run_onAdapter?_of_free there]
    exact nofun
  | some a =>
    have succeeded : ((withAdapter id a op).exec x).1 = .ok () := performs.outcome (succeeds there)
    rw [run_onAdapter?_of_adapter there, succeeded]
    exact nofun

/-- Where no operation fails and none leads anywhere else, all of them succeed. -/
theorem onEach_succeeds (performs : ChannelAdapter.Performs op o) {P : Core ε → Prop}
    (keeps : ∀ {k : Core ε}, P k → ∀ id, P (k.operate o id))
    (succeeds : ∀ {k : Core ε} {id a}, P k → k.adapter? id = some a →
      (o.run a.provider a.coordinator k.hub).1 = .ok ()) (ids : List String) :
    ∀ {x : Exchange ChannelAdapter ε}, P x.core → ((onEach op ids).run x).1 = .ok () := by
  induction ids with
  | nil =>
    intro x holds
    rfl
  | cons id rest ih =>
    intro x holds
    have succeeded (f : Failure) : ((onAdapter? id op).run x).1 ≠ some (.error f) :=
      onAdapter_succeeds performs (succeeds holds) f
    have first := core_onAdapter performs id x
    have others := ih (x := ((onAdapter? id op).run x).2) (first ▸ keeps holds id)
    unfold onEach
    -- `succeeded` rules out the first case of the match
    simp only [StateT.run_bind, id_bind]
    exact others

/-- Some first adapters have their turn. -/
theorem core_onEachUntil (performs : ChannelAdapter.Performs op o) (ids : List String) :
    ∀ x : Exchange ChannelAdapter ε, ∃ front,
      front <+: ids ∧ ((onEachUntil op ids).exec x).2.core = x.core.operateAll o front := by
  induction ids with
  | nil =>
    intro x
    exact ⟨[], List.prefix_rfl, rfl⟩
  | cons id rest ih =>
    intro x
    have first := core_onAdapter performs id x
    rw [exec_onEachUntil_cons]
    split
    · rename_i f x' outcome
      rw [outcome] at first
      exact ⟨[id], List.cons_prefix_cons.mpr ⟨rfl, List.nil_prefix⟩, first⟩
    · rename_i result x' _ outcome
      rw [outcome] at first
      obtain ⟨front, short, others⟩ := ih x'
      rw [first] at others
      exact ⟨id :: front, List.cons_prefix_cons.mpr ⟨rfl, short⟩, others⟩

theorem core_release (d : Departure) (x : Exchange ChannelAdapter ε) :
    ((release d).run x).2.core = x.core.release d := by
  have gone := core_onEach (ChannelAdapter.unsubscribe_performs d.client) d.destinations
    (Journaled.record d.event x)
  unfold release
  simp only [StateT.run_bind, run_log, id_bind]
  split <;> exact gone

theorem core_deliver (destination : String) (m : Message) (x : Exchange ChannelAdapter ε) :
    (deliver destination m x).core = x.core.deliver destination m := by
  have released (ds : List Departure) : ∀ x : Exchange ChannelAdapter ε,
      (ds.foldl (fun x d => ((release d).run x).2) x).core = ds.foldl Core.release x.core := by
    induction ds with
    | nil =>
      intro x
      rfl
    | cons d rest ih =>
      intro x
      have first := core_release d x
      have others := ih ((release d).run x).2
      rw [first] at others
      exact others
  exact released _ _

end Adapters

/-! ### Requests -/

theorem setAdapter_self {r : Registry ChannelAdapter ε} {id : String} {a : ChannelAdapter}
    (there : r.get? id = some (.messaging a)) : r.setAdapter id a = r := by
  obtain ⟨destinations⟩ := r
  unfold Registry.setAdapter
  congr 1
  apply Std.ExtTreeMap.ext_getElem?
  intro other
  rw [Std.ExtTreeMap.getElem?_insert]
  split
  · rename_i same
    rw [Std.LawfulEqCmp.compare_eq_iff_eq] at same
    exact same ▸ there.symm
  · rfl

theorem adapter?_of_get? {x : Exchange ChannelAdapter ε} {id : String} {a : ChannelAdapter}
    (there : x.registry.get? id = some (.messaging a)) : x.core.adapter? id = some a := by
  simp [Core.adapter?, core, there, Destination.adapter?]

theorem get?_of_adapter? {x : Exchange ChannelAdapter ε} {id : String} {a : ChannelAdapter}
    (there : x.core.adapter? id = some a) : x.registry.get? id = some (.messaging a) :=
  Core.registered_of_adapter? there

theorem exec_subscribe (id client : String) (a : ChannelAdapter) (x : Exchange ChannelAdapter ε) :
    (subscribe id a client).exec x =
      if x.delivery.isConnected client then
        let left := (withAdapter id a (MessagingAdapter.subscribe client)).exec
          { x with delivery := (x.delivery.addRoute id client).2 }
        (left.1.map fun () => .ack, left.2)
      else (.error (Failure.broker (.clientNotConnected client)), x) := by
  unfold subscribe
  by_cases connected : x.delivery.isConnected client = true
  · simp [Attempt.exec_bind, Attempt.exec_map, connected]
  · simp [Attempt.exec_bind, connected]

theorem exec_unsubscribe (id client : String) (a : ChannelAdapter)
    (x : Exchange ChannelAdapter ε) :
    (unsubscribe id a client).exec x =
      let left := (withAdapter id a (MessagingAdapter.unsubscribe client)).exec
        { x with delivery := (x.delivery.removeRoute id client).2 }
      (left.1.map fun () => .ack, left.2) := by
  unfold unsubscribe
  simp [Attempt.exec_bind, Attempt.exec_map]

/-- Publishing changes the hub alone, and never fails. -/
theorem exec_invoke {id : String} {a : ChannelAdapter} {x : Exchange ChannelAdapter ε}
    (there : x.registry.get? id = some (.messaging a)) (m : Message) :
    ∃ receivers, ((withAdapter id a (MessagingAdapter.invoke m)).exec x).1 = .ok receivers ∧
      ((withAdapter id a (MessagingAdapter.invoke m)).exec x).2.core =
        { x.core with hub := (x.site.hub.publish a.channel (m.sentTo a.destination)).2 } := by
  obtain ⟨receivers, journal, outcome⟩ := ChannelAdapter.exec_invoke m a x.site
  have acted : (withAdapter id a (MessagingAdapter.invoke m)).exec x = (.ok receivers, { x with
      site := { x.site with
        hub := (x.site.hub.publish a.channel (m.sentTo a.destination)).2, journal }
      registry := x.registry.setAdapter id a }) := by
    change (let (outcome, a, site) := (ChannelAdapter.invoke m).exec (a, x.site)
      (outcome, { x with site, registry := x.registry.setAdapter id a })) = _
    rw [outcome]
  rw [acted, setAdapter_self there]
  exact ⟨receivers, rfl, rfl⟩

theorem exec_publish (id : String) (a : ChannelAdapter) (m : Message)
    (x : Exchange ChannelAdapter ε) :
    (publish id a m).exec x =
      let left := (withAdapter id a (MessagingAdapter.invoke m)).exec x
      (left.1.map .published, left.2) := by
  unfold publish
  simp [Attempt.exec_map]

/-- An exported target acts on the state of the application alone. -/
theorem core_invoke (target : Target ε) (options : RemotingOptions) (destination operation : String)
    (args : List Json) (x : Exchange ChannelAdapter ε) :
    ((invoke target options destination operation args).exec x).2.core = x.core := by
  unfold invoke
  split
  · simp only [bind_pure_comp, Attempt.exec_map, Attempt.exec_withNote]
    rfl
  · rfl

theorem core_subscribe {id : String} {a : ChannelAdapter} {x : Exchange ChannelAdapter ε}
    (there : x.core.adapter? id = some a) (client : String) :
    ((subscribe id a client).exec x).2.core =
      if x.core.delivery.isConnected client then
        { x.core with delivery := (x.delivery.addRoute id client).2 }.operate
          (.subscribe client) id
      else x.core := by
  rw [exec_subscribe, show x.core.delivery = x.delivery from rfl]
  split
  · exact core_withAdapter (x := { x with delivery := _ })
      (ChannelAdapter.subscribe_performs client) there
  · rfl

theorem core_unsubscribe {id : String} {a : ChannelAdapter} {x : Exchange ChannelAdapter ε}
    (there : x.core.adapter? id = some a) (client : String) :
    ((unsubscribe id a client).exec x).2.core =
      { x.core with delivery := (x.delivery.removeRoute id client).2 }.operate
        (.unsubscribe client) id := by
  rw [exec_unsubscribe]
  exact core_withAdapter (x := { x with delivery := _ })
    (ChannelAdapter.unsubscribe_performs client) there

theorem core_publish {id : String} {a : ChannelAdapter} {x : Exchange ChannelAdapter ε}
    (there : x.registry.get? id = some (.messaging a)) (m : Message) :
    ((publish id a m).exec x).2.core =
      { x.core with hub := (x.site.hub.publish a.channel (m.sentTo a.destination)).2 } := by
  obtain ⟨receivers, -, published⟩ := exec_invoke there m
  rw [exec_publish]
  exact published

/-- Who answers a request, or why nobody does. -/
theorem exec_dispatch (request : Request) (x : Exchange ChannelAdapter ε) :
    (dispatch request).exec x =
      match x.registry.get? request.destination, request.body with
      | none, _ => (.error (Failure.broker (.destinationNotFound request.destination)), x)
      | some (.messaging a), .subscribe =>
        (subscribe request.destination a request.client).exec x
      | some (.messaging a), .unsubscribe =>
        (unsubscribe request.destination a request.client).exec x
      | some (.messaging a), .publish m => (publish request.destination a m).exec x
      | some (.remoting target options), .invoke operation args =>
        (invoke target options request.destination operation args).exec x
      | some _, body =>
        (.error (Failure.broker (.unsupportedRequest request.destination body.kind)), x) := by
  unfold dispatch
  rw [Attempt.exec_bind, Attempt.exec_get]
  dsimp only
  generalize x.registry.get? request.destination = found
  generalize request.body = body
  cases found with
  | none => rfl
  | some d => cases d <;> cases body <;> rfl

theorem core_dispatch (request : Request) (x : Exchange ChannelAdapter ε) :
    ((dispatch request).exec x).2.core = x.core.dispatch request := by
  rw [exec_dispatch]
  unfold Core.dispatch
  cases found : x.registry.get? request.destination with
  | none =>
    have nobody : x.core.adapter? request.destination = none := by
      simp [Core.adapter?, core, found]
    rw [nobody]
  | some d =>
    cases d with
    | remoting target options =>
      have nobody : x.core.adapter? request.destination = none := by
        simp [Core.adapter?, core, found, Destination.adapter?]
      rw [nobody]
      cases request.body with
      | invoke operation args => exact core_invoke target options _ operation args x
      | _ => rfl
    | messaging a =>
      have there := adapter?_of_get? found
      rw [there]
      cases request.body with
      | subscribe => exact core_subscribe there request.client
      | unsubscribe => exact core_unsubscribe there request.client
      | publish m => exact core_publish found m
      | invoke operation args => rfl

end Switchboard.Exchange
