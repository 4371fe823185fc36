import Switchboard.Proofs.Delivery
import Switchboard.Proofs.Exchange.Core

/-!
# Routes and subscribers

Three tables speak of subscriptions: the outboxes of connected clients, the routes, and the
subscribers that each adapter records. `Aligned` says that they agree. The routes and the
subscribers are changed one after the other, so the tables differ in the middle of every operation
and agree again at its end.
-/

namespace Switchboard

namespace Delivery

/-- A set of routed clients as it stands in the table. -/
def entry (clients : Std.ExtTreeSet String) : Option (Std.ExtTreeSet String) :=
  if clients.isEmpty then none else some clients

variable {clients : Std.ExtTreeSet String} {client id : String} {d : Delivery}

theorem getD_entry (clients : Std.ExtTreeSet String) : (entry clients).getD ∅ = clients := by
  unfold entry
  split
  · rename_i empty
    exact (Std.ExtTreeSet.isEmpty_iff.mp empty).symm
  · rfl

theorem entry_of_mem (member : client ∈ clients) : entry clients = some clients := by
  unfold entry
  rw [if_neg]
  intro empty
  rw [Std.ExtTreeSet.isEmpty_iff.mp empty] at member
  exact Std.ExtTreeSet.not_mem_empty member

theorem entry_insert (clients : Std.ExtTreeSet String) (client : String) :
    entry (clients.insert client) = some (clients.insert client) :=
  entry_of_mem Std.ExtTreeSet.mem_insert_self

theorem entry_without (clients : Std.ExtTreeSet String) (client : String) :
    (entry clients).bind (without client) = entry (clients.erase client) := by
  unfold entry
  split
  · rename_i empty
    rw [Std.ExtTreeSet.isEmpty_iff.mp empty]
    rfl
  · rfl

/-- The routes and the outboxes are the same, and no mailbox was opened. -/
structure SameTables (d d' : Delivery) : Prop where
  routes : d'.routes = d.routes
  outboxes : d'.outboxes = d.outboxes
  nextMailbox : d'.nextMailbox = d.nextMailbox

theorem sameTables_receive (d : Delivery) (mailbox : Nat) :
    d.SameTables (d.receive mailbox).2 := by
  unfold receive
  split
  · exact ⟨rfl, rfl, rfl⟩
  · split <;> exact ⟨rfl, rfl, rfl⟩

end Delivery

namespace Exchange.Core

variable {ε : Type}

def members (k : Core ε) (id : String) : Std.ExtTreeSet String :=
  match k.adapter? id with
  | none => ∅
  | some a => a.coordinator.members

/-- The routes of a destination are its recorded subscribers, and each of these has an outbox. -/
structure Aligned (k : Core ε) : Prop where
  routes (id) : k.delivery.routes[id]? = Delivery.entry (k.members id)
  connected {id client} (member : client ∈ k.members id) : client ∈ k.delivery.outboxes

def depart (client : String) (k : Core ε) : Core ε :=
  { k with delivery := (k.delivery.disconnect client).2 }.operateAll (.unsubscribe client)
    (k.delivery.disconnect client).1

variable {k : Core ε} {op : Coordinator.Operation} {id client : String}

/-! ### What an operation of an adapter changes -/

@[simp]
theorem delivery_operate (op : Coordinator.Operation) (k : Core ε) (id : String) :
    (k.operate op id).delivery = k.delivery := by
  unfold operate
  split <;> rfl

theorem operate_withDelivery (op : Coordinator.Operation) (k : Core ε) (d : Delivery)
    (id : String) :
    ({ k with delivery := d } : Core ε).operate op id =
      { k.operate op id with delivery := d } := by
  unfold operate
  change (match k.adapter? id with | none => _ | some a => _) = _
  cases k.adapter? id <;> rfl

theorem members_of_adapter {a : ChannelAdapter} (there : k.adapter? id = some a) :
    k.members id = a.coordinator.members := by
  rw [members, there]

theorem members_setAdapter (k : Core ε) (hub : Hub) (id other : String) (a : ChannelAdapter) :
    ({ k with hub, registry := k.registry.setAdapter id a } : Core ε).members other =
      if id = other then a.coordinator.members else k.members other := by
  rw [members, adapter?_setAdapter]
  by_cases same : id = other
  · rw [if_pos same, if_pos same]
  · rw [if_neg same, if_neg same]
    rfl

theorem members_operate (changes : k.adapter? id = none → op.members ∅ = ∅) (other : String) :
    (k.operate op id).members other =
      if id = other then op.members (k.members other) else k.members other := by
  cases there : k.adapter? id with
  | none =>
    rw [operate_of_free there]
    split
    · rename_i same
      rw [members, ← same, there]
      exact (changes there).symm
    · rfl
  | some a =>
    rw [operate_of_adapter there, members_setAdapter]
    split
    · rename_i same
      rw [← same, members_of_adapter there]
      exact Coordinator.run_members a.provider op a.coordinator k.hub
    · rfl

theorem unsubscribe_members (k : Core ε) (id client other : String) :
    (k.operate (.unsubscribe client) id).members other =
      if id = other then (k.members other).erase client else k.members other := by
  refine members_operate ?_ other
  intro _
  exact Std.ExtTreeSet.erase_empty

theorem delivery_operateAll (op : Coordinator.Operation) (ids : List String) (k : Core ε) :
    (k.operateAll op ids).delivery = k.delivery :=
  operateAll_induction (P := fun k' => k'.delivery = k.delivery) ids
    (fun same id => (delivery_operate op _ id).trans same) rfl

theorem operateAll_withDelivery (op : Coordinator.Operation) (d : Delivery) (ids : List String) :
    ∀ k : Core ε, ({ k with delivery := d } : Core ε).operateAll op ids =
      { k.operateAll op ids with delivery := d } := by
  induction ids with
  | nil =>
    intro k
    rfl
  | cons id rest ih =>
    intro k
    have first := operate_withDelivery op k d id
    unfold operateAll at ih ⊢
    rw [List.foldl_cons, first, ih, List.foldl_cons]

theorem members_unsubscribeAll (client other : String) (ids : List String) : ∀ k : Core ε,
    (k.operateAll (.unsubscribe client) ids).members other =
      if other ∈ ids then (k.members other).erase client else k.members other := by
  induction ids with
  | nil =>
    intro k
    simp [operateAll]
  | cons id rest ih =>
    intro k
    have first := unsubscribe_members k id client other
    have others := ih (k.operate (.unsubscribe client) id)
    rw [first] at others
    unfold operateAll at others ⊢
    rw [List.foldl_cons, others]
    by_cases same : id = other
    · have twice : ((k.members other).erase client).erase client = (k.members other).erase client :=
        Coordinator.erase_of_not_contains (by simp)
      simp [same, twice]
    · simp [same, Ne.symm same]

theorem members_operateAll (still : ∀ members, op.members members = members) (ids : List String)
    (k : Core ε) : (k.operateAll op ids).members = k.members := by
  refine operateAll_induction (P := fun k' => k'.members = k.members) ids ?_ rfl
  intro k' same id
  refine Eq.trans (funext fun other => ?_) same
  rw [members_operate (fun _ => still ∅), still, ite_self]

/-! ### What keeps the tables aligned -/

theorem Aligned.routesOf (aligned : k.Aligned) (id : String) :
    k.delivery.routesOf id = (k.members id).toList := by
  unfold Delivery.routesOf
  rw [aligned.routes]
  by_cases empty : k.members id = ∅
  · rw [empty]
    rfl
  · rw [Delivery.entry, if_neg (mt Std.ExtTreeSet.isEmpty_iff.mp empty)]

theorem Aligned.tables {d : Delivery} (aligned : k.Aligned) (same : k.delivery.SameTables d) :
    Aligned { k with delivery := d } where
  routes other := by
    rw [show d.routes = k.delivery.routes from same.routes]
    exact aligned.routes other
  connected member := by
    rw [show d.outboxes = k.delivery.outboxes from same.outboxes]
    exact aligned.connected member

theorem Aligned.congr {k' : Core ε} (aligned : k.Aligned) (delivery : k'.delivery = k.delivery)
    (members : k'.members = k.members) : k'.Aligned where
  routes other := by
    rw [delivery, members]
    exact aligned.routes other
  connected member := by
    rw [delivery]
    exact aligned.connected (members ▸ member)

theorem connect_aligned (aligned : k.Aligned) (client : String) :
    Aligned { k with delivery := (k.delivery.connect client).2 } where
  routes := aligned.routes
  connected member := Std.ExtTreeMap.mem_insert.mpr (Or.inr (aligned.connected member))

theorem subscribe_aligned {a : ChannelAdapter} (aligned : k.Aligned)
    (there : k.adapter? id = some a) (connected : client ∈ k.delivery.outboxes) :
    ({ k with delivery := (k.delivery.addRoute id client).2 }.operate
      (.subscribe client) id).Aligned := by
  have joined (other : String) : ({ k with delivery := (k.delivery.addRoute id client).2 }.operate
      (.subscribe client) id).members other =
        if id = other then (k.members other).insert client else k.members other :=
    members_operate (fun free => by
      rw [show k.adapter? id = none from free] at there
      cases there) other
  refine ⟨?_, ?_⟩
  · intro other
    rw [delivery_operate, joined, Delivery.routes_addRoute]
    split
    · rename_i same
      rw [aligned.routes, Delivery.getD_entry, Delivery.entry_insert, same]
    · exact aligned.routes other
  · intro other who member
    rw [delivery_operate]
    rw [joined] at member
    split at member
    · rcases Std.ExtTreeSet.mem_insert.mp member with same | old
      · rw [Std.LawfulEqCmp.compare_eq_iff_eq] at same
        exact same ▸ connected
      · exact aligned.connected old
    · exact aligned.connected member

theorem unsubscribe_aligned (aligned : k.Aligned) (id client : String) :
    ({ k with delivery := (k.delivery.removeRoute id client).2 }.operate
      (.unsubscribe client) id).Aligned := by
  have left (other : String) : ({ k with delivery := (k.delivery.removeRoute id client).2 }.operate
      (.unsubscribe client) id).members other =
        if id = other then (k.members other).erase client else k.members other :=
    unsubscribe_members { k with delivery := _ } id client other
  refine ⟨?_, ?_⟩
  · intro other
    rw [delivery_operate, left, Delivery.routes_removeRoute]
    split
    · rw [aligned.routes, Delivery.entry_without]
    · exact aligned.routes other
  · intro other who member
    rw [delivery_operate]
    rw [left] at member
    split at member
    · exact aligned.connected (Std.ExtTreeSet.mem_of_mem_erase member)
    · exact aligned.connected member

theorem depart_aligned (aligned : k.Aligned) (client : String) : (k.depart client).Aligned := by
  have left (other : String) : (k.depart client).members other =
      (k.members other).erase client := by
    have listed := members_unsubscribeAll client other (k.delivery.disconnect client).1
      { k with delivery := (k.delivery.disconnect client).2 }
    refine listed.trans ?_
    split
    · rfl
    · rename_i unlisted
      refine (Coordinator.erase_of_not_contains ?_).symm
      intro member
      exact unlisted ((Delivery.mem_disconnect _ _ _).mpr ⟨_, aligned.routes other ▸
        Delivery.entry_of_mem member, member⟩)
  refine ⟨?_, ?_⟩
  · intro other
    rw [depart, delivery_operateAll, ← depart, left, Delivery.routes_disconnect, aligned.routes,
      Delivery.entry_without]
  · intro other who member
    rw [depart, delivery_operateAll]
    rw [left, Std.ExtTreeSet.mem_erase] at member
    exact Std.ExtTreeMap.mem_erase.mpr ⟨member.1, aligned.connected member.2⟩

/-! ### Deliveries -/

/-- `client` is offered the message `m` of a destination, and unsubscribed if it departs. -/
def offer (destination : String) (m : Message) (k : Core ε) (client : String) : Core ε :=
  match k.delivery.offer destination m client with
  | (none, delivery) => { k with delivery }
  | (some departure, delivery) => ({ k with delivery } : Core ε).release departure

/-- Departures come one after the other: the adapters hear of each of them before the next client
is offered the message. -/
theorem deliver_eq_foldl (destination : String) (m : Message) (k : Core ε) :
    k.deliver destination m = (k.delivery.routesOf destination).foldl (offer destination m) k := by
  have offered (clients : List String) : ∀ k : Core ε,
      (Delivery.offerAll destination m clients k.delivery).1.foldl release
        { k with delivery := (Delivery.offerAll destination m clients k.delivery).2 } =
          clients.foldl (offer destination m) k := by
    induction clients with
    | nil =>
      intro k
      rfl
    | cons client rest ih =>
      intro k
      rw [List.foldl_cons, ← ih, Delivery.offerAll]
      rcases reached : k.delivery.offer destination m client with ⟨_ | departure, d⟩
      · have kept : k.offer destination m client = { k with delivery := d } := by
          rw [offer, reached]
        rw [kept]
        rfl
      · have left : k.offer destination m client =
            ({ k with delivery := d } : Core ε).release departure := by
          rw [offer, reached]
        have stays : (({ k with delivery := d } : Core ε).release departure).delivery = d :=
          delivery_operateAll _ _ _
        have apart (d' : Delivery) :
            { ({ k with delivery := d } : Core ε).release departure with delivery := d' } =
              ({ k with delivery := d' } : Core ε).release departure := by
          have moved (d : Delivery) := operateAll_withDelivery (.unsubscribe departure.client) d
            departure.destinations k
          unfold release
          rw [moved d, moved d']
        rw [left, apart, stays]
        rfl
  exact offered (k.delivery.routesOf destination) k

/-- What an offer leaves: the client departed, or nothing but its mailbox and the counts
changed. -/
theorem offer_induction {P : Core ε → Prop} (destination : String) (m : Message)
    (tables : ∀ {k d}, P k → k.delivery.SameTables d → P { k with delivery := d })
    (depart : ∀ {k}, P k → ∀ client, P (k.depart client)) (holds : P k) (client : String) :
    P (k.offer destination m client) := by
  have outcome := Delivery.offered_offer k.delivery destination m client
  unfold offer
  generalize k.delivery.offer destination m client = result at outcome
  cases outcome with
  | absent free => exact holds
  | received outbox found => exact tables holds ⟨rfl, rfl, rfl⟩
  | departed outbox shut =>
    have left := tables (depart holds client)
      (d := { (k.delivery.disconnect client).2 with droppedCount := k.delivery.droppedCount + 1 })
      (by rw [Core.depart, delivery_operateAll]; exact ⟨rfl, rfl, rfl⟩)
    rw [Core.depart, ← operateAll_withDelivery] at left
    exact left

theorem deliver_induction {P : Core ε → Prop} (destination : String) (m : Message)
    (tables : ∀ {k d}, P k → k.delivery.SameTables d → P { k with delivery := d })
    (depart : ∀ {k}, P k → ∀ client, P (k.depart client)) (holds : P k) :
    P (k.deliver destination m) := by
  rw [deliver_eq_foldl]
  refine List.foldlRecOn (k.delivery.routesOf destination) (offer destination m) holds ?_
  intro k holds client _
  exact offer_induction destination m tables depart holds client

/-! ### Requests -/

theorem dispatch_aligned (aligned : k.Aligned) (request : Request) :
    (k.dispatch request).Aligned := by
  unfold dispatch
  split
  · rename_i a there _
    split
    · rename_i connected
      exact subscribe_aligned aligned there connected
    · exact aligned
  · exact unsubscribe_aligned aligned request.destination request.client
  · exact aligned.congr rfl rfl
  · exact aligned

end Exchange.Core

end Switchboard
