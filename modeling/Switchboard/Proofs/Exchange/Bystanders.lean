import Switchboard.Proofs.Exchange.Accounts

/-!
# Bystanders

What is done in the name of one client is no concern of the others: it leaves another client its
outbox with what waits there, its routes and its subscriptions, and it leaves each destination that
the other is routed to in its state (`Spares`).
-/

namespace Switchboard

namespace Coordinator.Operation

/-- The operation is about the client. -/
def Concerns (client : String) : Operation → Prop
  | subscribe id | unsubscribe id => id = client
  | start | stop => False

variable {op : Operation} {client other : String}

theorem concerns_subscribe (client : String) : (subscribe client).Concerns client := rfl

theorem concerns_unsubscribe (client : String) : (unsubscribe client).Concerns client := rfl

theorem Concerns.mem_members (concerns : op.Concerns client) (differs : other ≠ client)
    (members : Std.ExtTreeSet String) : other ∈ op.members members ↔ other ∈ members := by
  cases op with
  | subscribe id =>
    obtain rfl : id = client := concerns
    simp [Operation.members, Ne.symm differs]
  | unsubscribe id =>
    obtain rfl : id = client := concerns
    simp [Operation.members, Ne.symm differs]
  | start | stop => exact concerns.elim

end Coordinator.Operation

namespace ChannelAdapter

variable {op : Coordinator.Operation} {client other : String} {a : ChannelAdapter}

/-- While somebody else is subscribed, a client comes and goes without anybody calling the
listener. -/
theorem coordinated_of_member (concerns : op.Concerns client) (differs : other ≠ client)
    (member : other ∈ a.coordinator.members) (h : Hub) :
    a.coordinated op h = ({ a with coordinator :=
      { a.coordinator with members := op.members a.coordinator.members } }, h) := by
  have stays := (concerns.mem_members differs _).mpr member
  have filled {members : Std.ExtTreeSet String} (member : other ∈ members) :
      members.isEmpty = false := by
    rw [Bool.eq_false_iff]
    intro empty
    rw [Std.ExtTreeSet.isEmpty_iff.mp empty] at member
    exact Std.ExtTreeSet.not_mem_empty member
  unfold coordinated
  cases op with
  | subscribe id =>
    dsimp only [Coordinator.Operation.run, Coordinator.subscribe]
    rw [filled member]
    rfl
  | unsubscribe id =>
    dsimp only [Coordinator.Operation.run, Coordinator.unsubscribe]
    have left : (a.coordinator.members.erase id).isEmpty = false := filled stays
    rw [left]
    split
    · rfl
    · rename_i absent
      rw [Coordinator.Operation.members, Coordinator.erase_of_not_contains absent]
  | start | stop => exact concerns.elim

end ChannelAdapter

namespace Exchange.Core

variable {ε : Type}

/-- From `k` to `k'`, `other` kept what it has, and where it is routed nothing was started or
stopped. -/
structure Spares (other : String) (k k' : Core ε) : Prop where
  outbox : k'.delivery.outboxes[other]? = k.delivery.outboxes[other]?
  mailbox {mailbox} (feeds : k.delivery.outboxes[other]? = some mailbox) :
    k'.delivery.mailboxes[mailbox]? = k.delivery.mailboxes[mailbox]?
  routed (id) : k'.delivery.isRouted id other = k.delivery.isRouted id other
  subscribed (id) : other ∈ k'.members id ↔ other ∈ k.members id
  state {id a} (there : k.adapter? id = some a) (routed : k.delivery.isRouted id other = true) :
    ∃ a', k'.adapter? id = some a' ∧ a'.coordinator.held = a.coordinator.held ∧
      a'.state k'.hub = a.state k.hub

/-- `other` is subscribed wherever it is routed. -/
def Enlisted (other : String) (k : Core ε) : Prop :=
  ∀ id, k.delivery.isRouted id other = true → other ∈ k.members id

variable {k k' k'' : Core ε} {g : Guests} {op : Coordinator.Operation} {client other id : String}

theorem Aligned.enlisted (aligned : k.Aligned) (other : String) : k.Enlisted other := by
  intro id routed
  obtain ⟨clients, found, member⟩ := Delivery.isRouted_iff.mp routed
  rw [aligned.routes, Delivery.entry] at found
  split at found
  · cases found
  · cases found
    exact member

theorem Spares.refl (other : String) (k : Core ε) : k.Spares other k :=
  ⟨rfl, fun _ => rfl, fun _ => rfl, fun _ => Iff.rfl, fun there _ => ⟨_, there, rfl, rfl⟩⟩

theorem Spares.trans (first : k.Spares other k') (second : k'.Spares other k'') :
    k.Spares other k'' where
  outbox := second.outbox.trans first.outbox
  mailbox feeds := (second.mailbox (first.outbox.trans feeds)).trans (first.mailbox feeds)
  routed id := (second.routed id).trans (first.routed id)
  subscribed id := (second.subscribed id).trans (first.subscribed id)
  state {id a} there routed := by
    obtain ⟨a', there', held, state⟩ := first.state there routed
    obtain ⟨a'', there'', held', state'⟩ := second.state there' ((first.routed id).trans routed)
    exact ⟨a'', there'', held'.trans held, state'.trans state⟩

theorem Spares.enlisted (spares : k.Spares other k') (enlisted : k.Enlisted other) :
    k'.Enlisted other := by
  intro id routed
  rw [spares.routed] at routed
  exact (spares.subscribed id).mpr (enlisted id routed)

/-- The adapters stay as they are. -/
theorem Spares.of_delivery {d : Delivery}
    (outbox : d.outboxes[other]? = k.delivery.outboxes[other]?)
    (mailbox : ∀ {mailbox}, k.delivery.outboxes[other]? = some mailbox →
      d.mailboxes[mailbox]? = k.delivery.mailboxes[mailbox]?)
    (routed : ∀ id, d.isRouted id other = k.delivery.isRouted id other) :
    k.Spares other { k with delivery := d } :=
  ⟨outbox, mailbox, routed, fun _ => Iff.rfl, fun there _ => ⟨_, there, rfl, rfl⟩⟩

theorem Spares.of_hub {h : Hub} (solvent : k.Solvent g) (grows : k.hub.Grows h) :
    k.Spares other { k with hub := h } :=
  ⟨rfl, fun _ => rfl, fun _ => rfl, fun _ => Iff.rfl,
    fun there _ => ⟨_, there, rfl, ChannelAdapter.state_of_grows (solvent.fits there) grows⟩⟩

theorem spares_operate (solvent : k.Solvent g) (enlisted : k.Enlisted other)
    (concerns : op.Concerns client) (differs : other ≠ client) (id : String) :
    k.Spares other (k.operate op id) := by
  cases there : k.adapter? id with
  | none =>
    rw [operate_of_free there]
    exact .refl other k
  | some a =>
    have grows := (solvent.operate op id).2
    rw [operate_of_adapter there] at grows ⊢
    have found (id') := adapter?_setAdapter k (a.coordinated op k.hub).2 id id'
      (a.coordinated op k.hub).1
    refine ⟨rfl, fun _ => rfl, fun _ => rfl, ?_, ?_⟩
    · intro id'
      rw [members_setAdapter]
      split
      · rename_i same
        rw [← same, members_of_adapter there]
        have members := Coordinator.run_members a.provider op a.coordinator k.hub
        change other ∈ (op.run a.provider a.coordinator k.hub).2.1.members ↔ _
        rw [members]
        exact concerns.mem_members differs _
      · rfl
    · intro id' a' there' routed
      rw [found]
      split
      · rename_i same
        subst same
        cases there.symm.trans there'
        have member := enlisted id routed
        rw [members_of_adapter there] at member
        have unmoved := ChannelAdapter.coordinated_of_member concerns differs member k.hub
        refine ⟨_, rfl, ?_, ?_⟩ <;> rw [unmoved]
        rfl
      · exact ⟨a', there', rfl, ChannelAdapter.state_of_grows (solvent.fits there') grows⟩

theorem spares_operateAll (solvent : k.Solvent g) (enlisted : k.Enlisted other)
    (concerns : op.Concerns client) (differs : other ≠ client) (ids : List String) :
    k.Spares other (k.operateAll op ids) := by
  have both : (k.operateAll op ids).Solvent g ∧ k.Spares other (k.operateAll op ids) := by
    refine operateAll_induction (P := fun k' => k'.Solvent g ∧ k.Spares other k') ids ?_
      ⟨solvent, .refl other k⟩
    rintro k' ⟨solvent', spares⟩ id
    exact ⟨(solvent'.operate op id).1,
      spares.trans (spares_operate solvent' (spares.enlisted enlisted) concerns differs id)⟩
  exact both.2

/-! ### What is done in the name of a client -/

theorem spares_connect (separate : k.delivery.Separate) (differs : other ≠ client) :
    k.Spares other { k with delivery := (k.delivery.connect client).2 } := by
  refine .of_delivery ?_ ?_ fun _ => rfl
  · simp [Delivery.connect, Std.ExtTreeMap.getElem?_insert, Ne.symm differs]
  · intro mailbox feeds
    have old : k.delivery.nextMailbox ≠ mailbox := Nat.ne_of_gt (separate.lt feeds)
    simp [Delivery.connect, Std.ExtTreeMap.getElem?_insert, old]

theorem spares_leave (k : Core ε) (differs : other ≠ client) (dropped : Nat) :
    k.Spares other { k with
      delivery := { (k.delivery.disconnect client).2 with droppedCount := dropped } } := by
  refine .of_delivery ?_ (fun _ => rfl) ?_
  · simp [Delivery.disconnect, Delivery.takeRoutes, Std.ExtTreeMap.getElem?_erase,
      Ne.symm differs]
  · intro id
    rw [Bool.eq_iff_iff]
    refine (Delivery.isRouted_disconnect k.delivery client id other).trans ?_
    rw [and_iff_right (Ne.symm differs)]

theorem spares_depart (solvent : k.Solvent g) (enlisted : k.Enlisted other)
    (differs : other ≠ client) : k.Spares other (k.depart client) := by
  have left : k.Spares other { k with delivery := (k.delivery.disconnect client).2 } :=
    spares_leave k differs (k.delivery.disconnect client).2.droppedCount
  exact left.trans (spares_operateAll (solvent.withDelivery _) (left.enlisted enlisted)
    (Coordinator.Operation.concerns_unsubscribe client) differs _)

/-- The client that is offered a message takes it, or departs, or is passed over. -/
theorem spares_offer (solvent : k.Solvent g) (enlisted : k.Enlisted other)
    (separate : k.delivery.Separate) (differs : other ≠ client) (destination : String)
    (m : Message) : k.Spares other (k.offer destination m client) := by
  have outcome := Delivery.offered_offer k.delivery destination m client
  unfold offer
  generalize k.delivery.offer destination m client = result at outcome
  cases outcome with
  | absent free => exact .refl other k
  | @received mailbox pending outbox found =>
    refine .of_delivery rfl ?_ fun _ => rfl
    intro mailbox' feeds
    have apart : mailbox ≠ mailbox' := by
      rintro rfl
      exact differs (separate.injective feeds outbox)
    simp [Std.ExtTreeMap.getElem?_insert, apart]
  | departed outbox shut =>
    have left := spares_leave k differs (k.delivery.droppedCount + 1)
    exact left.trans (spares_operateAll (solvent.withDelivery _) (left.enlisted enlisted)
      (Coordinator.Operation.concerns_unsubscribe client) differs _)

theorem spares_addRoute (k : Core ε) (differs : other ≠ client) (id : String) :
    k.Spares other { k with delivery := (k.delivery.addRoute id client).2 } := by
  refine .of_delivery rfl (fun _ => rfl) ?_
  intro id'
  rw [Bool.eq_iff_iff, Delivery.isRouted_addRoute]
  exact or_iff_right fun same => differs same.2.symm

theorem spares_removeRoute (k : Core ε) (differs : other ≠ client) (id : String) :
    k.Spares other { k with delivery := (k.delivery.removeRoute id client).2 } := by
  refine .of_delivery rfl (fun _ => rfl) ?_
  intro id'
  rw [Bool.eq_iff_iff, Delivery.isRouted_removeRoute]
  exact and_iff_right fun same => differs same.2.symm

theorem spares_dispatch (solvent : k.Solvent g) (enlisted : k.Enlisted other) {request : Request}
    (differs : other ≠ request.client) : k.Spares other (k.dispatch request) := by
  unfold dispatch
  split
  · split
    · have added := spares_addRoute k differs request.destination
      exact added.trans (spares_operate (solvent.withDelivery _) (added.enlisted enlisted)
        (Coordinator.Operation.concerns_subscribe request.client) differs _)
    · exact .refl other k
  · have removed := spares_removeRoute k differs request.destination
    exact removed.trans (spares_operate (solvent.withDelivery _) (removed.enlisted enlisted)
      (Coordinator.Operation.concerns_unsubscribe request.client) differs _)
  · exact .of_hub solvent (Hub.similar_publish _ _ _).grows
  · exact .refl other k

end Exchange.Core

end Switchboard
