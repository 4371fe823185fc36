import Switchboard.Proofs.Exchange.Turns

/-!
# What is still to be handed on

What waits in the inboxes of the running adapters is due to the clients that these adapters record.
A look into a slot takes the message it finds out of one inbox. A delivery takes none out of any:
the listeners that it halts are those whose last subscriber departed, and nothing of theirs was due
to anybody else (`Lighter`).
-/

namespace Switchboard

/-! ### One inbox -/

namespace Inbox

/-- How many looks it takes to empty the inbox. -/
def load (i : Inbox) : Nat :=
  i.pending.length + if 0 < i.skipped then 1 else 0

theorem take_left (live : Bool) (i : Inbox) : (i.take live).2 = (i.take true).2 := by
  unfold take
  split
  · rfl
  · split <;> rfl

theorem eq_empty_of_outstanding {i : Inbox} (nothing : i.outstanding = 0) : i = {} := by
  obtain ⟨pending, skipped⟩ := i
  obtain ⟨told, read⟩ : skipped = 0 ∧ pending.length = 0 := Nat.add_eq_zero_iff.mp nothing
  rw [told, List.eq_nil_of_length_eq_zero read]

end Inbox

/-- At most the inbox of `sub` differs. -/
def Hub.Elsewhere (sub : Subscription) (h h' : Hub) : Prop :=
  ∀ other : Subscription, other.number ≠ sub.number → h'.inbox? other = h.inbox? other

namespace Hub

theorem elsewhere_receive (h : Hub) (sub : Subscription) : Elsewhere sub h (h.receive sub).2 := by
  intro other differs
  rw [inbox?_receive, if_neg fun same => differs same.2.symm]

theorem elsewhere_detach (h : Hub) (sub : Subscription) : Elsewhere sub h (h.detach sub) := by
  intro other differs
  rw [inbox?_detach, if_neg fun same => differs same.2.symm]

end Hub

/-! ### The inbox of an adapter -/

namespace ChannelAdapter

/-- What the listener of the adapter has still to read. It is nothing if the listener does not
run. -/
def inbox (a : ChannelAdapter) (h : Hub) : Inbox :=
  ((a.coordinator.held.bind Listener.slot).bind h.inbox?).getD {}

/-- What of an inbox is due to `client` through the adapter. -/
def due (client : String) (a : ChannelAdapter) (i : Inbox) : Multiset Message :=
  if client ∈ a.coordinator.members then (i.pending.map fun m => m.sentTo a.destination : List _)
  else 0

variable {a : ChannelAdapter} {adapters : Multiset ChannelAdapter} {h h' : Hub} {rest : Holdings}
  {l : Listener} {sub : Subscription} {client other : String} {left : ChannelAdapter × Hub}

theorem inbox_of_free (free : a.coordinator.held.bind Listener.slot = none) : a.inbox h = {} := by
  rw [inbox, free]
  rfl

theorem inbox_of_filled (held : a.coordinator.held = some l) (filled : l.slot = some sub) :
    a.inbox h = (h.inbox? sub).getD {} := by
  rw [inbox, held, Option.bind_some, filled, Option.bind_some]

theorem due_empty (client : String) (a : ChannelAdapter) : a.due client {} = 0 := ite_self 0

/-- A slot is read by one listener alone. -/
theorem inbox_elsewhere (sound : Sound h (a ::ₘ adapters) rest)
    (held : a.coordinator.held = some l) (filled : l.slot = some sub)
    (elsewhere : Hub.Elsewhere sub h h') : ∀ b ∈ adapters, b.inbox h' = b.inbox h := by
  intro b member
  cases slot : b.coordinator.held.bind Listener.slot with
  | none => rw [inbox_of_free slot, inbox_of_free slot]
  | some other =>
    obtain ⟨l', held', filled'⟩ := Option.bind_eq_some_iff.mp slot
    have differs : other.number ≠ sub.number := by
      obtain ⟨others, rfl⟩ := Multiset.exists_cons_of_mem member
      have own : a.holdings = .subscription sub + { l with slot := none }.holdings := by
        rw [holdings, held]
        exact Listener.holdings_of_slot filled
      have theirs : b.holdings = .subscription other + { l' with slot := none }.holdings := by
        rw [holdings, held']
        exact Listener.holdings_of_slot filled'
      have distinct := sound.balanced.distinct
      rw [Multiset.map_cons, Multiset.sum_cons, Multiset.map_cons, Multiset.sum_cons, own, theirs]
        at distinct
      intro same
      simp [same] at distinct
    rw [inbox_of_filled held' filled', inbox_of_filled held' filled', elsewhere other differs]

/-! ### A client is unsubscribed -/

theorem Unsubscribed.ready (gone : a.Unsubscribed client h left) : left.2.ready = h.ready := by
  cases gone with
  | stays => rfl
  | @halted l held last =>
    unfold Listener.halt
    cases l.slot <;> rfl

theorem Unsubscribed.others (gone : a.Unsubscribed client h left)
    (sound : Sound h (a ::ₘ adapters) rest) : ∀ b ∈ adapters, b.inbox left.2 = b.inbox h := by
  cases gone with
  | stays => exact fun _ _ => rfl
  | @halted l held last =>
    unfold Listener.halt
    cases filled : l.slot with
    | none => exact fun _ _ => rfl
    | some sub => exact inbox_elsewhere sound held filled (Hub.elsewhere_detach h sub)

theorem Unsubscribed.load (gone : a.Unsubscribed client h left) :
    (left.1.inbox left.2).load ≤ (a.inbox h).load := by
  cases gone with
  | stays => exact Nat.le_refl _
  | halted held last =>
    rw [inbox_of_free (a := { a with coordinator := _ }) rfl]
    exact Nat.zero_le _

/-- What is due to others stays: a listener that is halted had no subscribers but the client. -/
theorem Unsubscribed.due (gone : a.Unsubscribed client h left) (differs : other ≠ client) :
    left.1.due other (left.1.inbox left.2) = a.due other (a.inbox h) := by
  have still : other ∈ a.coordinator.members.erase client ↔ other ∈ a.coordinator.members := by
    rw [Std.ExtTreeSet.mem_erase, ne_eq, Std.LawfulEqCmp.compare_eq_iff_eq]
    exact and_iff_right (Ne.symm differs)
  cases gone with
  | stays =>
    unfold ChannelAdapter.due
    simp only [still]
    rfl
  | halted held last =>
    have absent : other ∉ a.coordinator.members := by
      rw [← still, last]
      exact Std.ExtTreeSet.not_mem_empty
    rw [inbox_of_free (a := { a with coordinator := _ }) rfl, due_empty, ChannelAdapter.due,
      if_neg absent]

end ChannelAdapter

/-! ### All of them -/

namespace Exchange.Core

variable {ε : Type} {M : Type} [AddCommMonoid M]

/-- The sum of `f` over the adapters and what they have still to read. -/
def total (f : ChannelAdapter → Inbox → M) (k : Core ε) : M :=
  (k.adapters.map fun a => f a (a.inbox k.hub)).sum

/-- What the tasks have still to hand on to `client`. -/
def due (client : String) (k : Core ε) : Multiset Message :=
  k.total (ChannelAdapter.due client)

def load (k : Core ε) : Nat :=
  k.total fun _ i => i.load

/-- `k'` came after `k`, and nothing was added to what is still to be done. -/
structure Lighter (k k' : Core ε) : Prop where
  ready : k'.hub.ready = k.hub.ready
  load : k'.load ≤ k.load
  outboxes {client : String} (connected : client ∈ k'.delivery.outboxes) :
    client ∈ k.delivery.outboxes
  /-- Nobody who is still connected is owed any less. -/
  due {client : String} (connected : client ∈ k'.delivery.outboxes) : k'.due client = k.due client

variable {k k' k'' : Core ε} {channels : String → Option String} {g : Guests} {id : String}
  {a : ChannelAdapter} {h : Hub} {task : Nat} {sub : Subscription}

/-- One adapter and the hub change, and the other adapters find their inboxes as before. -/
theorem total_replace (f : ChannelAdapter → Inbox → M) (audited : k.Audited channels g)
    (there : k.adapter? id = some a) (b : ChannelAdapter)
    (others : ∀ {adapters}, Sound k.hub (a ::ₘ adapters) g.holdings →
      ∀ c ∈ adapters, c.inbox h = c.inbox k.hub) :
    ∃ rest, k.total f = f a (a.inbox k.hub) + rest ∧
      ({ k with hub := h, registry := k.registry.setAdapter id b } : Core ε).total f =
        f b (b.inbox h) + rest := by
  obtain ⟨adapters, apart, set⟩ := adapters_eq_cons there
  have sound := audited.sound
  rw [apart] at sound
  have same : (adapters.map fun c => f c (c.inbox h)) =
      adapters.map fun c => f c (c.inbox k.hub) :=
    Multiset.map_congr rfl fun c member => by rw [others sound c member]
  refine ⟨(adapters.map fun c => f c (c.inbox k.hub)).sum, ?_, ?_⟩
  · rw [total, apart, Multiset.map_cons, Multiset.sum_cons]
  · rw [total, set, Multiset.map_cons, Multiset.sum_cons, same]

theorem total_congr (f : ChannelAdapter → Inbox → M)
    (same : ∀ sub, h.inbox? sub = k.hub.inbox? sub) :
    ({ k with hub := h } : Core ε).total f = k.total f := by
  have unread (a : ChannelAdapter) : a.inbox h = a.inbox k.hub := by
    unfold ChannelAdapter.inbox
    rw [funext same]
  exact congrArg Multiset.sum (Multiset.map_congr rfl fun a _ => congrArg (f a) (unread a))

theorem total_receive (audited : k.Audited channels g) (reads : k.Reads task id sub) :
    ∃ a inbox, k.adapter? id = some a ∧ k.hub.inbox? sub = some inbox ∧
      ∀ {M : Type} [AddCommMonoid M] (f : ChannelAdapter → Inbox → M), ∃ rest,
        k.total f = f a inbox + rest ∧
          (k.receive sub).total f = f a (inbox.take true).2 + rest := by
  obtain ⟨a, l, there, held, -, filled⟩ := reads
  obtain ⟨others, sound⟩ := audited.apart there
  obtain ⟨inbox, found⟩ := Listener.inbox?_of_filled (sound.kept_of_held held).balanced filled
  refine ⟨a, inbox, there, found, ?_⟩
  intro M _ f
  obtain ⟨rest, before, after⟩ := total_replace f audited there a
    fun sound => ChannelAdapter.inbox_elsewhere sound held filled (Hub.elsewhere_receive k.hub sub)
  have left : (k.hub.receive sub).2.inbox? sub = some (inbox.take true).2 := by
    rw [Hub.inbox?_receive, if_pos ⟨rfl, rfl⟩, found, Option.map_some, Inbox.take_left]
  rw [setAdapter_self (registered_of_adapter? there), ChannelAdapter.inbox_of_filled held filled,
    left] at after
  rw [ChannelAdapter.inbox_of_filled held filled, found] at before
  exact ⟨rest, before, after⟩

theorem Lighter.refl (k : Core ε) : k.Lighter k := ⟨rfl, Nat.le_refl _, id, fun _ => rfl⟩

theorem Lighter.trans (first : k.Lighter k') (second : k'.Lighter k'') : k.Lighter k'' where
  ready := second.ready.trans first.ready
  load := Nat.le_trans second.load first.load
  outboxes connected := first.outboxes (second.outboxes connected)
  due connected := (second.due connected).trans (first.due (second.outboxes connected))

/-! ### Deliveries -/

theorem lighter_unsubscribe {client : String} (audited : k.Audited channels g)
    (gone : client ∉ k.delivery.outboxes) (id : String) :
    k.Lighter (k.operate (.unsubscribe client) id) := by
  cases there : k.adapter? id with
  | none =>
    rw [operate_of_free there]
    exact .refl k
  | some a =>
    have left := a.unsubscribed_coordinated client k.hub
    rw [operate_of_adapter there]
    generalize a.coordinated (.unsubscribe client) k.hub = result at left
    refine ⟨left.ready, ?_, fun connected => connected, ?_⟩
    · obtain ⟨rest, before, after⟩ :=
        total_replace (fun _ i => i.load) audited there result.1 left.others
      rw [load, load, before, after]
      exact Nat.add_le_add_right left.load rest
    · intro other connected
      have differs : other ≠ client := by
        rintro rfl
        exact gone connected
      obtain ⟨rest, before, after⟩ :=
        total_replace (ChannelAdapter.due other) audited there result.1 left.others
      rw [due, due, before, after, left.due differs]

theorem lighter_depart (audited : k.Audited channels g) (client : String) :
    k.Lighter (k.depart client) := by
  have left : k.Lighter { k with delivery := (k.delivery.disconnect client).2 } :=
    ⟨rfl, Nat.le_refl _, Std.ExtTreeMap.mem_of_mem_erase, fun _ => rfl⟩
  have gone : client ∉ (k.delivery.disconnect client).2.outboxes := by
    simp [Delivery.disconnect, Delivery.takeRoutes]
  -- the client has left the tables before the first listener is halted
  refine (operateAll_induction (P := fun k' => k'.Audited channels g ∧
    client ∉ k'.delivery.outboxes ∧ k.Lighter k') _ ?_ ⟨audited.withDelivery _, gone, left⟩).2.2
  rintro k' ⟨audited, gone, lighter⟩ id
  refine ⟨(audited.operate _ id).1, ?_, lighter.trans (lighter_unsubscribe audited gone id)⟩
  rwa [delivery_operate]

theorem lighter_deliver (audited : k.Audited channels g) (destination : String) (m : Message) :
    k.Lighter (k.deliver destination m) := by
  refine (deliver_induction (P := fun k' => k'.Audited channels g ∧ k.Lighter k') destination m
    ?_ ?_ ⟨audited, .refl k⟩).2
  · rintro k' d ⟨audited, lighter⟩ same
    have unmoved : k'.Lighter { k' with delivery := d } :=
      ⟨rfl, Nat.le_refl _, fun connected => same.outboxes ▸ connected, fun _ => rfl⟩
    exact ⟨audited.withDelivery d, lighter.trans unmoved⟩
  · rintro k' ⟨audited, lighter⟩ client
    exact ⟨audited.depart client, lighter.trans (lighter_depart audited client)⟩

end Exchange.Core

end Switchboard
