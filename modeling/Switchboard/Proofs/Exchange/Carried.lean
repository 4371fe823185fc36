import Switchboard.Proofs.Exchange.Outstanding

/-!
# Carriage

Tasks carry what is outstanding into the mailboxes: what a client is owed and what it received add
up to the same, whatever tasks do and in whichever order (`Carried`). Each turn leaves less to do,
until no task is ready (`Turn.lighter`).
-/

namespace Switchboard.Exchange.Core

variable {ε : Type}

/-- From `k` to `k'`, each client that takes messages received some of those that it was owed and is
still owed the others. Nobody else received anything. -/
structure Carried (k k' : Core ε) : Prop where
  received {client : String} {mailbox : Nat} (opens : k.delivery.Opens client mailbox) :
    k'.delivery.Opens client mailbox ∧
      ∃ new, k'.delivery.pending mailbox = k.delivery.pending mailbox ++ new ∧
        (new : Multiset Message) + k'.due client = k.due client
  spared {mailbox : Nat} (shut : ∀ client, ¬ k.delivery.Opens client mailbox) :
    (∀ client, ¬ k'.delivery.Opens client mailbox) ∧
      k'.delivery.pending mailbox = k.delivery.pending mailbox

/-- The books of the exchange are in order. -/
structure Orderly (channels : String → Option String) (g : Guests) (busy : Option Nat)
    (k : Core ε) : Prop where
  audited : k.Audited channels g
  aligned : k.Aligned
  separate : k.delivery.Separate
  staffed : k.Staffed busy

variable {k k' k'' : Core ε} {channels : String → Option String} {g : Guests} {busy : Option Nat}
  {id : String} {task n : Nat} {sub : Subscription} {outcome : Drained} {m : Message}
  {rest : List Message} {rest' : List Nat}

theorem Carried.trans (first : k.Carried k') (second : k'.Carried k'') : k.Carried k'' where
  received opens := by
    obtain ⟨opens', new, gained, owed⟩ := first.received opens
    obtain ⟨opens'', new', gained', owed'⟩ := second.received opens'
    refine ⟨opens'', new ++ new', by rw [gained', gained, List.append_assoc], ?_⟩
    rw [← owed, ← owed', ← Multiset.coe_add, add_assoc]
  spared shut := by
    obtain ⟨shut', kept⟩ := first.spared shut
    obtain ⟨shut'', kept'⟩ := second.spared shut'
    exact ⟨shut'', kept'.trans kept⟩

theorem Carried.of_same (delivery : k'.delivery = k.delivery)
    (due : ∀ client, k'.due client = k.due client) : k.Carried k' where
  received opens := by
    refine ⟨delivery ▸ opens, [], by rw [delivery, List.append_nil], ?_⟩
    rw [Multiset.coe_nil, zero_add, due]
  spared shut := by
    rw [delivery]
    exact ⟨shut, rfl⟩

theorem Carried.refl (k : Core ε) : k.Carried k := .of_same rfl fun _ => rfl

/-! ### What tasks keep in order -/

theorem separate_stable : Stable fun k : Core ε => k.delivery.Separate where
  hub separate _ := separate
  look separate _ _ := separate
  mark separate _ _ := separate
  tables separate same := separate.fewer (fun outbox => same.outboxes ▸ outbox)
    (Nat.le_of_eq same.nextMailbox.symm)
  depart {k} separate client := by
    rw [depart, delivery_operateAll]
    exact separate.disconnect client

theorem Orderly.receive (orderly : k.Orderly channels g busy) (reads : k.Reads task id sub) :
    (k.receive sub).Orderly channels g busy where
  audited := orderly.audited.receive reads
  aligned := orderly.aligned.congr rfl rfl
  separate := orderly.separate
  staffed := orderly.staffed.tended orderly.audited (Hub.tends_receive _ _)

theorem Orderly.deliver (orderly : k.Orderly channels g busy) (destination : String) (m : Message) :
    (k.deliver destination m).Orderly channels g busy where
  audited := Audited.stable.deliver orderly.audited destination m
  aligned := aligned_stable.deliver orderly.aligned destination m
  separate := separate_stable.deliver orderly.separate destination m
  staffed := orderly.staffed.deliver orderly.audited destination m

/-! ### One message -/

theorem delivery_deliver (destination : String) (m : Message) (k : Core ε) :
    (k.deliver destination m).delivery = (k.delivery.deliver destination m).2 := by
  unfold deliver
  refine List.foldlRecOn (motive := fun k' : Core ε =>
    k'.delivery = (k.delivery.deliver destination m).2) _ release rfl ?_
  intro k' same d _
  exact (delivery_operateAll _ _ _).trans same

theorem Aligned.count_routesOf (aligned : k.Aligned) (id client : String) :
    (k.delivery.routesOf id).count client = if client ∈ k.members id then 1 else 0 := by
  rw [aligned.routesOf]
  split
  · rename_i member
    have distinct : (k.members id).toList.Nodup :=
      Std.ExtTreeSet.distinct_toList.imp fun differs same =>
        differs (Std.LawfulEqCmp.compare_eq_iff_eq.mpr same)
    exact List.count_eq_one_of_mem distinct (Std.ExtTreeSet.mem_toList.mpr member)
  · rename_i absent
    exact List.count_eq_zero.mpr fun member => absent (Std.ExtTreeSet.mem_toList.mp member)

/-- The message that a look finds is handed to those who were owed it. -/
theorem carried_message (orderly : k.Orderly channels g busy) (reads : k.Reads task id sub)
    (waits : k.hub.inbox? sub = some { pending := m :: rest }) :
    k.Carried ((k.receive sub).deliver id (m.sentTo id)) := by
  obtain ⟨a, inbox, there, found, tally⟩ := total_receive orderly.audited reads
  rw [waits] at found
  cases found
  have lighter := lighter_deliver (orderly.audited.receive reads) id (m.sentTo id)
  have hands : k.delivery.Hands (m.sentTo id) (k.delivery.routesOf id)
      ((k.receive sub).deliver id (m.sentTo id)).delivery := by
    rw [delivery_deliver]
    exact Delivery.hands_deliver orderly.separate id (m.sentTo id)
  refine ⟨?_, hands.spared⟩
  intro client mailbox opens
  obtain ⟨opens', gained⟩ := hands.taken opens
  refine ⟨opens', _, gained, ?_⟩
  -- the client is still there, so what the delivery halts was not due to it
  have connected : client ∈ ((k.receive sub).deliver id (m.sentTo id)).delivery.outboxes := by
    rw [Std.ExtTreeMap.mem_iff_isSome_getElem?, opens'.outbox]
    rfl
  obtain ⟨others, before, after⟩ := tally (ChannelAdapter.due client)
  rw [lighter.due connected, due, due, before, after, ← add_assoc,
    orderly.aligned.count_routesOf, members_of_adapter there]
  congr 1
  have named : a.destination = id := orderly.staffed.named there
  unfold ChannelAdapter.due
  rw [named]
  split
  · exact Multiset.singleton_add _ _
  · rfl

/-- A look that finds no message takes nothing from anybody. -/
theorem carried_receive {inbox : Inbox} (orderly : k.Orderly channels g busy)
    (reads : k.Reads task id sub) (found : k.hub.inbox? sub = some inbox)
    (kept : (inbox.take true).2.pending = inbox.pending) : k.Carried (k.receive sub) := by
  refine .of_same rfl ?_
  intro client
  obtain ⟨a, inbox', -, found', tally⟩ := total_receive orderly.audited reads
  rw [found] at found'
  cases found'
  obtain ⟨others, before, after⟩ := tally (ChannelAdapter.due client)
  rw [due, due, before, after]
  unfold ChannelAdapter.due
  rw [kept]

/-! ### Turns -/

theorem inbox_of_nothing (audited : k.Audited channels g) (reads : k.Reads task id sub)
    (nothing : k.hub.outstanding sub = 0) : k.hub.inbox? sub = some {} := by
  obtain ⟨a, inbox, -, found, -⟩ := total_receive audited reads
  rw [Hub.outstanding_eq, found] at nothing
  rw [found, Inbox.eq_empty_of_outstanding nothing]

theorem Drains.carried (drains : Drains task id sub n k outcome k') :
    k.Orderly channels g busy → k.Carried k' := by
  induction drains with
  | more => exact fun _ => .refl _
  | detached gone => exact fun _ => .refl _
  | empty reads nothing =>
    intro orderly
    exact carried_receive orderly reads (inbox_of_nothing orderly.audited reads nothing) rfl
  | message reads waits others ih =>
    intro orderly
    exact (carried_message orderly reads waits).trans (ih ((orderly.receive reads).deliver _ _))
  | lagged reads missed skipped others ih =>
    intro orderly
    have kept := carried_receive orderly reads missed (by rw [Inbox.take, if_pos skipped])
    exact kept.trans (ih (orderly.receive reads))

theorem load_receive {inbox : Inbox} (audited : k.Audited channels g) (reads : k.Reads task id sub)
    (found : k.hub.inbox? sub = some inbox) :
    (k.receive sub).load + inbox.load = k.load + (inbox.take true).2.load := by
  obtain ⟨a, inbox', -, found', tally⟩ := total_receive audited reads
  rw [found] at found'
  cases found'
  obtain ⟨rest, before, after⟩ := tally fun _ i => i.load
  have before : k.load = inbox.load + rest := before
  have after : (k.receive sub).load = (inbox.take true).2.load + rest := after
  omega

/-- Each look but the last one leaves less to do. -/
theorem Drains.lighter (drains : Drains task id sub n k outcome k') : k.Audited channels g →
    k'.hub.ready = k.hub.ready ∧ k'.load ≤ k.load ∧ (outcome = .more → k'.load + n ≤ k.load) := by
  induction drains with
  | more => exact fun _ => ⟨rfl, Nat.le_refl _, fun _ => Nat.le_refl _⟩
  | detached gone => exact fun _ => ⟨rfl, Nat.le_refl _, nofun⟩
  | @empty n k reads nothing =>
    intro audited
    have looked := load_receive audited reads (inbox_of_nothing audited reads nothing)
    exact ⟨rfl, Nat.le_of_eq looked, nofun⟩
  | @message n k m rest outcome k' reads waits others ih =>
    intro audited
    have received := audited.receive reads
    obtain ⟨ready, load, much⟩ := ih (Audited.stable.deliver received id (m.sentTo id))
    have delivered := lighter_deliver received id (m.sentTo id)
    have less := delivered.load
    have looked : (k.receive sub).load + (rest.length + 1) = k.load + rest.length :=
      load_receive audited reads waits
    refine ⟨ready.trans delivered.ready, by omega, ?_⟩
    intro more
    have others := much more
    omega
  | @lagged n k inbox outcome k' reads missed skipped others ih =>
    intro audited
    obtain ⟨ready, load, much⟩ := ih (audited.receive reads)
    have looked := load_receive audited reads missed
    simp only [Inbox.take, if_pos skipped, Inbox.load, Nat.lt_irrefl, if_false] at looked
    refine ⟨ready, by omega, ?_⟩
    intro more
    have others := much more
    omega

theorem Carried.of_tasks {h : Hub} (same : ∀ sub, h.inbox? sub = k.hub.inbox? sub) :
    k.Carried { k with hub := h } :=
  .of_same rfl fun _ => total_congr _ same

theorem total_mark {M : Type} [AddCommMonoid M] {a : ChannelAdapter} {l : Listener}
    (f : ChannelAdapter → Inbox → M) (audited : k.Audited channels g)
    (there : k.adapter? id = some a) (held : a.coordinator.held = some l) (tasks : List Nat)
    (same : ∀ i, f (MessagingAdapter.setListener ε { l with begun := true } a) i = f a i) :
    (k.relisten id a { l with begun := true } { k.hub with ready := tasks }).total f =
      k.total f := by
  obtain ⟨rest, before, after⟩ := total_replace (h := { k.hub with ready := tasks }) f audited there
    (MessagingAdapter.setListener ε { l with begun := true } a) fun _ _ _ => rfl
  have slot : (MessagingAdapter.setListener ε { l with begun := true } a).inbox
      { k.hub with ready := tasks } = a.inbox k.hub := by
    unfold ChannelAdapter.inbox
    rw [held]
    rfl
  rw [relisten, after, before, slot, same]

theorem inbox?_finish (task : Nat) (sub : Subscription) (outcome : Drained) (k : Core ε)
    (other : Subscription) :
    (k.finish task sub outcome).hub.inbox? other = k.hub.inbox? other := by
  cases outcome with
  | more => rfl
  | empty => exact Hub.inbox?_wait k.hub task sub.channel other
  | detached => rfl

theorem finish_eq (task : Nat) (sub : Subscription) (outcome : Drained) (k : Core ε) :
    k.finish task sub outcome = { k with hub := (k.finish task sub outcome).hub } := by
  cases outcome <;> rfl

theorem Orderly.begin {a : ChannelAdapter} {l : Listener} (orderly : k.Orderly channels g none)
    (ready : k.hub.ready = task :: rest') (there : k.adapter? id = some a)
    (held : a.coordinator.held = some l) :
    (k.relisten id a { l with begun := true } { k.hub with ready := rest' }).Orderly channels g
      (some task) := by
  have first := orderly.audited.similar (Hub.similar_ready k.hub rest')
  exact ⟨Audited.stable.mark first there held, relisten_aligned orderly.aligned there _ _,
    orderly.separate, (orderly.staffed.take ready).mark first there held⟩

theorem Turn.carried (turn : k.Turn k') (orderly : k.Orderly channels g none) : k.Carried k' := by
  cases turn with
  | idle nobody => exact .refl k
  | stray ready gone => exact .of_tasks fun _ => rfl
  | @turn task rest id sub a l outcome k' ready there held has filled drains =>
    have begun : k.Carried
        (k.relisten id a { l with begun := true } { k.hub with ready := rest }) :=
      .of_same rfl fun client => total_mark _ orderly.audited there held rest fun _ => rfl
    have drained := begun.trans (drains.carried (orderly.begin ready there held))
    rw [finish_eq]
    exact drained.trans (.of_tasks (inbox?_finish task sub outcome k'))

/-- A turn takes a task off the ready ones or uses up a batch. -/
theorem Turn.lighter (turn : k.Turn k') (orderly : k.Orderly channels g none)
    (ready : k.hub.ready ≠ []) :
    k'.hub.ready.length + k'.load < k.hub.ready.length + k.load := by
  cases turn with
  | idle nobody => exact absurd nobody ready
  | @stray task rest first gone =>
    have same : ({ k with hub := { k.hub with ready := rest } } : Core ε).load = k.load :=
      total_congr _ fun _ => rfl
    rw [same, first, List.length_cons]
    exact Nat.add_lt_add_right (Nat.lt_succ_self rest.length) k.load
  | @turn task rest id sub a l outcome k' first there held has filled drains =>
    have begun : (k.relisten id a { l with begun := true } { k.hub with ready := rest }).load =
        k.load := total_mark _ orderly.audited there held rest fun _ => rfl
    obtain ⟨still, less, much⟩ := drains.lighter (orderly.begin first there held).audited
    have left : (k'.finish task sub outcome).load = k'.load := by
      rw [finish_eq]
      exact total_congr _ (inbox?_finish task sub outcome k')
    have still : k'.hub.ready = rest := still
    rw [left, first, List.length_cons]
    cases outcome with
    | more =>
      -- the task is ready again, but a whole batch is read
      have batch : k'.load + 64 ≤ _ := much rfl
      simp only [finish, List.length_append, List.length_singleton, still]
      omega
    | empty =>
      change k'.hub.ready.length + _ < _
      rw [still]
      omega
    | detached =>
      change k'.hub.ready.length + _ < _
      rw [still]
      omega

end Switchboard.Exchange.Core
