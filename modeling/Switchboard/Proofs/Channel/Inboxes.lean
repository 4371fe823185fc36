import Switchboard.Proofs.Channel.Opening

/-!
# Inboxes of subscriptions

What becomes of the inbox of one subscription when something is done to the hub: it changes when a
message is sent into its channel and when it is read, and nothing else touches it.
-/

namespace Switchboard.Hub

def inbox? (h : Hub) (sub : Subscription) : Option Inbox :=
  (h.channel sub.channel).inboxes[sub.number]?

variable {h : Hub} {sub other : Subscription} {name : String} {n : Nat}

theorem outstanding_eq (h : Hub) (sub : Subscription) :
    h.outstanding sub = ((h.inbox? sub).map Inbox.outstanding).getD 0 := rfl

abbrev SameInbox (sub other : Subscription) : Prop :=
  sub.channel = other.channel ∧ sub.number = other.number

theorem inbox?_modifyChannel {f : Channel → Channel} {sub other : Subscription}
    {g : Option Inbox → Option Inbox}
    (changed : ∀ k, (f (h.channel sub.channel)).inboxes[k]? =
      if sub.number = k then g (h.channel sub.channel).inboxes[k]?
      else (h.channel sub.channel).inboxes[k]?) :
    (h.modifyChannel sub.channel f).inbox? other =
      if SameInbox sub other then g (h.inbox? other) else h.inbox? other := by
  unfold inbox?
  rw [channel_modifyChannel]
  by_cases channel : sub.channel = other.channel
  · rw [if_pos channel, changed]
    simp only [SameInbox, channel, true_and]
  · rw [if_neg channel, if_neg fun same => channel same.1]

theorem inbox?_detach (h : Hub) (sub other : Subscription) : (h.detach sub).inbox? other =
    if SameInbox sub other then none else h.inbox? other := by
  refine inbox?_modifyChannel (g := fun _ => none) ?_
  intro k
  simp only [Std.ExtTreeMap.getElem?_erase, Std.LawfulEqCmp.compare_eq_iff_eq]

theorem inbox?_receive (h : Hub) (sub other : Subscription) : (h.receive sub).2.inbox? other =
    if SameInbox sub other then
      (h.inbox? other).map fun inbox => (inbox.take (h.channel sub.channel).isOpen).2
    else h.inbox? other := by
  refine inbox?_modifyChannel (f := fun c => (c.receive sub.number).2)
    (g := Option.map fun inbox => (inbox.take (h.channel sub.channel).isOpen).2) ?_
  intro k
  unfold Channel.receive
  split
  · rename_i free
    split
    · rename_i same
      rw [← same, free]
      rfl
    · rfl
  · rename_i inbox found
    simp only [Std.ExtTreeMap.getElem?_insert, Std.LawfulEqCmp.compare_eq_iff_eq]
    split
    · rename_i same
      rw [← same, found]
      rfl
    · rfl

theorem inbox?_congr {h' : Hub}
    (same : (h'.channel sub.channel).inboxes = (h.channel sub.channel).inboxes) :
    h'.inbox? sub = h.inbox? sub := by
  rw [inbox?, same, inbox?]

theorem inbox?_retain (h : Hub) (n : Nat) (sub : Subscription) :
    (h.retain n).2.inbox? sub = h.inbox? sub :=
  inbox?_congr (field_modifyChannel Channel.inboxes rfl sub.channel)

theorem inbox?_release (h : Hub) (s : Sender) (sub : Subscription) :
    (h.release s).inbox? sub = h.inbox? sub :=
  inbox?_congr (field_modifyChannel Channel.inboxes rfl sub.channel)

theorem inbox?_wake (h : Hub) (n : Nat) (sub : Subscription) :
    (h.wake n).inbox? sub = h.inbox? sub :=
  inbox?_congr (field_modifyChannel (f := fun c => { c with waiting := [] }) Channel.inboxes rfl
    sub.channel)

theorem inbox?_openChannel (known : sub.channel < h.nextChannel) (name : String) :
    (h.openChannel name).2.inbox? sub = h.inbox? sub := by
  unfold openChannel
  split
  · rfl
  · dsimp only
    split
    · exact inbox?_retain h _ sub
    · refine (inbox?_retain _ _ sub).trans (inbox?_congr ?_)
      rw [channel_register, if_neg (Nat.ne_of_gt known)]

theorem inbox?_attach (h : Hub) (s : Sender) (label : String) (other : Subscription) :
    (h.attach s label).2.inbox? other =
      if s.channel = other.channel ∧ h.nextSubscription = other.number then some {}
      else h.inbox? other := by
  rw [inbox?, channel_attach]
  by_cases channel : s.channel = other.channel
  · simp only [channel, if_true, true_and, Std.ExtTreeMap.getElem?_insert,
      Std.LawfulEqCmp.compare_eq_iff_eq]
    rfl
  · simp only [channel, if_false, false_and]
    rfl

theorem inbox?_close (h : Hub) (name : String) (sub : Subscription) :
    (h.close name).2.inbox? sub = h.inbox? sub := by
  unfold close
  split
  · rfl
  · exact (inbox?_wake _ _ sub).trans (inbox?_release _ _ sub)

theorem inbox?_shutdown (h : Hub) (sub : Subscription) : h.shutdown.inbox? sub = h.inbox? sub :=
  List.foldlRecOn (motive := fun h' : Hub => h'.inbox? sub = h.inbox? sub) h.names.keys _ rfl
    fun h' same name _ => (inbox?_close h' name sub).trans same

theorem inbox?_wait (h : Hub) (task n : Nat) (other : Subscription) :
    (h.wait task n).inbox? other = h.inbox? other :=
  inbox?_congr (field_modifyChannel (f := fun c => { c with waiting := c.waiting ++ [task] })
    Channel.inboxes rfl other.channel)

theorem reached_send (h : Hub) (n : Nat) (m : Message) :
    (h.send n m).1.getD 0 = (h.channel n).receiverCount := by
  unfold send
  dsimp only
  split
  · rename_i nobody
    exact nobody.symm
  · rfl

theorem publish_of_registered (named : h.Registered name n) (m : Message) :
    h.publish name m = match send { h with publishCount := h.publishCount + 1 } n m with
      | (some reached, h') => (reached, h')
      | (none, h') => (0, { h' with sendErrorCount := h'.sendErrorCount + 1 }) := by
  have named : h.names[name]? = some n := named
  unfold publish
  dsimp only
  rw [named]
  dsimp only
  rcases send { h with publishCount := h.publishCount + 1 } n m with ⟨_ | _, h'⟩ <;> rfl

theorem publish_of_free (free : h.names[name]? = none) (m : Message) :
    h.publish name m = (0, { h with
      publishCount := h.publishCount + 1, sendErrorCount := h.sendErrorCount + 1 }) := by
  unfold publish
  dsimp only
  rw [free]

theorem reached_publish (h : Hub) (name : String) (m : Message) :
    (h.publish name m).1 = h.receiverCount name := by
  unfold receiverCount
  cases named : h.names[name]? with
  | none => rw [publish_of_free named]
  | some n =>
    have reached := reached_send { h with publishCount := h.publishCount + 1 } n m
    rw [publish_of_registered named]
    generalize send { h with publishCount := h.publishCount + 1 } n m = result at reached
    rcases result with ⟨_ | _, h'⟩ <;> exact reached

theorem inbox?_send (h : Hub) (n : Nat) (m : Message) (sub : Subscription) :
    (h.send n m).2.inbox? sub =
      if n = sub.channel then (h.inbox? sub).map (Inbox.push h.slots m) else h.inbox? sub := by
  unfold send
  dsimp only
  split
  · rename_i nobody
    split
    · rename_i same
      have empty : (h.channel n).inboxes = ∅ := Std.ExtTreeMap.eq_empty_iff_size_eq_zero.mpr nobody
      have none : h.inbox? sub = none := by
        rw [inbox?, ← same, empty, Std.ExtTreeMap.getElem?_empty]
      rw [none]
      rfl
    · rfl
  · rw [inbox?_wake, inbox?, channel_setChannel]
    split
    · rename_i same
      rw [inbox?, ← same, Channel.broadcast, Std.ExtTreeMap.getElem?_map]
    · rfl

theorem inbox?_publish (h : Hub) (name : String) (m : Message) (sub : Subscription) :
    (h.publish name m).2.inbox? sub =
      if h.Registered name sub.channel then (h.inbox? sub).map (Inbox.push h.slots m)
      else h.inbox? sub := by
  unfold Registered
  cases named : h.names[name]? with
  | none =>
    rw [publish_of_free named]
    rfl
  | some n =>
    have sent := inbox?_send { h with publishCount := h.publishCount + 1 } n m sub
    rw [publish_of_registered named]
    simp only [Option.some.injEq]
    generalize send { h with publishCount := h.publishCount + 1 } n m = result at sent
    rcases result with ⟨_ | _, h'⟩ <;> exact sent

end Switchboard.Hub
