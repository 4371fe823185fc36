import Mathlib.Algebra.Group.Prod
import Mathlib.Algebra.BigOperators.Group.Multiset.Basic
import Switchboard.Channel.Hub

/-!
# What is held of a hub

Senders and subscriptions are handed out by the hub and given back to it. `Balanced` says that its
channels count exactly the senders and the inboxes that are held by somebody. Every operation
keeps the hub balanced with what it hands out or takes back, whoever holds the rest.

`Later` and `Grows` say what a hub keeps of the names of an earlier one.
-/

namespace Switchboard

/-- Senders and subscriptions that somebody holds. -/
abbrev Holdings := Multiset Sender × Multiset Subscription

namespace Holdings

def sender (s : Sender) : Holdings := ({s}, 0)

def subscription (sub : Subscription) : Holdings := (0, {sub})

@[simp]
theorem senders_sender (s : Sender) : (sender s).1 = {s} := rfl

@[simp]
theorem subscriptions_sender (s : Sender) : (sender s).2 = 0 := rfl

@[simp]
theorem senders_subscription (sub : Subscription) : (subscription sub).1 = 0 := rfl

@[simp]
theorem subscriptions_subscription (sub : Subscription) : (subscription sub).2 = {sub} := rfl

end Holdings

namespace Hub

abbrev Registered (h : Hub) (name : String) (n : Nat) : Prop :=
  h.names[name]? = some n

/-- The hub counts what is held: a channel has one sender for each one held and one more while it
is registered, and an inbox for each subscription held. -/
structure Balanced (h : Hub) (held : Holdings) : Prop where
  registered {name n} (named : h.Registered name n) :
    (h.channel n).senders = held.1.count ⟨n⟩ + 1
  unregistered {n} (free : ∀ name, ¬ h.Registered name n) :
    (h.channel n).senders = held.1.count ⟨n⟩
  inboxes {n k} : k ∈ (h.channel n).inboxes ↔ ∃ sub ∈ held.2, sub.channel = n ∧ sub.number = k
  distinct : (held.2.map Subscription.number).Nodup
  number_lt {sub} (live : sub ∈ held.2) : sub.number < h.nextSubscription
  subscription_lt {sub} (live : sub ∈ held.2) : sub.channel < h.nextChannel
  sender_lt {s} (live : s ∈ held.1) : s.channel < h.nextChannel
  name_lt {name n} (named : h.Registered name n) : n < h.nextChannel
  injective {name name' n} (first : h.Registered name n) (second : h.Registered name' n) :
    name = name'

/-- `h'` came after `h`: a name registered in between has a new channel. -/
structure Later (h h' : Hub) : Prop where
  names {name n} (named : h'.Registered name n) : h.Registered name n ∨ h.nextChannel ≤ n
  next_le : h.nextChannel ≤ h'.nextChannel

/-- `h'` came after `h`, and nothing was closed in between. -/
structure Grows (h h' : Hub) : Prop extends Later h h' where
  kept {name n} (named : h.Registered name n) : h'.Registered name n
  shutDown : h'.isShutDown = h.isShutDown

/-- `h'` differs from `h` in messages and tasks alone. -/
structure Similar (h h' : Hub) : Prop where
  names : h'.names = h.names
  nextChannel : h'.nextChannel = h.nextChannel
  nextSubscription : h'.nextSubscription = h.nextSubscription
  shutDown : h'.isShutDown = h.isShutDown
  senders (n) : (h'.channel n).senders = (h.channel n).senders
  inboxes {n k} : k ∈ (h'.channel n).inboxes ↔ k ∈ (h.channel n).inboxes

theorem Later.refl (h : Hub) : Later h h := ⟨Or.inl, Nat.le_refl _⟩

theorem Later.trans {h h' h'' : Hub} (first : Later h h') (second : Later h' h'') :
    Later h h'' where
  names named := by
    rcases second.names named with old | new
    · exact first.names old
    · exact Or.inr (Nat.le_trans first.next_le new)
  next_le := Nat.le_trans first.next_le second.next_le

theorem Grows.refl (h : Hub) : Grows h h := ⟨Later.refl h, id, rfl⟩

theorem Grows.trans {h h' h'' : Hub} (first : Grows h h') (second : Grows h' h'') :
    Grows h h'' :=
  ⟨first.toLater.trans second.toLater, fun named => second.kept (first.kept named),
    second.shutDown.trans first.shutDown⟩

theorem Similar.refl (h : Hub) : Similar h h := ⟨rfl, rfl, rfl, rfl, fun _ => rfl, Iff.rfl⟩

theorem Similar.trans {h h' h'' : Hub} (first : Similar h h') (second : Similar h' h'') :
    Similar h h'' where
  names := second.names.trans first.names
  nextChannel := second.nextChannel.trans first.nextChannel
  nextSubscription := second.nextSubscription.trans first.nextSubscription
  shutDown := second.shutDown.trans first.shutDown
  senders n := (second.senders n).trans (first.senders n)
  inboxes := second.inboxes.trans first.inboxes

theorem Similar.registered {h h' : Hub} (similar : Similar h h') {name : String} {n : Nat} :
    h'.Registered name n ↔ h.Registered name n := by
  rw [Registered, Registered, similar.names]

theorem Similar.grows {h h' : Hub} (similar : Similar h h') : Grows h h' where
  names named := Or.inl (similar.registered.mp named)
  next_le := Nat.le_of_eq similar.nextChannel.symm
  kept named := similar.registered.mpr named
  shutDown := similar.shutDown

theorem Balanced.similar {h h' : Hub} {held : Holdings} (balanced : Balanced h held)
    (similar : Similar h h') : Balanced h' held where
  registered named := by
    rw [similar.senders]
    exact balanced.registered (similar.registered.mp named)
  unregistered free := by
    rw [similar.senders]
    exact balanced.unregistered fun name named => free name (similar.registered.mpr named)
  inboxes := similar.inboxes.trans balanced.inboxes
  distinct := balanced.distinct
  number_lt live := similar.nextSubscription ▸ balanced.number_lt live
  subscription_lt live := similar.nextChannel ▸ balanced.subscription_lt live
  sender_lt live := similar.nextChannel ▸ balanced.sender_lt live
  name_lt named := similar.nextChannel ▸ balanced.name_lt (similar.registered.mp named)
  injective first second :=
    balanced.injective (similar.registered.mp first) (similar.registered.mp second)

/-! ### Channels by number -/

@[simp, grind =]
theorem channel_setChannel (h : Hub) (n m : Nat) (c : Channel) :
    (h.setChannel n c).channel m = if n = m then c else h.channel m := by
  simp only [channel, setChannel, Std.ExtTreeMap.getElem?_insert, Std.LawfulEqCmp.compare_eq_iff_eq]
  split <;> rfl

@[simp, grind =]
theorem channel_modifyChannel (h : Hub) (n m : Nat) (f : Channel → Channel) :
    (h.modifyChannel n f).channel m = if n = m then f (h.channel n) else h.channel m :=
  channel_setChannel h n m _

theorem field_modifyChannel {β : Type} {h : Hub} {n : Nat} {f : Channel → Channel}
    (field : Channel → β) (kept : field (f (h.channel n)) = field (h.channel n)) (m : Nat) :
    field ((h.modifyChannel n f).channel m) = field (h.channel m) := by
  rw [channel_modifyChannel]
  split
  · rename_i same
    rw [kept, same]
  · rfl

/-! ### Operations on messages and tasks -/

theorem similar_setChannel {h : Hub} {n : Nat} {c : Channel}
    (senders : c.senders = (h.channel n).senders)
    (inboxes : ∀ {k}, k ∈ c.inboxes ↔ k ∈ (h.channel n).inboxes) :
    Similar h (h.setChannel n c) where
  names := rfl
  nextChannel := rfl
  nextSubscription := rfl
  shutDown := rfl
  senders m := by
    rw [channel_setChannel]
    split
    · rename_i same
      rw [senders, same]
    · rfl
  inboxes {m k} := by
    rw [channel_setChannel]
    split
    · rename_i same
      rw [inboxes, same]
    · exact Iff.rfl

theorem similar_ready (h : Hub) (tasks : List Nat) : Similar h { h with ready := tasks } :=
  ⟨rfl, rfl, rfl, rfl, fun _ => rfl, Iff.rfl⟩

theorem similar_wake (h : Hub) (n : Nat) : Similar h (h.wake n) :=
  (similar_setChannel (c := { h.channel n with waiting := [] }) rfl Iff.rfl).trans
    (similar_ready _ (h.ready ++ (h.channel n).waiting))

theorem similar_wait (h : Hub) (task n : Nat) : Similar h (h.wait task n) :=
  similar_setChannel rfl Iff.rfl

theorem similar_spawn (h : Hub) : Similar h h.spawn.2 :=
  ⟨rfl, rfl, rfl, rfl, fun _ => rfl, Iff.rfl⟩

theorem similar_broadcast (h : Hub) (n : Nat) (m : Message) :
    Similar h (h.setChannel n ((h.channel n).broadcast h.slots m)) := by
  apply similar_setChannel
  · rfl
  · intro k
    rw [Channel.broadcast, Std.ExtTreeMap.mem_map]

theorem similar_send (h : Hub) (n : Nat) (m : Message) : Similar h (h.send n m).2 := by
  unfold send
  dsimp only
  split
  · exact Similar.refl h
  · exact (similar_broadcast h n m).trans (similar_wake _ n)

theorem similar_counts (h : Hub) (published failed : Nat) :
    Similar h { h with publishCount := published, sendErrorCount := failed } :=
  ⟨rfl, rfl, rfl, rfl, fun _ => rfl, Iff.rfl⟩

theorem similar_publish (h : Hub) (name : String) (m : Message) :
    Similar h (h.publish name m).2 := by
  let counted : Hub := { h with publishCount := h.publishCount + 1 }
  have published : Similar h counted := similar_counts h (h.publishCount + 1) h.sendErrorCount
  unfold publish
  dsimp only
  cases named : h.names[name]? with
  | none => exact published.trans (similar_counts counted counted.publishCount _)
  | some n =>
    have sent := published.trans (similar_send counted n m)
    dsimp only
    split
    · exact sent
    · exact sent.trans (similar_counts _ (counted.send n m).2.publishCount _)

theorem similar_receive {h : Hub} {sub : Subscription}
    (live : sub.number ∈ (h.channel sub.channel).inboxes) : Similar h (h.receive sub).2 := by
  unfold receive Channel.receive
  dsimp only
  split
  · exact similar_setChannel rfl Iff.rfl
  · refine similar_setChannel rfl ?_
    intro k
    rw [Std.ExtTreeMap.mem_insert]
    constructor
    · rintro (same | old)
      · rw [Std.LawfulEqCmp.compare_eq_iff_eq] at same
        exact same ▸ live
      · exact old
    · exact Or.inr

/-! ### Operations that hand out or take back -/

variable {h : Hub} {held : Holdings} {name : String} {n : Nat} {s : Sender} {sub : Subscription}

theorem balanced_ofCapacity (capacity : Nat) : Balanced (ofCapacity capacity) 0 where
  registered named := by simp [Registered, ofCapacity] at named
  unregistered _ := by simp [channel, ofCapacity]
  inboxes := by simp [channel, ofCapacity]
  distinct := by simp
  number_lt live := by simp at live
  subscription_lt live := by simp at live
  sender_lt live := by simp at live
  name_lt named := by simp [Registered, ofCapacity] at named
  injective first _ := by simp [Registered, ofCapacity] at first

/-- Changes the number of senders of one channel together with what is held. -/
theorem Balanced.recount {h' : Hub} {held' : Holdings} (balanced : Balanced h held)
    (names : h'.names = h.names) (channels : h.nextChannel = h'.nextChannel)
    (subscriptions : h'.nextSubscription = h.nextSubscription) (subs : held'.2 = held.2)
    (inboxes : ∀ m, (h'.channel m).inboxes = (h.channel m).inboxes)
    (counts : ∀ m, (h'.channel m).senders + held.1.count ⟨m⟩ =
      (h.channel m).senders + held'.1.count ⟨m⟩)
    (bounded : ∀ {s}, s ∈ held'.1 → s.channel < h'.nextChannel) : Balanced h' held' where
  registered {name n} named := by
    have before := balanced.registered (show h.Registered name n by rwa [Registered, ← names])
    have moved := counts n
    omega
  unregistered {n} free := by
    have before := balanced.unregistered (n := n) fun name => by
      rw [Registered, ← names]
      exact free name
    have moved := counts n
    omega
  inboxes := by
    intro m k
    rw [inboxes, subs]
    exact balanced.inboxes
  distinct := subs ▸ balanced.distinct
  number_lt live := by
    rw [subscriptions]
    exact balanced.number_lt (subs ▸ live)
  subscription_lt live := channels ▸ balanced.subscription_lt (subs ▸ live)
  sender_lt := bounded
  name_lt named := channels ▸ balanced.name_lt (by rwa [Registered, ← names])
  injective first second :=
    balanced.injective (by rwa [Registered, ← names]) (by rwa [Registered, ← names])

theorem Balanced.count_le (balanced : Balanced h held) (n : Nat) :
    held.1.count ⟨n⟩ ≤ (h.channel n).senders := by
  by_cases named : ∃ name, h.Registered name n
  · obtain ⟨name, named⟩ := named
    rw [balanced.registered named]
    exact Nat.le_succ _
  · rw [balanced.unregistered (not_exists.mp named)]

theorem balanced_retain (balanced : Balanced h held) (known : n < h.nextChannel) :
    Balanced (h.retain n).2 (.sender (h.retain n).1 + held) := by
  refine balanced.recount rfl rfl rfl (by simp) ?_ ?_ ?_
  · exact field_modifyChannel Channel.inboxes rfl
  · intro m
    simp only [retain, channel_modifyChannel, Prod.fst_add, Holdings.senders_sender,
      Multiset.count_add, Multiset.count_singleton, Sender.mk.injEq]
    split
    · rename_i same
      subst same
      simp only [if_true]
      omega
    · rename_i other
      rw [if_neg fun same => other same.symm]
      omega
  · intro s live
    rcases Multiset.mem_add.mp live with new | old
    · rw [Multiset.mem_singleton.mp new]
      exact known
    · exact balanced.sender_lt old

theorem balanced_release (balanced : Balanced h (.sender s + held)) :
    Balanced (h.release s) held := by
  have counted := balanced.count_le s.channel
  rw [Prod.fst_add, Holdings.senders_sender, Multiset.count_add, Multiset.count_singleton_self]
    at counted
  refine balanced.recount rfl rfl rfl (by simp) ?_ ?_ ?_
  · exact field_modifyChannel Channel.inboxes rfl
  · intro m
    simp only [release, channel_modifyChannel, Prod.fst_add, Holdings.senders_sender,
      Multiset.count_add, Multiset.count_singleton]
    split
    · rename_i same
      subst same
      simp only [if_true]
      omega
    · rename_i other
      rw [if_neg fun same => other (congrArg Sender.channel same).symm]
      omega
  · intro s live
    exact balanced.sender_lt (by simp [live])

theorem channel_attach (h : Hub) (s : Sender) (label : String) (n : Nat) :
    (h.attach s label).2.channel n =
      if s.channel = n then { h.channel s.channel with
        inboxes := (h.channel s.channel).inboxes.insert h.nextSubscription {} }
      else h.channel n :=
  channel_modifyChannel h s.channel n fun c =>
    { c with inboxes := c.inboxes.insert h.nextSubscription {} }

theorem senders_attach (h : Hub) (s : Sender) (label : String) (n : Nat) :
    ((h.attach s label).2.channel n).senders = (h.channel n).senders := by
  rw [channel_attach, ← channel_modifyChannel h s.channel n fun c =>
    { c with inboxes := c.inboxes.insert h.nextSubscription {} }]
  exact field_modifyChannel Channel.senders rfl n

theorem mem_inboxes_attach (h : Hub) (s : Sender) (label : String) {n k : Nat} :
    k ∈ ((h.attach s label).2.channel n).inboxes ↔
      (n = s.channel ∧ k = h.nextSubscription) ∨ k ∈ (h.channel n).inboxes := by
  rw [channel_attach]
  split
  · rename_i same
    rw [Std.ExtTreeMap.mem_insert, Std.LawfulEqCmp.compare_eq_iff_eq, same]
    simp only [true_and, eq_comm]
  · rename_i other
    simp only [Ne.symm other, false_and, false_or]

theorem balanced_attach (balanced : Balanced h held) (known : s.channel < h.nextChannel)
    (label : String) :
    Balanced (h.attach s label).2 (.subscription (h.attach s label).1 + held) where
  registered named := by
    rw [senders_attach, balanced.registered named]
    simp
  unregistered free := by
    rw [senders_attach, balanced.unregistered free]
    simp
  inboxes {n k} := by
    rw [mem_inboxes_attach, balanced.inboxes]
    simp [attach, eq_comm]
  distinct := by
    rw [Prod.snd_add, Multiset.map_add, Holdings.subscriptions_subscription, Multiset.map_singleton,
      Multiset.singleton_add, Multiset.nodup_cons]
    refine ⟨?_, balanced.distinct⟩
    intro repeated
    obtain ⟨sub, live, same⟩ := Multiset.mem_map.mp repeated
    have below := balanced.number_lt live
    rw [same] at below
    exact Nat.lt_irrefl _ below
  number_lt live := by
    rcases Multiset.mem_add.mp live with new | old
    · rw [Multiset.mem_singleton.mp new]
      exact Nat.lt_succ_self _
    · exact Nat.lt_succ_of_lt (balanced.number_lt old)
  subscription_lt live := by
    rcases Multiset.mem_add.mp live with new | old
    · rw [Multiset.mem_singleton.mp new]
      exact known
    · exact balanced.subscription_lt old
  sender_lt live := balanced.sender_lt (by simpa using live)
  name_lt named := balanced.name_lt named
  injective first second := balanced.injective first second

theorem mem_inboxes_detach (h : Hub) (sub : Subscription) {n k : Nat} :
    k ∈ ((h.detach sub).channel n).inboxes ↔
      ¬ (n = sub.channel ∧ k = sub.number) ∧ k ∈ (h.channel n).inboxes := by
  rw [detach, channel_modifyChannel]
  split
  · rename_i same
    rw [Std.ExtTreeMap.mem_erase, Ne, Std.LawfulEqCmp.compare_eq_iff_eq, same]
    simp only [true_and, eq_comm]
  · rename_i other
    simp only [Ne.symm other, false_and, not_false_eq_true, true_and]

theorem senders_detach (h : Hub) (sub : Subscription) (n : Nat) :
    ((h.detach sub).channel n).senders = (h.channel n).senders :=
  field_modifyChannel Channel.senders rfl n

theorem balanced_detach (balanced : Balanced h (.subscription sub + held)) :
    Balanced (h.detach sub) held where
  registered named := by
    rw [senders_detach, balanced.registered named]
    simp
  unregistered free := by
    rw [senders_detach, balanced.unregistered free]
    simp
  inboxes {n k} := by
    have distinct := balanced.distinct
    rw [Prod.snd_add, Multiset.map_add, Holdings.subscriptions_subscription, Multiset.map_singleton,
      Multiset.singleton_add, Multiset.nodup_cons] at distinct
    rw [mem_inboxes_detach, balanced.inboxes]
    constructor
    · rintro ⟨other, found, live, rfl, rfl⟩
      rcases Multiset.mem_add.mp live with this | old
      · rw [Multiset.mem_singleton.mp this] at other
        exact absurd ⟨rfl, rfl⟩ other
      · exact ⟨found, old, rfl, rfl⟩
    · rintro ⟨found, live, rfl, rfl⟩
      refine ⟨?_, found, Multiset.mem_add.mpr (Or.inr live), rfl, rfl⟩
      rintro ⟨-, same⟩
      exact distinct.1 (same ▸ Multiset.mem_map_of_mem _ live)
  distinct := by
    have distinct := balanced.distinct
    rw [Prod.snd_add, Multiset.map_add] at distinct
    exact (Multiset.nodup_add.mp distinct).2.1
  number_lt live := balanced.number_lt (Multiset.mem_add.mpr (Or.inr live))
  subscription_lt live := balanced.subscription_lt (Multiset.mem_add.mpr (Or.inr live))
  sender_lt live := balanced.sender_lt (Multiset.mem_add.mpr (Or.inr live))
  name_lt named := balanced.name_lt named
  injective first second := balanced.injective first second

theorem grows_retain (h : Hub) (n : Nat) : Grows h (h.retain n).2 :=
  ⟨⟨Or.inl, Nat.le_refl _⟩, id, rfl⟩

theorem grows_release (h : Hub) (s : Sender) : Grows h (h.release s) :=
  ⟨⟨Or.inl, Nat.le_refl _⟩, id, rfl⟩

theorem grows_attach (h : Hub) (s : Sender) (label : String) : Grows h (h.attach s label).2 :=
  ⟨⟨Or.inl, Nat.le_refl _⟩, id, rfl⟩

theorem grows_detach (h : Hub) (sub : Subscription) : Grows h (h.detach sub) :=
  ⟨⟨Or.inl, Nat.le_refl _⟩, id, rfl⟩

end Hub

end Switchboard
