import Switchboard.Proofs.Channel.Readers

/-!
# What a publish does

A publish reaches the live subscriptions of the channel that goes by the name, and no other channel
takes notice of it. The hub counts the publishes, and those of them that reached nobody, whatever
else is done to it (`run_publishes`).
-/

namespace Switchboard

/-! ### Reaching somebody -/

/-- `m` is the newest message in `i'`. What else is there stood last in `i` before. -/
structure Inbox.Gains (i : Inbox) (m : Message) (i' : Inbox) : Prop where
  newest : ∃ older, i'.pending = older ++ [m] ∧ older <:+ i.pending
  outstanding : i'.outstanding = i.outstanding + 1

theorem Inbox.gains_push {slots : Nat} (positive : 0 < slots) (i : Inbox) (m : Message) :
    i.Gains m (i.push slots m) := by
  unfold Inbox.push
  split
  · refine ⟨⟨i.pending, rfl, List.suffix_rfl⟩, ?_⟩
    simp [outstanding]
    omega
  · rename_i crowded
    obtain ⟨pending, skipped⟩ := i
    cases pending with
    | nil => exact absurd positive crowded
    | cons oldest rest =>
      refine ⟨⟨rest, rfl, List.suffix_cons oldest rest⟩, ?_⟩
      simp [outstanding]
      omega

namespace Hub

variable {h : Hub} {held : Holdings} {name : String} {n k : Nat}

theorem receiverCount_eq (balanced : h.Balanced held) (name : String) :
    h.receiverCount name = held.2.countP fun sub => h.Registered name sub.channel := by
  rcases Option.eq_none_or_eq_some h.names[name]? with named | ⟨n, named⟩
  · rw [receiverCount_of_free named, eq_comm, Multiset.countP_eq_zero]
    intro sub _ registered
    cases named.symm.trans registered
  · rw [balanced.receiverCount_of_registered named]
    refine Multiset.countP_congr rfl ?_
    intro sub _
    rw [Registered, named, Option.some.injEq]
    exact propext eq_comm

theorem channel_wake (h : Hub) (n k : Nat) : (h.wake n).channel k =
    if n = k then { h.channel n with waiting := [] } else h.channel k :=
  channel_setChannel h n k _

theorem channel_send (apart : n ≠ k) (h : Hub) (m : Message) :
    (h.send n m).2.channel k = h.channel k := by
  unfold send
  dsimp only
  split
  · rfl
  · rw [channel_wake, if_neg apart, channel_setChannel, if_neg apart]

theorem channel_publish (apart : ¬ h.Registered name k) (m : Message) :
    (h.publish name m).2.channel k = h.channel k := by
  cases named : h.names[name]? with
  | none =>
    rw [publish_of_free named]
    rfl
  | some n =>
    have differs : n ≠ k := fun same => apart (same ▸ named)
    have sent := channel_send differs { h with publishCount := h.publishCount + 1 } m
    rw [publish_of_registered named]
    generalize send { h with publishCount := h.publishCount + 1 } n m = result at sent
    rcases result with ⟨_ | _, h'⟩ <;> exact sent

/-- What `h.publish name m` comes to, if `live` are the live subscriptions. -/
structure Reaches (h : Hub) (live : List Subscription) (name : String) (m : Message) : Prop where
  reached : (h.publish name m).1 = h.receiverCount name
  counted : h.receiverCount name = live.countP fun sub => h.Registered name sub.channel
  gained {sub} (held : sub ∈ live) (named : h.Registered name sub.channel) :
    ∃ i i', h.inbox? sub = some i ∧ (h.publish name m).2.inbox? sub = some i' ∧ i.Gains m i'
  spared {sub} (other : ¬ h.Registered name sub.channel) :
    (h.publish name m).2.inbox? sub = h.inbox? sub
  apart {k : Nat} (other : ¬ h.Registered name k) : (h.publish name m).2.channel k = h.channel k
  unheard (nobody : h.receiverCount name = 0) (k : Nat) :
    (h.publish name m).2.channel k = h.channel k

theorem send_of_nobody (nobody : (h.channel n).receiverCount = 0) (m : Message) :
    h.send n m = (none, h) := by
  unfold send
  dsimp only
  rw [if_pos nobody]

theorem publish_unheard (nobody : h.receiverCount name = 0) (m : Message) (n : Nat) :
    (h.publish name m).2.channel n = h.channel n := by
  cases named : h.names[name]? with
  | none =>
    rw [publish_of_free named]
    rfl
  | some k =>
    unfold receiverCount at nobody
    rw [named] at nobody
    have unsent := send_of_nobody (h := { h with publishCount := h.publishCount + 1 }) nobody m
    rw [publish_of_registered named, unsent]
    rfl

end Hub

/-! ### Counting -/

namespace Hub

/-- How many publishes there were, and how many of them reached nobody. -/
def tally (h : Hub) : Nat × Nat :=
  (h.publishCount, h.sendErrorCount)

theorem tally_openChannel (h : Hub) (name : String) : (h.openChannel name).2.tally = h.tally := by
  unfold openChannel
  split
  · rfl
  · dsimp only
    split <;> rfl

theorem tally_subscribe (h : Hub) (name : String) : (h.subscribe name).2.tally = h.tally := by
  have opened := tally_openChannel h name
  unfold subscribe
  generalize h.openChannel name = result at opened
  rcases result with ⟨_ | s, h'⟩ <;> exact opened

theorem tally_send (h : Hub) (n : Nat) (m : Message) : (h.send n m).2.tally = h.tally := by
  unfold send
  dsimp only
  split <;> rfl

theorem tally_close (h : Hub) (name : String) : (h.close name).2.tally = h.tally := by
  unfold close
  split <;> rfl

theorem tally_shutdown (h : Hub) : h.shutdown.tally = h.tally :=
  List.foldlRecOn (motive := fun h' : Hub => h'.tally = h.tally) h.names.keys _ rfl
    fun h' same name _ => (tally_close h' name).trans same

theorem tally_publish (h : Hub) (name : String) (m : Message) :
    (h.publish name m).2.tally = h.tally + (1, [(h.publish name m).1].count 0) := by
  cases named : h.names[name]? with
  | none =>
    rw [publish_of_free named]
    rfl
  | some n =>
    have kept := tally_send { h with publishCount := h.publishCount + 1 } n m
    have reached := @send_of_nobody { h with publishCount := h.publishCount + 1 } n
    have counted := reached_send { h with publishCount := h.publishCount + 1 } n m
    rw [publish_of_registered named]
    generalize sent : send { h with publishCount := h.publishCount + 1 } n m = result
      at kept counted
    rcases result with ⟨_ | reached', h'⟩
    · refine (congrArg (· + (0, 1)) kept).trans ?_
      rfl
    · have some : reached' ≠ 0 := by
        rintro rfl
        cases sent.symm.trans (reached counted.symm m)
      refine kept.trans ?_
      rw [List.count_singleton, if_neg (by simpa using some)]
      rfl

end Hub

namespace Traffic

/-- What a publish returns, if the move is one. -/
def publishes (s : Hub × Guests) : Traffic → List Nat
  | guest (.publish name m) => [(s.1.publish name m).1]
  | _ => []

variable {s : Hub × Guests} {move : Traffic} {sub : Subscription}

theorem step_tally (s : Hub × Guests) (move : Traffic) : (step s move).1.tally =
    s.1.tally + ((publishes s move).length, (publishes s move).count 0) := by
  have beyond := step_handles s move
  cases move with
  | guest move =>
    cases move with
    | publish name m => exact Hub.tally_publish s.1 name m
    | openChannel name =>
      have opened := congrArg Hub.tally (hub_openChannel s.1 s.2 name)
      exact opened.trans (Hub.tally_openChannel s.1 name)
    | subscribe name =>
      have subscribed := congrArg Hub.tally (hub_subscribe s.1 s.2 name)
      exact subscribed.trans (Hub.tally_subscribe s.1 name)
    | close name => exact Hub.tally_close s.1 name
    | shutdown => exact Hub.tally_shutdown s.1
    | send i m =>
      unfold step Guests.Move.run
      dsimp only
      split
      · rfl
      · exact Hub.tally_send s.1 _ m
    | _ =>
      unfold step Guests.Move.run
      dsimp only
      split <;> rfl
  | sender _ | duplicate _ | park _ =>
    obtain ⟨_, ⟨⟩⟩ | handles := beyond
    generalize step s _ = left at handles ⊢
    cases handles <;> rfl

theorem run_tally (moves : List Traffic) : ∀ s : Hub × Guests, (run moves s).1.tally = s.1.tally +
    ((record step publishes s moves).length, (record step publishes s moves).count 0) := by
  induction moves with
  | nil =>
    intro s
    rfl
  | cons move rest ih =>
    intro s
    have first := step_tally s move
    have others := ih (step s move)
    rw [first, add_assoc] at others
    rw [record, List.length_append, List.count_append]
    exact others

theorem live_inbox (sane : Sane s) (held : sub ∈ s.2.subscriptions) :
    ∃ i, s.1.inbox? sub = some i := by
  have live : sub.number ∈ (s.1.channel sub.channel).inboxes :=
    sane.inboxes.mpr ⟨sub, Multiset.mem_coe.mpr held, rfl, rfl⟩
  exact Option.isSome_iff_exists.mp (Std.ExtTreeMap.mem_iff_isSome_getElem?.mp live)

theorem reaches (sane : Sane s) (positive : 0 < s.1.slots) (name : String) (m : Message) :
    s.1.Reaches s.2.subscriptions name m where
  reached := Hub.reached_publish s.1 name m
  counted := (Hub.receiverCount_eq sane name).trans (Multiset.coe_countP _ _)
  gained {sub} held named := by
    obtain ⟨i, found⟩ := live_inbox sane held
    have left := Hub.inbox?_publish s.1 name m sub
    rw [if_pos named, found] at left
    exact ⟨i, _, found, left, Inbox.gains_push positive i m⟩
  spared {sub} other := by
    rw [Hub.inbox?_publish, if_neg other]
  apart other := Hub.channel_publish other m
  unheard nobody k := Hub.publish_unheard nobody m k

theorem sendThrough_eq (sane : Sane s) (x : Sender) (m : Message) :
    (s.2.receivers x.channel = 0 ∧ s.1.sendThrough x m = (.error m, s.1)) ∨
      (0 < s.2.receivers x.channel ∧
        (s.1.sendThrough x m).1 = .ok (s.2.receivers x.channel)) := by
  have counted : (s.1.channel x.channel).receiverCount = s.2.receivers x.channel :=
    (sane.receiverCount_channel x.channel).trans (Multiset.coe_countP _ _)
  unfold Hub.sendThrough Hub.send
  dsimp only
  rw [counted]
  split
  · rename_i nobody
    exact Or.inl ⟨nobody, rfl⟩
  · rename_i some
    exact Or.inr ⟨Nat.pos_of_ne_zero some, rfl⟩

/-- Over every run of a hub, a publish reaches the live subscriptions of the channel that goes by
the name and nobody else. The hub counts the publishes, and those of them that returned 0, and
nothing else moves these counts. A message that was sent directly and reached nobody comes back. -/
theorem run_publishes (capacity : Nat) (moves : List Traffic) :
    let s := run moves (initial capacity)
    let returned := record step publishes (initial capacity) moves
    (∀ name m, s.1.Reaches s.2.subscriptions name m) ∧
      (s.1.publishCount = returned.length ∧ s.1.sendErrorCount = returned.count 0) ∧
      (∀ move, (∀ name m, move ≠ guest (.publish name m)) →
        (step s move).1.publishCount = s.1.publishCount ∧
          (step s move).1.sendErrorCount = s.1.sendErrorCount) ∧
      ∀ i x m, s.2.senders[i]? = some x →
        step s (guest (.send i m)) = ((s.1.sendThrough x m).2, s.2) ∧
          ((s.2.receivers x.channel = 0 ∧ s.1.sendThrough x m = (.error m, s.1)) ∨
            (0 < s.2.receivers x.channel ∧
              (s.1.sendThrough x m).1 = .ok (s.2.receivers x.channel))) := by
  intro s returned
  have sane : Sane s := (run_sane moves (initial_sane capacity)).1
  have positive : 0 < s.1.slots := by
    rw [slots_run]
    exact Nat.pos_of_isPowerOfTwo (Nat.isPowerOfTwo_nextPowerOfTwo _)
  refine ⟨reaches sane positive, ?_, ?_, ?_⟩
  · have counted := run_tally moves (initial capacity)
    have none : (initial capacity).1.tally = 0 := rfl
    rw [none, zero_add] at counted
    exact ⟨congrArg Prod.fst counted, congrArg Prod.snd counted⟩
  · intro move other
    have counted := step_tally s move
    have silent : publishes s move = [] := by
      unfold publishes
      split
      · rename_i name m
        exact absurd rfl (other name m)
      · rfl
    rw [silent] at counted
    exact ⟨congrArg Prod.fst counted, congrArg Prod.snd counted⟩
  · intro i x m holds
    refine ⟨?_, sendThrough_eq sane x m⟩
    unfold step Guests.Move.run
    dsimp only
    rw [holds]
    rfl

end Traffic

end Switchboard
