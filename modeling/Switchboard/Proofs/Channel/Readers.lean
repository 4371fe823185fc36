import Mathlib.Algebra.GroupWithZero.Nat
import Switchboard.Proofs.Channel.Inboxes
import Switchboard.Proofs.Channel.Tasks
import Switchboard.Proofs.Channel.Traffic
import Switchboard.Proofs.Record

/-!
# What a subscription reads

A subscription reads the messages sent into its channel since it was created, one after the other.
What it was too slow for is overwritten, and it is told how many messages those were before it goes
on with the oldest one kept (`run_reads`).
-/

namespace Switchboard

/-! ### One inbox -/

namespace Received

def message? : Received → Option Message
  | message m => some m
  | _ => none

/-- How many messages are reported missed. -/
def missed : Received → Nat
  | lagged n => n
  | _ => 0

end Received

/-- What was read goes through `passed` from front to back: each message read is the next one, and
each report of missed messages passes over as many. -/
inductive Covers : List Received → List Message → Prop
  | nil : Covers [] []
  | message {got passed} (covers : Covers got passed) (m : Message) :
    Covers (got ++ [.message m]) (passed ++ [m])
  | lagged {got passed} (covers : Covers got passed) (gap : List Message) :
    Covers (got ++ [.lagged gap.length]) (passed ++ gap)
  | empty {got passed} (covers : Covers got passed) : Covers (got ++ [.empty]) passed
  | closed {got passed} (covers : Covers got passed) : Covers (got ++ [.closed]) passed

theorem Covers.length {got : List Received} {passed : List Message} (covers : Covers got passed) :
    (got.filterMap Received.message?).length + (got.map Received.missed).sum = passed.length := by
  induction covers with
  | nil => rfl
  | message covers m ih =>
    simp [Received.message?, Received.missed]
    omega
  | lagged covers gap ih =>
    simp [List.filterMap_cons, Received.message?, Received.missed]
    omega
  | empty covers ih | closed covers ih =>
    simpa [List.filterMap_cons, Received.message?, Received.missed] using ih

namespace Inbox

/-- The inbox of a subscription into whose channel `sent` was sent and that read `got`. -/
structure Follows (slots : Nat) (sent : List Message) (got : List Received) (i : Inbox) : Prop where
  split : ∃ passed missed, sent = passed ++ missed ++ i.pending ∧ missed.length = i.skipped ∧
    Covers got passed
  bounded : i.pending.length ≤ slots
  full (missed : 0 < i.skipped) : i.pending.length = slots

/-- How an inbox is changed by what is sent into its channel and by what is read. -/
inductive Changes (slots : Nat) (i : Inbox) : List Message → List Received → Inbox → Prop
  | idle : Changes slots i [] [] i
  | push (m : Message) : Changes slots i [m] [] (i.push slots m)
  | take (live : Bool) : Changes slots i [] [(i.take live).1] (i.take live).2

variable {slots : Nat} {sent new : List Message} {got read : List Received} {i i' : Inbox}

theorem follows_empty (slots : Nat) : Follows slots [] [] {} :=
  ⟨⟨[], [], rfl, rfl, .nil⟩, Nat.zero_le _, fun missed => absurd missed (Nat.lt_irrefl 0)⟩

theorem Follows.push (follows : i.Follows slots sent got) (positive : 0 < slots) (m : Message) :
    (i.push slots m).Follows slots (sent ++ [m]) got := by
  obtain ⟨⟨passed, missed, rfl, skipped, covers⟩, bounded, full⟩ := follows
  unfold Inbox.push
  split
  · rename_i room
    refine ⟨⟨passed, missed, ?_, skipped, covers⟩, ?_, ?_⟩
    · simp
    · rw [List.length_append]
      exact room
    · intro some
      exact absurd (full some) (Nat.ne_of_lt room)
  · rename_i crowded
    obtain ⟨pending, k⟩ := i
    cases pending with
    | nil => exact absurd positive crowded
    | cons oldest rest =>
      have length : (rest ++ [m]).length = slots := by
        simp only [List.length_cons] at bounded crowded
        simp only [List.length_append, List.length_singleton]
        omega
      refine ⟨⟨passed, missed ++ [oldest], ?_, ?_, covers⟩, ?_, ?_⟩
      · simp
      · rw [List.length_append, skipped]
        rfl
      · exact Nat.le_of_eq length
      · exact fun _ => length

theorem Follows.take (follows : i.Follows slots sent got) (live : Bool) :
    (i.take live).2.Follows slots sent (got ++ [(i.take live).1]) := by
  obtain ⟨⟨passed, missed, rfl, skipped, covers⟩, bounded, full⟩ := follows
  unfold Inbox.take
  split
  · refine ⟨⟨passed ++ missed, [], ?_, rfl, ?_⟩, bounded, fun more => absurd more (Nat.lt_irrefl 0)⟩
    · rw [List.append_nil]
    · rw [← skipped]
      exact covers.lagged missed
  · rename_i none
    have kept : missed = [] := List.eq_nil_of_length_eq_zero (by omega)
    subst kept
    split
    · rename_i m rest waits
      rw [waits] at bounded ⊢
      refine ⟨⟨passed ++ [m], [], by simp, skipped, covers.message m⟩, ?_, ?_⟩
      · exact Nat.le_of_succ_le bounded
      · exact fun more => absurd more none
    · rename_i nothing
      refine ⟨⟨passed, [], rfl, skipped, ?_⟩, bounded, full⟩
      cases live
      · exact covers.closed
      · exact covers.empty

theorem Follows.changes (follows : i.Follows slots sent got) (positive : 0 < slots)
    (changes : i.Changes slots new read i') : i'.Follows slots (sent ++ new) (got ++ read) := by
  cases changes with
  | idle =>
    rw [List.append_nil, List.append_nil]
    exact follows
  | push m =>
    rw [List.append_nil]
    exact follows.push positive m
  | take live =>
    rw [List.append_nil]
    exact follows.take live

/-- What the next read gives. -/
theorem Follows.next (follows : i.Follows slots sent got) (live : Bool) :
    (∀ n, (i.take live).1 = .lagged n ↔ 0 < n ∧ i.outstanding = n + slots) ∧
      ((i.take live).1 = .closed ↔ i.outstanding = 0 ∧ live = false) ∧
      ((i.take live).1 = .empty ↔ i.outstanding = 0 ∧ live = true) := by
  obtain ⟨-, bounded, full⟩ := follows
  obtain ⟨pending, skipped⟩ := i
  dsimp only at bounded full
  unfold Inbox.take Inbox.outstanding
  cases skipped with
  | succ k =>
    have length := full (Nat.succ_pos k)
    simp
    omega
  | zero =>
    cases pending with
    | nil =>
      cases live <;> simp
      all_goals
        intro n positive
        omega
    | cons m rest =>
      simp at bounded ⊢
      omega

theorem Follows.next_message (follows : i.Follows slots sent got) (live : Bool) (m : Message) :
    (i.take live).1 = .message m ↔ i.outstanding ≤ slots ∧ i.pending.head? = some m := by
  obtain ⟨-, bounded, full⟩ := follows
  obtain ⟨pending, skipped⟩ := i
  dsimp only at bounded full
  unfold Inbox.take Inbox.outstanding
  cases skipped with
  | succ k =>
    have length := full (Nat.succ_pos k)
    simp
    omega
  | zero =>
    cases pending with
    | nil => cases live <;> simp
    | cons m' rest => simpa using fun _ => bounded

/-- What is outstanding are the last messages sent, and the next message read is the first of
them. -/
theorem Follows.left (follows : i.Follows slots sent got) :
    ∃ passed left, sent = passed ++ left ∧ Covers got passed ∧ left.length = i.outstanding ∧
      ∀ live m, (i.take live).1 = .message m ↔ i.outstanding ≤ slots ∧ left.head? = some m := by
  have next := follows.next_message
  obtain ⟨⟨passed, missed, rfl, skipped, covers⟩, bounded, full⟩ := follows
  refine ⟨passed, missed ++ i.pending, List.append_assoc _ _ _, covers, ?_, ?_⟩
  · rw [List.length_append, skipped, Inbox.outstanding]
  · intro live m
    rw [next]
    refine and_congr_right ?_
    intro few
    have none : missed.length = 0 := by
      rw [skipped]
      by_contra some
      have length := full (Nat.pos_of_ne_zero some)
      rw [Inbox.outstanding] at few
      omega
    rw [List.eq_nil_of_length_eq_zero none, List.nil_append]

end Inbox

/-! ### One subscription on a hub -/

namespace Hub

variable {h : Hub} {sub : Subscription} {i : Inbox} {name : String}

theorem receiverCount_pos (found : h.inbox? sub = some i) :
    0 < (h.channel sub.channel).receiverCount := by
  refine Nat.pos_of_ne_zero ?_
  intro nobody
  have empty : (h.channel sub.channel).inboxes = ∅ :=
    Std.ExtTreeMap.eq_empty_iff_size_eq_zero.mpr nobody
  rw [inbox?, empty, Std.ExtTreeMap.getElem?_empty] at found
  cases found

theorem send_isSome (found : h.inbox? sub = some i) (m : Message) :
    (h.send sub.channel m).1.isSome = true := by
  unfold send
  dsimp only
  rw [if_neg (Nat.ne_of_gt (receiverCount_pos found))]
  rfl

theorem publish_pos (found : h.inbox? sub = some i) (named : h.Registered name sub.channel)
    (m : Message) : 0 < (h.publish name m).1 := by
  rw [reached_publish, receiverCount, named]
  exact receiverCount_pos found

theorem receive_eq (found : h.inbox? sub = some i) :
    (h.receive sub).1 = (i.take (h.channel sub.channel).isOpen).1 := by
  unfold receive Channel.receive
  rw [show (h.channel sub.channel).inboxes[sub.number]? = some i from found]

theorem nextSubscription_openChannel (h : Hub) (name : String) :
    (h.openChannel name).2.nextSubscription = h.nextSubscription := by
  unfold openChannel
  split
  · rfl
  · dsimp only
    split <;> rfl

theorem nextSubscription_close (h : Hub) (name : String) :
    (h.close name).2.nextSubscription = h.nextSubscription := by
  unfold close
  split <;> rfl

theorem nextSubscription_shutdown (h : Hub) : h.shutdown.nextSubscription = h.nextSubscription :=
  List.foldlRecOn (motive := fun h' : Hub => h'.nextSubscription = h.nextSubscription)
    h.names.keys _ rfl fun h' same name _ => (nextSubscription_close h' name).trans same

theorem inbox?_subscribe (known : sub.channel < h.nextChannel)
    (older : sub.number < h.nextSubscription) (name : String) :
    (h.subscribe name).2.inbox? sub = h.inbox? sub := by
  have opened := inbox?_openChannel known name
  have numbered := nextSubscription_openChannel h name
  unfold subscribe
  generalize h.openChannel name = result at opened numbered
  rcases result with ⟨_ | s, h'⟩
  · exact opened
  · dsimp only at opened numbered ⊢
    rw [inbox?_release, inbox?_attach, if_neg, opened]
    rintro ⟨-, same⟩
    omega

end Hub

namespace Traffic

/-- The message that a move sends into channel `n`, if it reaches anybody. -/
def sends (n : Nat) (s : Hub × Guests) : Traffic → List Message
  | guest (.send i m) =>
    match s.2.senders[i]? with
    | none => []
    | some x => if x.channel = n ∧ (s.1.send n m).1.isSome then [m] else []
  | guest (.publish name m) =>
    if s.1.Registered name n ∧ 0 < (s.1.publish name m).1 then [m] else []
  | _ => []

/-- What a move reads from `sub`. -/
def reads (sub : Subscription) (s : Hub × Guests) : Traffic → List Received
  | guest (.receive i) => if s.2.subscriptions[i]? = some sub then [(s.1.receive sub).1] else []
  | _ => []

variable {s : Hub × Guests} {h : Hub} {g : Guests} {rest : Holdings} {move : Traffic}
  {sub other : Subscription}

/-- No two subscriptions have the same number. -/
theorem eq_of_number {held : Holdings} (balanced : h.Balanced held) (live : sub ∈ held.2)
    (live' : other ∈ held.2) (same : sub.number = other.number) : sub = other :=
  Multiset.inj_on_of_nodup_map balanced.distinct sub live other live' same

theorem not_mem_eraseIdx {k : Nat} (balanced : h.Balanced (g.holdings + rest))
    (there : g.subscriptions[k]? = some sub) :
    sub ∉ ({ g with subscriptions := g.subscriptions.eraseIdx k }.holdings + rest).2 := by
  have distinct : (g.holdings + rest).2.Nodup := Multiset.Nodup.of_map _ balanced.distinct
  rw [Guests.holdings_eraseIdx_subscription there, add_assoc] at distinct
  exact (Multiset.nodup_cons.mp ((Multiset.singleton_add sub _) ▸ distinct)).1

namespace Handles

variable {left : Hub × Guests}

theorem inbox? (handles : Handles s left) (sub : Subscription) :
    left.1.inbox? sub = s.1.inbox? sub := by
  cases handles with
  | unmoved => rfl
  | retain n => exact Hub.inbox?_retain s.1 n sub
  | park x => exact Hub.inbox?_wait _ _ _ sub

theorem nextSubscription (handles : Handles s left) :
    left.1.nextSubscription = s.1.nextSubscription := by
  cases handles <;> rfl

theorem subscriptions (handles : Handles s left) : left.2.subscriptions ⊆ s.2.subscriptions := by
  cases handles <;> exact List.Subset.refl _

theorem slots (handles : Handles s left) : left.1.slots = s.1.slots := by
  cases handles <;> rfl

end Handles

theorem mem_subscriptions (member : sub ∈ g.subscriptions) : sub ∈ (g.holdings + rest).2 :=
  Multiset.mem_add.mpr (Or.inl (Multiset.mem_coe.mpr member))

/-- What a move does to the inbox of a subscription that somebody holds and keeps. -/
theorem step_changes {i : Inbox} (balanced : s.1.Balanced (s.2.holdings + rest))
    (held : sub ∈ (s.2.holdings + rest).2) (found : s.1.inbox? sub = some i)
    (stays : sub ∈ ((step s move).2.holdings + rest).2) :
    ∃ i', (step s move).1.inbox? sub = some i' ∧
      i.Changes s.1.slots (sends sub.channel s move) (reads sub s move) i' := by
  obtain ⟨h, g⟩ := s
  have known : sub.channel < h.nextChannel := balanced.subscription_lt held
  have older : sub.number < h.nextSubscription := balanced.number_lt held
  dsimp only at balanced held found
  have idle {h' : Hub} (same : h'.inbox? sub = h.inbox? sub) :
      ∃ i', h'.inbox? sub = some i' ∧ i.Changes h.slots [] [] i' :=
    ⟨i, same.trans found, .idle⟩
  have beyond := step_handles (h, g) move
  cases move with
  | guest move =>
    cases move with
    | openChannel name =>
      rw [hub_openChannel]
      exact idle (Hub.inbox?_openChannel known name)
    | subscribe name =>
      rw [hub_subscribe]
      exact idle (Hub.inbox?_subscribe known older name)
    | attach k label =>
      unfold step Guests.Move.run
      dsimp only
      split
      · exact idle rfl
      · rename_i x _
        refine idle ?_
        rw [Hub.inbox?_attach, if_neg]
        exact fun same => Nat.ne_of_gt older same.2
    | publish name m =>
      have published := Hub.inbox?_publish h name m sub
      unfold step Guests.Move.run sends
      dsimp only
      by_cases named : h.Registered name sub.channel
      · rw [if_pos named, found] at published
        rw [if_pos ⟨named, Hub.publish_pos found named m⟩]
        exact ⟨_, published, .push m⟩
      · rw [if_neg named] at published
        rw [if_neg fun both => named both.1]
        exact idle published
    | send k m =>
      unfold step Guests.Move.run sends
      dsimp only
      cases g.senders[k]? with
      | none => exact idle rfl
      | some x =>
        dsimp only
        have sent := Hub.inbox?_send h x.channel m sub
        by_cases same : x.channel = sub.channel
        · rw [if_pos same, found] at sent
          rw [if_pos ⟨same, Hub.send_isSome found m⟩]
          exact ⟨_, sent, .push m⟩
        · rw [if_neg same] at sent
          rw [if_neg fun both => same both.1]
          exact idle sent
    | receive k =>
      unfold step Guests.Move.run reads
      dsimp only
      split
      · rename_i free
        rw [if_neg (by simp [free])]
        exact idle rfl
      · rename_i x there
        have received := Hub.inbox?_receive h x sub
        by_cases same : x = sub
        · subst same
          rw [if_pos ⟨rfl, rfl⟩, found] at received
          rw [if_pos there, Hub.receive_eq found]
          exact ⟨_, received, .take _⟩
        · have other : x ∈ (g.holdings + rest).2 :=
            mem_subscriptions (List.mem_of_getElem? there)
          have apart : ¬ Hub.SameInbox x sub := fun both =>
            same (eq_of_number balanced other held both.2)
          rw [if_neg apart] at received
          rw [if_neg fun this => same (Option.some.inj (there.symm.trans this))]
          exact idle received
    | dropSender k =>
      unfold step Guests.Move.run
      dsimp only
      split
      · exact idle rfl
      · exact idle (Hub.inbox?_release h _ sub)
    | dropSubscription k =>
      unfold step Guests.Move.run at stays ⊢
      dsimp only at stays ⊢
      cases there : g.subscriptions[k]? with
      | none => exact idle rfl
      | some x =>
        rw [there] at stays
        refine idle ?_
        rw [Hub.inbox?_detach, if_neg]
        rintro ⟨-, same⟩
        have other : x ∈ (g.holdings + rest).2 :=
          mem_subscriptions (List.mem_of_getElem? there)
        obtain rfl := eq_of_number balanced other held same
        exact not_mem_eraseIdx balanced there stays
    | close name => exact idle (Hub.inbox?_close h name sub)
    | shutdown => exact idle (Hub.inbox?_shutdown h sub)
  | sender _ | duplicate _ | park _ =>
    obtain ⟨_, ⟨⟩⟩ | handles := beyond
    exact idle (handles.inbox? sub)

/-- No move reads from a subscription that somebody else holds. -/
theorem reads_eq_nil (balanced : s.1.Balanced (s.2.holdings + rest)) (apart : sub ∈ rest.2)
    (move : Traffic) : reads sub s move = [] := by
  unfold reads
  split
  · rename_i i
    refine if_neg ?_
    intro there
    have distinct : (s.2.holdings + rest).2.Nodup := Multiset.Nodup.of_map _ balanced.distinct
    exact Multiset.disjoint_left.mp (Multiset.nodup_add.mp distinct).2.2
      (Multiset.mem_coe.mpr (List.mem_of_getElem? there)) apart
  · rfl

/-! ### A run -/

/-- Each new subscription has the next number. -/
theorem step_numbers (s : Hub × Guests) (move : Traffic) :
    s.1.nextSubscription ≤ (step s move).1.nextSubscription ∧
      ∀ sub ∈ (step s move).2.subscriptions,
        sub ∈ s.2.subscriptions ∨ sub.number = s.1.nextSubscription := by
  obtain ⟨h, g⟩ := s
  have same {left : Hub × Guests} (numbers : left.1.nextSubscription = h.nextSubscription)
      (kept : left.2.subscriptions ⊆ g.subscriptions) :
      h.nextSubscription ≤ left.1.nextSubscription ∧ ∀ sub ∈ left.2.subscriptions,
        sub ∈ g.subscriptions ∨ sub.number = h.nextSubscription :=
    ⟨Nat.le_of_eq numbers.symm, fun _ member => Or.inl (kept member)⟩
  have unmoved := @same (h, g) rfl (List.Subset.refl _)
  have beyond := step_handles (h, g) move
  cases move with
  | guest move =>
    cases move with
    | openChannel name =>
      have numbers := Hub.nextSubscription_openChannel h name
      unfold step Guests.Move.run
      dsimp only
      generalize h.openChannel name = result at numbers
      rcases result with ⟨_ | x, h'⟩ <;> exact same numbers (List.Subset.refl _)
    | subscribe name =>
      have numbers := Hub.nextSubscription_openChannel h name
      unfold step Guests.Move.run Hub.subscribe
      dsimp only
      generalize h.openChannel name = result at numbers
      rcases result with ⟨_ | x, h'⟩
      · exact same numbers (List.Subset.refl _)
      · refine ⟨Nat.le_trans (Nat.le_of_eq numbers.symm) (Nat.le_succ _), ?_⟩
        intro sub member
        rcases List.mem_cons.mp member with rfl | old
        · exact Or.inr numbers
        · exact Or.inl old
    | attach k label =>
      unfold step Guests.Move.run
      dsimp only
      split
      · exact unmoved
      · refine ⟨Nat.le_succ _, ?_⟩
        intro sub member
        rcases List.mem_cons.mp member with rfl | old
        · exact Or.inr rfl
        · exact Or.inl old
    | publish name m =>
      exact same (Hub.similar_publish h name m).nextSubscription (List.Subset.refl _)
    | send k m =>
      unfold step Guests.Move.run
      dsimp only
      split
      · exact unmoved
      · exact same (Hub.similar_send h _ m).nextSubscription (List.Subset.refl _)
    | dropSubscription k =>
      unfold step Guests.Move.run
      dsimp only
      split
      · exact unmoved
      · exact same rfl List.eraseIdx_subset
    | close name => exact same (Hub.nextSubscription_close h name) (List.Subset.refl _)
    | shutdown => exact same (Hub.nextSubscription_shutdown h) (List.Subset.refl _)
    | receive k | dropSender k =>
      unfold step Guests.Move.run
      dsimp only
      split
      · exact unmoved
      · exact same rfl (List.Subset.refl _)
  | sender _ | duplicate _ | park _ =>
    obtain ⟨_, ⟨⟩⟩ | handles := beyond
    exact same handles.nextSubscription handles.subscriptions

theorem slots_step (s : Hub × Guests) (move : Traffic) : (step s move).1.slots = s.1.slots := by
  rcases step_handles s move with ⟨move, rfl⟩ | handles
  · exact (Guests.run_tends move s.1 s.2).slots
  · exact handles.slots

theorem numbers_run (moves : List Traffic) (s : Hub × Guests) :
    s.1.nextSubscription ≤ (run moves s).1.nextSubscription :=
  List.foldlRecOn (motive := fun s' : Hub × Guests => s.1.nextSubscription ≤ s'.1.nextSubscription)
    moves step (Nat.le_refl _) fun s' grown move _ => Nat.le_trans grown (step_numbers s' move).1

theorem slots_run (moves : List Traffic) (s : Hub × Guests) :
    (run moves s).1.slots = s.1.slots :=
  List.foldlRecOn (motive := fun s' : Hub × Guests => s'.1.slots = s.1.slots)
    moves step rfl fun s' same move _ => (slots_step s' move).trans same

/-- The inbox of a subscription that is still held follows what was sent since it was new. -/
theorem run_follows (sane : Sane s) (positive : 0 < s.1.slots) (held : sub ∈ s.2.subscriptions)
    (new : s.1.inbox? sub = some {}) (moves : List Traffic)
    (stays : sub ∈ (run moves s).2.subscriptions) :
    ∃ i, (run moves s).1.inbox? sub = some i ∧
      i.Follows s.1.slots (record step (sends sub.channel) s moves)
        (record step (reads sub) s moves) := by
  induction moves using List.reverseRecOn with
  | nil => exact ⟨{}, new, Inbox.follows_empty s.1.slots⟩
  | append_singleton moves move ih =>
    have last : run (moves ++ [move]) s = step (run moves s) move := run_append moves [move] s
    have noted {α : Type} (note : Hub × Guests → Traffic → List α) :
        record step note s (moves ++ [move]) =
          record step note s moves ++ note (run moves s) move := by
      rw [record_append, record, record, List.append_nil]
      rfl
    rw [last] at stays ⊢
    have older : sub.number < (run moves s).1.nextSubscription :=
      Nat.lt_of_lt_of_le (sane.number_lt (Multiset.mem_coe.mpr held)) (numbers_run moves s)
    have before : sub ∈ (run moves s).2.subscriptions := by
      rcases (step_numbers (run moves s) move).2 sub stays with old | same
      · exact old
      · exact absurd same (Nat.ne_of_lt older)
    obtain ⟨i, found, follows⟩ := ih before
    have balanced : (run moves s).1.Balanced ((run moves s).2.holdings + 0) := by
      rw [add_zero]
      exact (run_sane moves sane).1
    obtain ⟨i', found', changes⟩ :=
      step_changes balanced (mem_subscriptions before) found (mem_subscriptions stays)
    rw [slots_run] at changes
    rw [noted, noted]
    exact ⟨i', found', follows.changes positive changes⟩

/-! ### From the creation of a subscription -/

/-- The move creates the subscription `sub`. -/
def Subscribes (sub : Subscription) (s : Hub × Guests) : Traffic → Prop
  | guest (.subscribe name) => (s.1.subscribe name).1 = .ok sub
  | guest (.attach i label) => ∃ x, s.2.senders[i]? = some x ∧ (s.1.attach x label).1 = sub
  | _ => False

theorem new_of_subscribes (subscribes : move.Subscribes sub s) :
    sub ∈ (step s move).2.subscriptions ∧ (step s move).1.inbox? sub = some {} := by
  obtain ⟨h, g⟩ := s
  cases move with
  | guest move =>
    cases move with
    | subscribe name =>
      have given : (h.subscribe name).1 = .ok sub := subscribes
      unfold step Guests.Move.run
      unfold Hub.subscribe at given ⊢
      dsimp only
      generalize h.openChannel name = result at given
      rcases result with ⟨_ | x, h'⟩
      · cases given
      · cases given
        refine ⟨List.mem_cons_self, ?_⟩
        dsimp only
        rw [Hub.inbox?_release, Hub.inbox?_attach, if_pos ⟨rfl, rfl⟩]
    | attach k label =>
      obtain ⟨x, there, rfl⟩ := subscribes
      unfold step Guests.Move.run
      dsimp only at there ⊢
      rw [there]
      refine ⟨List.mem_cons_self, ?_⟩
      dsimp only
      rw [Hub.inbox?_attach, if_pos ⟨rfl, rfl⟩]
    | _ => exact subscribes.elim
  | _ => exact subscribes.elim

/-- Nobody can send into the channel any more: it is not registered, and no sender is left. -/
theorem isOpen_eq_false (sane : Sane s) (n : Nat) : (s.1.channel n).isOpen = false ↔
    (∀ name, ¬ s.1.Registered name n) ∧ ∀ x ∈ s.2.senders, x.channel ≠ n := by
  have counted : s.2.holdings.1.count ⟨n⟩ = 0 ↔ ∀ x ∈ s.2.senders, x.channel ≠ n := by
    rw [Multiset.count_eq_zero]
    constructor
    · rintro absent x member rfl
      exact absent (Multiset.mem_coe.mpr member)
    · intro others member
      exact others ⟨n⟩ (Multiset.mem_coe.mp member) rfl
  rw [← counted, Channel.isOpen, decide_eq_false_iff_not, Nat.not_lt, Nat.le_zero]
  by_cases named : ∃ name, s.1.Registered name n
  · obtain ⟨name, named⟩ := named
    rw [sane.registered named]
    refine iff_of_false (Nat.succ_ne_zero _) ?_
    rintro ⟨free, -⟩
    exact free name named
  · have free := not_exists.mp named
    rw [sane.unregistered free, and_iff_right free]

/-- A subscription that is still held read the messages sent into its channel since it was created,
in order and once each, with a gap wherever it was told that it missed some; those, the ones it
missed and the ones outstanding are all. Its next read tells of `n` missed messages if and only if
`n` more are outstanding than the channel keeps. If none is outstanding, the channel is found closed
if and only if it lost its name and its last sender. -/
theorem run_reads (capacity : Nat) (before : List Traffic) {create : Traffic} {sub : Subscription}
    (creates : create.Subscribes sub (run before (initial capacity))) (since : List Traffic)
    (held : sub ∈ (run since (step (run before (initial capacity)) create)).2.subscriptions) :
    let slots := (max 1 capacity).nextPowerOfTwo
    let start := step (run before (initial capacity)) create
    let s := run since start
    let sent := record step (sends sub.channel) start since
    let got := record step (reads sub) start since
    (got.filterMap Received.message?).length + (got.map Received.missed).sum +
        s.1.outstanding sub = sent.length ∧
      (∃ passed left, sent = passed ++ left ∧ Covers got passed ∧
        left.length = s.1.outstanding sub ∧
        ∀ m, (s.1.receive sub).1 = .message m ↔
          s.1.outstanding sub ≤ slots ∧ left.head? = some m) ∧
      (∀ n, (s.1.receive sub).1 = .lagged n ↔ 0 < n ∧ s.1.outstanding sub = n + slots) ∧
      let ended := (∀ name, ¬ s.1.Registered name sub.channel) ∧
        ∀ x ∈ s.2.senders, x.channel ≠ sub.channel
      ((s.1.receive sub).1 = .closed ↔ s.1.outstanding sub = 0 ∧ ended) ∧
        ((s.1.receive sub).1 = .empty ↔ s.1.outstanding sub = 0 ∧ ¬ ended) := by
  intro slots start s sent got
  have begun : Sane start := (step_sane (run_sane before (initial_sane capacity)).1 create).1
  have kept : start.1.slots = slots := (slots_step _ create).trans (slots_run before _)
  have positive : 0 < slots := Nat.pos_of_isPowerOfTwo (Nat.isPowerOfTwo_nextPowerOfTwo _)
  obtain ⟨there, new⟩ := new_of_subscribes creates
  obtain ⟨i, found, follows⟩ := run_follows begun (kept.symm ▸ positive) there new since held
  rw [kept] at follows
  have sane : Sane s := (run_sane since begun).1
  have outstanding : s.1.outstanding sub = i.outstanding := by
    rw [Hub.outstanding_eq, found]
    rfl
  have received := Hub.receive_eq found
  have ended := isOpen_eq_false sane sub.channel
  obtain ⟨lagged, closed, empty⟩ := follows.next (s.1.channel sub.channel).isOpen
  obtain ⟨passed, left, split, covers, length, next⟩ := follows.left
  rw [outstanding, received]
  refine ⟨?_, ⟨passed, left, split, covers, length, next _⟩, lagged, ?_, ?_⟩
  · rw [show sent = passed ++ left from split, List.length_append, covers.length, length]
  · rw [closed, ended]
  · rw [empty, ← ended, Bool.not_eq_false]

/-- Of three messages the first is overwritten, which the reader is told; it finds the second one
next, although the name is closed and no sender is left. -/
theorem run_reads_overwritten :
    let message (n : Int64) : Message :=
      { id := ⟨7⟩, destination := "r", body := [], timestamp := n }
    let since : List Traffic := [guest (.send 0 (message 1)), guest (.send 0 (message 2)),
      guest (.send 0 (message 3)), guest (.receive 0), closes "r", guest (.dropSender 0)]
    let start := step (run [guest (.openChannel "r")] (initial 2)) (guest (.subscribe "r"))
    let sub : Subscription := ⟨0, 0, "r"⟩
    ((record step (reads sub) start since).map Received.missed).sum = 1 ∧
      ((run since start).1.receive sub).1 = .message (message 2) := by
  intro message since
  have held : (⟨0, 0, "r"⟩ : Subscription) ∈ (run since (step (run [guest (.openChannel "r")]
      (initial 2)) (guest (.subscribe "r")))).2.subscriptions := by
    decide +kernel
  have creates : (guest (.subscribe "r")).Subscribes ⟨0, 0, "r"⟩
      (run [guest (.openChannel "r")] (initial 2)) := rfl
  obtain ⟨counted, ⟨passed, left, split, -, length, next⟩, -⟩ :=
    run_reads 2 [guest (.openChannel "r")] creates since held
  generalize reached : step (run [guest (.openChannel "r")] (initial 2)) (guest (.subscribe "r")) =
    start at counted split length next ⊢
  have sent : record step (sends 0) start since = [message 1, message 2, message 3] := by
    rw [← reached]
    decide +kernel
  have outstanding : (run since start).1.outstanding ⟨0, 0, "r"⟩ = 2 := by
    rw [← reached]
    decide +kernel
  have unread : (record step (reads ⟨0, 0, "r"⟩) start since).filterMap Received.message? = [] := by
    rw [← reached]
    decide +kernel
  rw [outstanding] at counted length next
  rw [sent] at counted split
  rw [unread] at counted
  refine ⟨by simpa using counted, (next _).mpr ⟨by decide +kernel, ?_⟩⟩
  have one : passed.length = 1 := by
    have both := congrArg List.length split
    rw [List.length_append, length] at both
    simpa using both.symm
  have rest := congrArg (List.drop 1) split
  rw [← one, List.drop_left, one] at rest
  rw [← rest]
  rfl

end Traffic

end Switchboard
