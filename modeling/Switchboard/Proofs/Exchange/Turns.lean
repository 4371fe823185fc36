import Switchboard.Proofs.Exchange.Staffed

/-!
# The turns of tasks

What a task does in its turn, step by step (`Core.Drains`, `Core.Turn`). It looks into its slot up
to a number of times; each message it finds there is delivered before the next look, and a delivery
may halt listeners, also the one whose turn it is.
-/

namespace Switchboard

/-! ### One listener -/

namespace Listener

/-- What a look into the slot `sub` finds: the oldest message, that some were missed, or nothing. -/
inductive Looks (l : Listener) (h : Hub) (sub : Subscription) : Pull × Listener × Hub → Prop
  | message {m rest} (waits : h.inbox? sub = some { pending := m :: rest }) :
      Looks l h sub (.message (m.sentTo l.destination), l, (h.receive sub).2)
  | lagged {inbox} (missed : h.inbox? sub = some inbox) (skipped : 0 < inbox.skipped) :
      Looks l h sub (.lagged inbox.skipped, l, (h.receive sub).2)
  | empty (nothing : h.outstanding sub = 0) : Looks l h sub (.empty, l, (h.receive sub).2)

variable {l : Listener} {h : Hub} {rest : Holdings} {channel : String} {sub : Subscription}

theorem inbox?_of_filled (balanced : h.Balanced (l.holdings + rest)) (filled : l.slot = some sub) :
    ∃ inbox, h.inbox? sub = some inbox :=
  Option.isSome_iff_exists.mp
    (Std.ExtTreeMap.mem_iff_isSome_getElem?.mp (live_of_filled balanced filled))

theorem looks_pull (fits : l.Fits channel h) (balanced : h.Balanced (l.holdings + rest))
    (filled : l.slot = some sub) : l.Looks h sub (l.pull h) := by
  obtain ⟨s, bound⟩ := fits
  have isOpen := isOpen_of_filled bound balanced filled
  obtain ⟨inbox, found⟩ := inbox?_of_filled balanced filled
  have received : (h.receive sub).1 = (inbox.take true).1 := by
    unfold Hub.receive Channel.receive
    rw [show (h.channel sub.channel).inboxes[sub.number]? = some inbox from found, isOpen]
  unfold pull
  rw [filled]
  dsimp only
  rcases reached : h.receive sub with ⟨got, h'⟩
  obtain rfl : h' = (h.receive sub).2 := by rw [reached]
  obtain rfl : got = (inbox.take true).1 := by rw [← received, reached]
  obtain ⟨pending, skipped⟩ := inbox
  cases skipped with
  | succ n => exact .lagged found (Nat.succ_pos n)
  | zero =>
    cases pending with
    | nil =>
      refine .empty ?_
      rw [Hub.outstanding_eq, found]
      rfl
    | cons m rest => exact .message found

end Listener

namespace ChannelAdapter

/-- What becomes of an adapter and the hub when a client is unsubscribed: the adapter forgets the
client, and if nobody else is left, it may halt its listener. -/
inductive Unsubscribed (a : ChannelAdapter) (client : String) (h : Hub) :
    ChannelAdapter × Hub → Prop
  | stays : Unsubscribed a client h
      ({ a with coordinator := { a.coordinator with
          members := a.coordinator.members.erase client } }, h)
  | halted {l} (held : a.coordinator.held = some l)
      (last : a.coordinator.members.erase client = ∅) : Unsubscribed a client h
      ({ a with coordinator := { a.coordinator with
          members := a.coordinator.members.erase client
          held := some (l.halt h).1 } }, (l.halt h).2)

theorem unsubscribed_coordinated (a : ChannelAdapter) (client : String) (h : Hub) :
    a.Unsubscribed client h (a.coordinated (.unsubscribe client) h) := by
  change a.Unsubscribed client h (let left := a.coordinator.unsubscribe a.provider client h
    ({ a with coordinator := left.2.1 }, left.2.2))
  unfold Coordinator.unsubscribe
  split
  · dsimp only
    split
    · rename_i last
      unfold Coordinator.halt
      dsimp only
      split
      · exact .stays
      · rename_i l held
        split
        · exact .halted held (Std.ExtTreeSet.isEmpty_iff.mp last)
        · exact .stays
    · exact .stays
  · rename_i absent
    have kept : a.coordinator.members.erase client = a.coordinator.members :=
      Coordinator.erase_of_not_contains absent
    have left : a.Unsubscribed client h _ := .stays
    rw [kept] at left
    exact left

end ChannelAdapter

/-! ### Finding the listener of a task -/

namespace Exchange

variable {ε : Type}

namespace Core

/-- The task is that of the listener under `id`, which reads `sub`. -/
def Reads (task : Nat) (id : String) (sub : Subscription) (k : Core ε) : Prop :=
  ∃ a l, k.adapter? id = some a ∧ a.coordinator.held = some l ∧ l.task = some task ∧
    l.slot = some sub

/-- If the task is anybody's, it is that of the listener under `id`, which reads `sub`. -/
structure Serves (task : Nat) (id : String) (sub : Subscription) (k : Core ε) : Prop where
  only {other a l} (there : k.adapter? other = some a) (held : a.coordinator.held = some l)
    (has : l.task = some task) : other = id ∧ l.destination = id ∧ l.slot = some sub

def Stray (task : Nat) (k : Core ε) : Prop :=
  ∀ id a l, k.adapter? id = some a → a.coordinator.held = some l → l.task ≠ some task

def receive (sub : Subscription) (k : Core ε) : Core ε :=
  { k with hub := (k.hub.receive sub).2 }

/-- Up to a number of looks of `task`, which reads `sub` for the destination `id`, and how they
end. -/
inductive Drains (task : Nat) (id : String) (sub : Subscription) :
    Nat → Core ε → Drained → Core ε → Prop
  | more {k} : Drains task id sub 0 k .more k
  | detached {n k} (gone : k.Stray task) : Drains task id sub (n + 1) k .detached k
  | empty {n k} (reads : k.Reads task id sub) (nothing : k.hub.outstanding sub = 0) :
      Drains task id sub (n + 1) k .empty (k.receive sub)
  | message {n k m rest outcome k'} (reads : k.Reads task id sub)
      (waits : k.hub.inbox? sub = some { pending := m :: rest })
      (others : Drains task id sub n ((k.receive sub).deliver id (m.sentTo id)) outcome k') :
      Drains task id sub (n + 1) k outcome k'
  | lagged {n k inbox outcome k'} (reads : k.Reads task id sub)
      (missed : k.hub.inbox? sub = some inbox) (skipped : 0 < inbox.skipped)
      (others : Drains task id sub n (k.receive sub) outcome k') :
      Drains task id sub (n + 1) k outcome k'

/-- How a task leaves its turn: it stays ready, waits on its channel, or is gone. -/
def finish (task : Nat) (sub : Subscription) : Drained → Core ε → Core ε
  | .more, k => { k with hub := { k.hub with ready := k.hub.ready ++ [task] } }
  | .empty, k => { k with hub := k.hub.wait task sub.channel }
  | .detached, k => k

/-- The first task that is ready has its turn, if there is one and if it still has a listener. -/
inductive Turn (k : Core ε) : Core ε → Prop
  | idle (nobody : k.hub.ready = []) : Turn k k
  | stray {task rest} (ready : k.hub.ready = task :: rest) (gone : k.Stray task) :
      Turn k { k with hub := { k.hub with ready := rest } }
  | turn {task rest id sub a l outcome k'} (ready : k.hub.ready = task :: rest)
      (there : k.adapter? id = some a) (held : a.coordinator.held = some l)
      (has : l.task = some task) (filled : l.slot = some sub)
      (drains : Drains task id sub Forwarding.batchSize
        (k.relisten id a { l with begun := true } { k.hub with ready := rest }) outcome k') :
      Turn k (k'.finish task sub outcome)

variable {k k' : Core ε} {task n : Nat} {id client : String} {sub : Subscription}
  {channels : String → Option String} {g : Guests} {busy : Option Nat} {outcome : Drained}

theorem relisten_self {a : ChannelAdapter} {l : Listener} (there : k.adapter? id = some a)
    (held : a.coordinator.held = some l) (h : Hub) :
    k.relisten id a l h = { k with hub := h } := by
  have same : MessagingAdapter.setListener ε l a = a := by
    change { a with coordinator := { a.coordinator with held := some l } } = a
    rw [← held]
  rw [relisten, same, setAdapter_self (registered_of_adapter? there)]

theorem reads_relisten (a : ChannelAdapter) {l : Listener} (h : Hub) (has : l.task = some task)
    (filled : l.slot = some sub) :
    (k.relisten id a { l with begun := true } h).Reads task id sub := by
  refine ⟨MessagingAdapter.setListener ε { l with begun := true } a, { l with begun := true }, ?_,
    rfl, has, filled⟩
  rw [relisten, adapter?_setAdapter, if_pos rfl]

theorem Audited.receive (audited : k.Audited channels g) (reads : k.Reads task id sub) :
    (k.receive sub).Audited channels g := by
  obtain ⟨a, l, there, held, -, filled⟩ := reads
  obtain ⟨others, sound⟩ := audited.apart there
  have live := Listener.live_of_filled (sound.kept_of_held held).balanced filled
  exact audited.similar (Hub.similar_receive live)

theorem Staffed.take {rest : List Nat} (staffed : k.Staffed none)
    (ready : k.hub.ready = task :: rest) :
    ({ k with hub := { k.hub with ready := rest } } : Core ε).Staffed (some task) := by
  refine ⟨staffed.named, ?_, staffed.apart, staffed.slots⟩
  intro id a l there held
  have own := staffed.staffed there held
  refine ⟨own.destination, own.idle, own.task_lt, ?_⟩
  intro sub filled
  obtain ⟨other, has, busy | inside | waits⟩ := own.attended filled
  · cases busy
  · rw [ready] at inside
    refine ⟨other, has, ?_⟩
    rcases List.mem_cons.mp inside with rfl | later
    · exact Or.inl rfl
    · exact Or.inr (Or.inl later)
  · exact ⟨other, has, Or.inr (Or.inr waits)⟩

theorem Staffed.serves (staffed : k.Staffed busy) (reads : k.Reads task id sub) :
    k.Serves task id sub := by
  obtain ⟨a, l, there, held, has, filled⟩ := reads
  refine ⟨?_⟩
  intro other b l' there' held' has'
  obtain rfl := staffed.apart there' held' has' there held has
  rw [there] at there'
  cases there'
  rw [held] at held'
  cases held'
  exact ⟨rfl, (staffed.staffed there held).destination, filled⟩

theorem Serves.receive (serves : k.Serves task id sub) (other : Subscription) :
    (k.receive other).Serves task id sub :=
  ⟨serves.only⟩

theorem Serves.unsubscribe (serves : k.Serves task id sub) (client other : String) :
    (k.operate (.unsubscribe client) other).Serves task id sub := by
  cases there : k.adapter? other with
  | none =>
    rw [operate_of_free there]
    exact serves
  | some a =>
    have left := a.unsubscribed_coordinated client k.hub
    rw [operate_of_adapter there]
    generalize a.coordinated (.unsubscribe client) k.hub = result at left
    refine ⟨?_⟩
    intro third b l found held has
    rw [adapter?_setAdapter] at found
    split at found
    · rename_i same
      cases found
      cases left with
      | stays => exact same ▸ serves.only there held has
      | halted before last =>
        cases held
        cases has
    · exact serves.only found held has

theorem Serves.depart (serves : k.Serves task id sub) (client : String) :
    (k.depart client).Serves task id sub := by
  have started : ({ k with delivery := (k.delivery.disconnect client).2 } : Core ε).Serves
      task id sub := ⟨serves.only⟩
  exact operateAll_induction _ (fun serves other => serves.unsubscribe client other) started

theorem Serves.deliver (serves : k.Serves task id sub) (destination : String) (m : Message) :
    (k.deliver destination m).Serves task id sub :=
  deliver_induction destination m (fun serves _ => ⟨serves.only⟩) Serves.depart serves

end Core

theorem findTask?_none {x : Exchange ChannelAdapter ε} {task : Nat}
    (missed : x.findTask? task = none) : x.core.Stray task := by
  intro id a l there held serves
  have skipped := List.findSome?_eq_none_iff.mp missed (id, a) (Core.mem_registered.mpr there)
  have listener : MessagingAdapter.listener? ε a = some l := held
  simp [listener, serves] at skipped

theorem task_of_findTask? {x : Exchange ChannelAdapter ε} {task : Nat} {id : String}
    {a : ChannelAdapter} {l : Listener} (found : x.findTask? task = some (id, a, l)) :
    l.task = some task := by
  obtain ⟨⟨id', a'⟩, listed, named⟩ := List.exists_of_findSome?_eq_some found
  dsimp only at named
  split at named
  · split at named
    · rename_i serves
      cases named
      exact serves
    · cases named
  · cases named

theorem listener?_eq_some {x : Exchange ChannelAdapter ε} {task : Nat} {l : Listener}
    (found : Forwards.listener? task x = some l) : l.task = some task := by
  obtain ⟨⟨id, a, l'⟩, position, rfl⟩ := Option.map_eq_some_iff.mp found
  exact task_of_findTask? position

theorem drain_drains {task : Nat} {id : String} {sub : Subscription}
    {channels : String → Option String} {g : Guests} (n : Nat) :
    ∀ {x : Exchange ChannelAdapter ε}, x.core.Audited channels g → x.core.Serves task id sub →
      Core.Drains task id sub n x.core (Forwarding.drain task id n x).1
        (Forwarding.drain task id n x).2.core := by
  induction n with
  | zero =>
    intro x audited serves
    exact .more
  | succ n ih =>
    intro x audited serves
    unfold Forwarding.drain Forwarding.pull
    cases found : Forwards.listener? task x with
    | none => exact .detached (findTask?_none (Option.map_eq_none_iff.mp found))
    | some l =>
      have has := listener?_eq_some found
      obtain ⟨other, a, there, held, left⟩ := core_setListener found
      -- whatever was delivered in between, the task still is that of the same slot
      obtain ⟨rfl, destination, filled⟩ := serves.only there held has
      have reads : x.core.Reads task other sub := ⟨a, l, there, held, has, filled⟩
      have received (h : Hub) : (Forwards.setListener task l (Forwards.setHub h x)).core =
          { x.core with hub := h } := (left l h).trans (Core.relisten_self there held h)
      obtain ⟨others, sound⟩ := audited.apart there
      have kept := sound.kept_of_held held
      have looks := Listener.looks_pull (kept.fits rfl) kept.balanced filled
      change l.Looks x.site.hub sub (l.pull (Forwards.hub x)) at looks
      dsimp only
      generalize l.pull (Forwards.hub x) = result at looks
      have after := audited.receive reads
      have still := serves.receive sub
      cases looks with
      | @message m rest waits =>
        have delivered : (Forwards.deliver other (m.sentTo l.destination)
            (Forwards.setListener task l (Forwards.setHub (x.site.hub.receive sub).2 x))).core =
              (x.core.receive sub).deliver other (m.sentTo other) := by
          rw [destination]
          exact (core_deliver _ _ _).trans (congrArg _ (received _))
        refine .message reads waits ?_
        have after := Core.Audited.stable.deliver after other (m.sentTo other)
        have still := still.deliver other (m.sentTo other)
        rw [← delivered] at after still ⊢
        exact ih after still
      | @lagged inbox missed skipped =>
        have noted (e : Event) : (Journaled.record e (Forwards.setListener task l
            (Forwards.setHub (x.site.hub.receive sub).2 x))).core = x.core.receive sub :=
          received _
        refine .lagged reads missed skipped ?_
        rw [← noted] at after still ⊢
        exact ih after still
      | empty nothing =>
        have same := received (x.site.hub.receive sub).2
        rw [same]
        exact .empty reads nothing

theorem core_begin {x : Exchange ChannelAdapter ε} {task : Nat} {id : String} {a : ChannelAdapter}
    {l : Listener} (there : x.core.adapter? id = some a) (held : a.coordinator.held = some l)
    (left : ∀ l' h, (Forwards.setListener task l' (Forwards.setHub h x)).core =
      x.core.relisten id a l' h) :
    (Forwarding.begin task l x).core =
      x.core.relisten id a { l with begun := true } x.site.hub := by
  unfold Forwarding.begin
  split
  · rename_i begun
    have same : { l with begun := true } = l := by rw [← begun]
    rw [same, Core.relisten_self there held]
    rfl
  · exact left { l with begun := true } x.site.hub

theorem core_turn {l : Listener} {id : String} {sub : Subscription}
    (destination : l.destination = id) (filled : l.slot = some sub) {task : Nat}
    (x : Exchange ChannelAdapter ε) :
    (Forwarding.turn task l x).core =
      (Forwarding.drain task id Forwarding.batchSize (Forwarding.begin task l x)).2.core.finish
        task sub
        (Forwarding.drain task id Forwarding.batchSize (Forwarding.begin task l x)).1 := by
  unfold Forwarding.turn
  rw [destination]
  rcases Forwarding.drain task id Forwarding.batchSize (Forwarding.begin task l x) with
    ⟨_ | _ | _, y⟩
  · dsimp only
    rw [filled]
    rfl
  · rfl
  · rfl

theorem turn_advance {x : Exchange ChannelAdapter ε} {channels : String → Option String}
    {g : Guests} (audited : x.core.Audited channels g) (staffed : x.core.Staffed none) :
    x.core.Turn (Forwarding.advance x).core := by
  cases ready : x.site.hub.ready with
  | nil =>
    rw [Forwarding.advance_of_idle ready]
    exact .idle ready
  | cons task rest =>
    let y : Exchange ChannelAdapter ε := Forwards.setHub { Forwards.hub x with ready := rest } x
    have taken : y.core.Staffed (some task) := staffed.take ready
    have first : y.core.Audited channels g := audited.similar (Hub.similar_ready _ rest)
    cases found : Forwards.listener? task y with
    | none =>
      rw [Forwarding.advance_of_stray ready found]
      exact .stray ready (findTask?_none (Option.map_eq_none_iff.mp found))
    | some l =>
      rw [Forwarding.advance_of_ready ready found]
      have has := listener?_eq_some found
      obtain ⟨id, a, there, held, left⟩ := core_setListener found
      have own := taken.staffed there held
      obtain ⟨sub, filled⟩ := own.filled has
      have begun := core_begin there held left
      have audited : (Forwarding.begin task l y).core.Audited channels g :=
        begun ▸ Core.Audited.stable.mark first there held
      have serves : (Forwarding.begin task l y).core.Serves task id sub :=
        begun ▸ (taken.mark first there held).serves (Core.reads_relisten a y.site.hub has filled)
      have drains := drain_drains Forwarding.batchSize audited serves
      rw [begun] at drains
      rw [core_turn own.destination filled]
      exact .turn ready there held has filled drains

/-- What is forwarded out of turn is a number of looks, by a task that looks after its slot. -/
theorem flush_drains {x : Exchange ChannelAdapter ε} {channels : String → Option String}
    {g : Guests} (audited : x.core.Audited channels g) (staffed : x.core.Staffed none)
    (task n : Nat) :
    (Forwarding.flush task n x).core = x.core ∨ ∃ id sub outcome, x.core.Reads task id sub ∧
      Core.Drains task id sub n x.core outcome (Forwarding.flush task n x).core := by
  unfold Forwarding.flush
  cases found : Forwards.listener? task x with
  | none => exact Or.inl rfl
  | some l =>
    have has := listener?_eq_some found
    obtain ⟨id, a, there, held, -⟩ := core_setListener found
    have own := staffed.staffed there held
    obtain ⟨sub, filled⟩ := own.filled has
    have reads : x.core.Reads task id sub := ⟨a, l, there, held, has, filled⟩
    dsimp only
    rw [own.destination]
    exact Or.inr ⟨id, sub, _, reads, drain_drains n audited (staffed.serves reads)⟩

/-! ### What a turn keeps -/

namespace Core

variable {k k' : Core ε} {task n : Nat} {id : String} {sub : Subscription}
  {channels : String → Option String} {g : Guests} {busy : Option Nat} {outcome : Drained}

/-- Looks and deliveries are all that a task does. -/
theorem Drains.keeps {P : Core ε → Prop}
    (receive : ∀ {k : Core ε}, P k → k.Reads task id sub → P (k.receive sub))
    (deliver : ∀ {k : Core ε}, P k → ∀ m, P (k.deliver id m))
    (drains : Drains task id sub n k outcome k') (holds : P k) : P k' := by
  induction drains with
  | more => exact holds
  | detached gone => exact holds
  | empty reads nothing => exact receive holds reads
  | message reads waits others ih => exact ih (deliver (receive holds reads) _)
  | lagged reads missed skipped others ih => exact ih (receive holds reads)

theorem Drains.ended (drains : Drains task id sub n k outcome k') :
    (outcome = .empty → k'.hub.outstanding sub = 0) ∧ (outcome = .detached → k'.Stray task) := by
  induction drains with
  | more => exact ⟨nofun, nofun⟩
  | detached gone => exact ⟨nofun, fun _ => gone⟩
  | @empty n k reads nothing =>
    refine ⟨?_, nofun⟩
    intro _
    exact Nat.eq_zero_of_le_zero (nothing ▸ Hub.outstanding_receive k.hub sub)
  | message reads waits others ih => exact ih
  | lagged reads missed skipped others ih => exact ih

theorem Staffed.deliver (audited : k.Audited channels g) (staffed : k.Staffed busy)
    (destination : String) (m : Message) : (k.deliver destination m).Staffed busy :=
  (deliver_induction (P := fun k => k.Audited channels g ∧ k.Staffed busy) destination m
    (fun both _ => ⟨both.1.withDelivery _, both.2.withDelivery _⟩)
    (fun both client => ⟨both.1.depart client, both.2.depart both.1 client⟩)
    ⟨audited, staffed⟩).2

theorem Drains.staffed (drains : Drains task id sub n k outcome k')
    (audited : k.Audited channels g) (staffed : k.Staffed busy) :
    k'.Audited channels g ∧ k'.Staffed busy := by
  refine drains.keeps (P := fun k => k.Audited channels g ∧ k.Staffed busy) ?_ ?_ ⟨audited, staffed⟩
  · rintro k ⟨audited, staffed⟩ reads
    exact ⟨audited.receive reads, staffed.tended audited (Hub.tends_receive _ _)⟩
  · rintro k ⟨audited, staffed⟩ m
    exact ⟨Audited.stable.deliver audited id m, staffed.deliver audited id m⟩

theorem Staffed.relieved (staffed : k.Staffed (some task))
    (attends : ∀ {id a l sub}, k.adapter? id = some a → a.coordinator.held = some l →
      l.task = some task → l.slot = some sub → k.hub.Attends task sub) : k.Staffed none := by
  refine ⟨staffed.named, ?_, staffed.apart, staffed.slots⟩
  intro id a l there held
  have own := staffed.staffed there held
  refine ⟨own.destination, own.idle, own.task_lt, ?_⟩
  intro sub filled
  obtain ⟨other, has, busy | attended⟩ := own.attended filled
  · cases busy
    exact ⟨task, has, Or.inr (attends there held has filled)⟩
  · exact ⟨other, has, Or.inr attended⟩

theorem Staffed.finish (audited : k.Audited channels g) (staffed : k.Staffed (some task))
    (serves : k.Serves task id sub)
    (ended : (outcome = .empty → k.hub.outstanding sub = 0) ∧
      (outcome = .detached → k.Stray task)) :
    (k.finish task sub outcome).Staffed none := by
  cases outcome with
  | more =>
    refine (staffed.tended audited (Hub.tends_ready k.hub [task])).relieved ?_
    intro id a l other there held has filled
    exact Or.inl (List.mem_append_right _ (List.mem_singleton.mpr rfl))
  | empty =>
    -- it waits with nothing left to read, so the next message wakes it
    refine (staffed.tended audited (Hub.tends_wait k.hub task sub.channel)).relieved ?_
    intro id a l other there held has filled
    obtain ⟨-, -, filled'⟩ := serves.only there held has
    rw [filled] at filled'
    cases filled'
    refine Or.inr ⟨?_, ?_⟩
    · rw [Hub.wait, Hub.channel_modifyChannel, if_pos rfl]
      exact List.mem_append_right _ (List.mem_singleton.mpr rfl)
    · rw [Hub.outstanding_eq, Hub.inbox?_wait]
      exact ended.1 rfl
  | detached =>
    refine staffed.relieved ?_
    intro id a l other there held has filled
    exact absurd has (ended.2 rfl id a l there held)

theorem Turn.staffed (turn : k.Turn k') (audited : k.Audited channels g)
    (staffed : k.Staffed none) :
    k'.Staffed none := by
  cases turn with
  | idle nobody => exact staffed
  | stray ready gone =>
    refine (staffed.take ready).relieved ?_
    intro id a l other there held has filled
    exact absurd has (gone id a l there held)
  | @turn task rest id sub a l outcome k' ready there held has filled drains =>
    have first := audited.similar (Hub.similar_ready k.hub rest)
    have marked := (staffed.take ready).mark first there held
    have serves := marked.serves (reads_relisten a { k.hub with ready := rest } has filled)
    obtain ⟨drained, still⟩ := drains.staffed (Audited.stable.mark first there held) marked
    exact still.finish drained (drains.keeps (fun serves _ => serves.receive sub)
      (fun serves m => serves.deliver id m) serves) drains.ended

end Core

end Exchange

end Switchboard
