import Switchboard.Proofs.Station.Sound

/-!
# What the sink is given

While a listener runs, the sink is given the messages sent into its channel one after the other, and
the log tells how many of them were overwritten in between. Every run keeps to that, and what was
neither given nor missed is still queued (`run_relays`).
-/

namespace Switchboard.Station

variable {ε : Type} {origin p : Station ε}

/-! ### What a station comes to -/

/-- A move that neither stops the listener nor sends anything. -/
def Move.Quiet : Move → Prop
  | operate .stop | operate .dispose => False
  | traffic (.guest (.send ..)) | traffic (.guest (.publish ..)) => False
  | _ => True

def Quiet (sink : String → Message → ε → List Move × ε) : Prop :=
  ∀ destination m extra, ∀ move ∈ (sink destination m extra).1, move.Quiet

/-- What comes of `p` while `news` are noticed. A listener that is not stopped keeps its slot and
its task. -/
structure Onward (quiet : Prop) (p q : Station ε) (news : Timeline) : Prop where
  sink : q.sink = p.sink
  destination : q.destination = p.destination
  timeline : q.timeline = p.timeline ++ news
  keeps {l} (there : p.handle = some l) (filled : l.slot ≠ none) (on : .stopped ∉ news) :
    ∃ l', q.handle = some l' ∧ l'.slot = l.slot ∧ l'.task = l.task
  calm (calm : quiet) : .stopped ∉ news ∧ news.sent = []

section

variable {q r : Station ε} {quiet : Prop} {news news' : Timeline}

theorem Onward.refl (quiet : Prop) (p : Station ε) : Onward quiet p p [] :=
  ⟨rfl, rfl, (List.append_nil _).symm, fun there _ _ => ⟨_, there, rfl, rfl⟩,
    fun _ => ⟨nofun, rfl⟩⟩

theorem Onward.trans (first : Onward quiet p q news) (second : Onward quiet q r news') :
    Onward quiet p r (news ++ news') where
  sink := second.sink.trans first.sink
  destination := second.destination.trans first.destination
  timeline := by rw [second.timeline, first.timeline, List.append_assoc]
  keeps there filled on := by
    have on := not_or.mp (mt List.mem_append.mpr on)
    obtain ⟨l', there', slot, task⟩ := first.keeps there filled on.1
    obtain ⟨l'', there'', slot', task'⟩ := second.keeps there' (slot ▸ filled) on.2
    exact ⟨l'', there'', slot'.trans slot, task'.trans task⟩
  calm calm := by
    obtain ⟨on, silent⟩ := first.calm calm
    obtain ⟨on', silent'⟩ := second.calm calm
    refine ⟨fun stops => (List.mem_append.mp stops).elim on on', ?_⟩
    rw [Timeline.sent_append, silent, silent']
    rfl

theorem onward_note {n : Notice} (on : n ≠ .stopped) (silent : n.sent? = none) (p : Station ε) :
    Onward quiet p (p.note [n]) [n] where
  sink := rfl
  destination := rfl
  timeline := rfl
  keeps there _ _ := ⟨_, there, rfl, rfl⟩
  calm _ := ⟨by simpa using on.symm, by cases n <;> first | rfl | cases silent⟩

/-- A listener that runs is left alone unless it is stopped. -/
theorem run_of_filled {op : Operation} (quiet : (Move.operate op).Quiet) (filled : p.slot? ≠ none) :
    op.run (Listener.provider p.channel p.destination) p.handle p.hub = (p.handle, p.hub) := by
  unfold slot? at filled
  cases there : p.handle with
  | none =>
    rw [there] at filled
    exact absurd rfl filled
  | some l =>
    rw [there] at filled
    cases op with
    | acquire => rfl
    | start =>
      change (some (l.start p.hub).2.1, (l.start p.hub).2.2) = (some l, p.hub)
      rw [Listener.start_of_filled filled]
    | stop | dispose => exact quiet.elim

theorem run_of_not_quiet {op : Operation} (halts : ¬ (Move.operate op).Quiet)
    (handle : Option Listener) (h : Hub) :
    (op.run (Listener.provider p.channel p.destination) handle h).1.bind Listener.slot = none := by
  cases op with
  | acquire | start => exact absurd trivial halts
  | stop | dispose => cases handle <;> rfl

theorem operate_onward (p : Station ε) (op : Operation) :
    ∃ news, Onward (Move.operate op).Quiet p ((Move.operate op).run p) news := by
  let left := op.run (Listener.provider p.channel p.destination) p.handle p.hub
  have silent (slot slot' : Option Subscription) : (Notice.ofSlot slot slot').sent = [] := by
    cases slot <;> cases slot' <;> rfl
  refine ⟨Notice.ofSlot p.slot? (left.1.bind Listener.slot), rfl, rfl, rfl, ?_,
    fun calm => ⟨?_, silent _ _⟩⟩
  · intro l there filled on
    have running : p.slot? ≠ none := by
      rw [slot?, there]
      exact filled
    by_cases quiet : (Move.operate op).Quiet
    · exact ⟨l, (congrArg Prod.fst (run_of_filled quiet running)).trans there, rfl, rfl⟩
    · obtain ⟨sub, started⟩ := Option.ne_none_iff_exists'.mp running
      rw [started, show left.1.bind Listener.slot = none from run_of_not_quiet quiet _ _] at on
      exact absurd List.mem_cons_self on
  · cases running : p.slot? with
    | none =>
      cases left.1.bind Listener.slot <;> simp [Notice.ofSlot]
    | some sub =>
      have same : left = (p.handle, p.hub) :=
        run_of_filled calm (running ▸ Option.some_ne_none sub)
      rw [same, ← slot?, running, Notice.ofSlot_self]
      exact List.not_mem_nil

theorem traffic_onward (p : Station ε) (move : Traffic) :
    Onward (Move.traffic move).Quiet p ((Move.traffic move).run p) ((p.sends move).map .sent) where
  sink := rfl
  destination := rfl
  timeline := rfl
  keeps there _ _ := ⟨_, there, rfl, rfl⟩
  calm calm := by
    have silent : p.sends move = [] := by
      unfold sends
      cases p.slot? with
      | none => rfl
      | some sub =>
        cases move with
        | guest move =>
          cases move with
          | send | publish => exact calm.elim
          | _ => rfl
        | _ => rfl
    rw [silent]
    exact ⟨nofun, rfl⟩

theorem Onward.of_hub {h : Hub} (onward : Onward quiet { p with hub := h } q news) :
    Onward quiet p q news :=
  ⟨onward.sink, onward.destination, onward.timeline, onward.keeps, onward.calm⟩

theorem Onward.mono {quiet' : Prop} (onward : Onward quiet p q news) (less : quiet' → quiet) :
    Onward quiet' p q news :=
  ⟨onward.sink, onward.destination, onward.timeline, onward.keeps,
    fun calm => onward.calm (less calm)⟩

theorem moves_onward (moves : List Move) : ∀ p : Station ε, ∃ news,
    Onward (∀ move ∈ moves, move.Quiet) p (moves.foldl (fun p move => move.run p) p) news := by
  induction moves with
  | nil => exact fun p => ⟨[], .refl _ p⟩
  | cons move rest ih =>
    intro p
    obtain ⟨first, onward⟩ : ∃ news, Onward move.Quiet p (move.run p) news := by
      cases move with
      | operate op => exact operate_onward p op
      | traffic move => exact ⟨_, traffic_onward p move⟩
    obtain ⟨others, onward'⟩ := ih (move.run p)
    exact ⟨first ++ others, (onward.mono fun calm => calm move List.mem_cons_self).trans
      (onward'.mono fun calm other there => calm other (List.mem_cons_of_mem move there))⟩

/-- What the sink is given comes before whatever it does. -/
theorem deliver_onward (p : Station ε) (destination : String) (m : Message) :
    ∃ news, Onward (Quiet p.sink) p (Forwards.deliver destination m p)
      (.given destination m :: news) := by
  let given : Station ε := { p with extra := (p.sink destination m p.extra).2 }.note
    [.given destination m]
  have first : Onward (Quiet p.sink) p given [.given destination m] :=
    ⟨rfl, rfl, rfl, fun there _ _ => ⟨_, there, rfl, rfl⟩, fun _ => ⟨by simp, rfl⟩⟩
  obtain ⟨news, onward⟩ := moves_onward (p.sink destination m p.extra).1 given
  exact ⟨news, first.trans (onward.mono fun calm => calm destination m p.extra)⟩

theorem deliver_sound {destination : String} {m : Message}
    (sound : origin.Sound (p.note [.given destination m])) :
    origin.Sound (Forwards.deliver destination m p) :=
  moves_sound _ ⟨sound.alike, sound.positive, sound.slots_eq, sound.balanced, sound.fits,
    sound.destined, sound.tells⟩

end

/-! ### Turns -/

/-- What up to `n` looks of a task come to. Each of them that finds something passes a message at
least, and only a listener that is stopped gets rid of its task. -/
structure Drains (origin : Station ε) (task n : Nat) (p : Station ε) (left : Drained × Station ε)
    (news : Timeline) : Prop where
  sound : origin.Sound left.2
  onward : Onward (Quiet p.sink) p left.2 news
  more (outcome : left.1 = .more) : n ≤ news.passed
  empty (outcome : left.1 = .empty) :
    ∃ sub, left.2.slot? = some sub ∧ left.2.hub.outstanding sub = 0
  detached {l} (outcome : left.1 = .detached) (there : p.handle = some l) (has : l.task = some task)
    (filled : l.slot ≠ none) : .stopped ∈ news

theorem Drains.after {q : Station ε} {task n : Nat} {left : Drained × Station ε}
    {first news : Timeline} (onward : Onward (Quiet p.sink) p q first) (passes : 1 ≤ first.passed)
    (drains : Drains origin task n q left news) :
    Drains origin task (n + 1) p left (first ++ news) := by
  have others := drains.onward
  rw [onward.sink] at others
  refine ⟨drains.sound, onward.trans others, ?_, drains.empty, ?_⟩
  · intro outcome
    rw [Timeline.passed_append]
    have others := drains.more outcome
    omega
  · intro l outcome there has filled
    by_cases stops : .stopped ∈ first
    · exact List.mem_append_left news stops
    · obtain ⟨l', there', slot, task'⟩ := onward.keeps there filled stops
      exact List.mem_append_right first
        (drains.detached outcome there' (task'.trans has) (slot ▸ filled))

theorem drains (task n : Nat) : ∀ {p : Station ε}, origin.Sound p →
    ∃ news, Drains origin task n p (Forwarding.drain task p.destination n p) news := by
  induction n with
  | zero =>
    intro p sound
    exact ⟨[], sound, .refl _ p, fun _ => Nat.zero_le _, Drained.noConfusion,
      Drained.noConfusion⟩
  | succ n ih =>
    intro p sound
    have look := looked sound task
    unfold Forwarding.drain
    generalize Forwarding.pull task p = result at look
    cases look with
    | @message h m sound' =>
      obtain ⟨given, onward⟩ := deliver_onward { p with hub := h } p.destination m
      obtain ⟨news, others⟩ := ih (deliver_sound sound')
      rw [onward.destination] at others
      exact ⟨_, others.after onward.of_hub (Nat.le_add_right 1 _)⟩
    | @lagged h k positive sound' =>
      have onward : Onward (Quiet p.sink) { p with hub := h }
          (Journaled.record (Forwarding.lag p.destination k) { p with hub := h })
          [.logged (Forwarding.lag p.destination k)] :=
        onward_note (by simp) rfl _
      obtain ⟨news, others⟩ := ih sound'
      exact ⟨_, others.after onward.of_hub positive⟩
    | @empty h sub sound' filled nothing =>
      have onward : Onward (Quiet p.sink) p { p with hub := h } [] := (Onward.refl _ _).of_hub
      exact ⟨[], sound', onward, Drained.noConfusion, fun _ => ⟨sub, filled, nothing⟩,
        Drained.noConfusion⟩
    | detached gone =>
      exact ⟨[], sound, .refl _ p, Drained.noConfusion, Drained.noConfusion,
        fun _ there has filled => absurd (gone _ there has) filled⟩

theorem begin_sound {l : Listener} (sound : origin.Sound p) (there : p.handle = some l)
    (task : Nat) : origin.Sound (Forwarding.begin task l p) ∧
      (Forwarding.begin task l p).destination = p.destination := by
  unfold Forwarding.begin
  split
  · exact ⟨sound, rfl⟩
  · have same := congrArg Forwarding.running (sound.destined there)
    exact ⟨(sound.mark there).log (Or.inl same), rfl⟩

theorem turn_sound {task : Nat} {l : Listener} (sound : origin.Sound p)
    (there : p.handle = some l) : origin.Sound (Forwarding.turn task l p) := by
  have destined := sound.destined there
  obtain ⟨begun, same⟩ := begin_sound sound there task
  obtain ⟨news, drained⟩ := drains task Forwarding.batchSize begun
  have stays := drained.onward.destination.trans same
  have kept := drained.sound
  rw [same, ← destined] at stays kept
  unfold Forwarding.turn
  generalize Forwarding.drain task l.destination Forwarding.batchSize (Forwarding.begin task l p) =
    left at stays kept ⊢
  obtain ⟨outcome, q⟩ := left
  cases outcome with
  | detached => exact kept.log (Or.inr (congrArg Forwarding.detached stays.symm))
  | more => exact kept.hears (Hub.similar_ready _ _) rfl (kept.tells.hub fun _ _ => rfl)
  | empty =>
    cases l.slot with
    | none => exact kept
    | some sub =>
      exact kept.hears (Hub.similar_wait _ task sub.channel) rfl
        (kept.tells.hub fun sub' _ => Hub.inbox?_wait _ task sub.channel sub')

theorem advance_sound (sound : origin.Sound p) : origin.Sound (Forwarding.advance p) := by
  cases ready : p.hub.ready with
  | nil =>
    rw [Forwarding.advance_of_idle ready]
    exact sound
  | cons task rest =>
    have popped : Sound origin (Forwards.setHub { p.hub with ready := rest } p) :=
      sound.hears (Hub.similar_ready p.hub rest) rfl (sound.tells.hub fun _ _ => rfl)
    cases found : Forwards.listener? task (Forwards.setHub { p.hub with ready := rest } p) with
    | none =>
      rw [Forwarding.advance_of_stray ready found]
      exact popped
    | some l =>
      rw [Forwarding.advance_of_ready ready found]
      exact turn_sound popped (Option.filter_eq_some_iff.mp found).1

theorem flush_sound (sound : origin.Sound p) (task n : Nat) :
    origin.Sound (Forwarding.flush task n p) := by
  unfold Forwarding.flush
  split
  · exact sound
  · rename_i l found
    obtain ⟨news, drained⟩ := drains task n sound
    rw [sound.destined (Option.filter_eq_some_iff.mp found).1]
    exact drained.sound

theorem step_sound (sound : origin.Sound p) (happening : Happening) :
    origin.Sound (p.step happening) := by
  cases happening with
  | move m => exact move_sound sound m
  | forward => exact advance_sound sound
  | flush task messages => exact flush_sound sound task messages

theorem fresh_sound (capacity : Nat) (channel destination : String) (extra : ε)
    (sink : String → Message → ε → List Move × ε) :
    Sound (fresh capacity channel destination extra sink)
      (fresh capacity channel destination extra sink) where
  alike := ⟨rfl, rfl⟩
  positive := Nat.pos_of_isPowerOfTwo (Nat.isPowerOfTwo_nextPowerOfTwo _)
  slots_eq := rfl
  balanced := Hub.balanced_ofCapacity capacity
  fits there := nomatch there
  destined there := nomatch there
  tells := ⟨.idle rfl, Timeline.orderly_nil _ _⟩

theorem run_sound (happenings : List Happening) (sound : origin.Sound p) :
    origin.Sound (p.run happenings) :=
  List.foldlRecOn (motive := Sound origin) happenings step sound
    fun _ sound happening _ => step_sound sound happening

/-! ### The accounts of a listener -/

/-- What a listener that runs gave and missed, and what is still queued, is all that was sent. -/
theorem Sound.accounts (sound : origin.Sound p) {sub : Subscription} (filled : p.slot? = some sub) :
    ∃ since, p.timeline.underway = some (sub, since) ∧
      since.passed + p.hub.outstanding sub = since.sent.length := by
  have reads := sound.tells.reads
  rw [filled] at reads
  cases reads with
  | busy current found keeps =>
    refine ⟨_, current, ?_⟩
    rw [Hub.outstanding_eq, found]
    exact keeps.outstanding

/-- While the listener is not stopped, looks use up what is queued, and they end as soon as nothing
is left. -/
theorem Drains.of_running {task n : Nat} {left : Drained × Station ε} {news : Timeline}
    {l : Listener} {sub : Subscription} (sound : origin.Sound p)
    (drains : Drains origin task n p left news) (there : p.handle = some l)
    (has : l.task = some task) (filled : l.slot = some sub) (on : .stopped ∉ news) :
    left.2.slot? = some sub ∧ left.1 ≠ .detached ∧
      (left.1 = .more → n ≤ p.hub.outstanding sub + news.sent.length) ∧
      (left.1 = .empty → left.2.hub.outstanding sub = 0) := by
  have running : l.slot ≠ none := filled ▸ Option.some_ne_none sub
  obtain ⟨l', there', slot, -⟩ := drains.onward.keeps there running on
  have filled' : left.2.slot? = some sub := slot?_of_filled there' (slot.trans filled)
  have filled : p.slot? = some sub := slot?_of_filled there filled
  refine ⟨filled', fun outcome => on (drains.detached outcome there has running), ?_, ?_⟩
  · -- the accounts before and after differ by what was passed and sent in between
    intro outcome
    obtain ⟨since, current, before⟩ := sound.accounts filled
    obtain ⟨since', current', after⟩ := drains.sound.accounts filled'
    have orderly := drains.sound.tells.orderly
    rw [drains.onward.timeline] at orderly current'
    cases (orderly.underway_append current on).symm.trans current'
    rw [Timeline.passed_append, Timeline.sent_append, List.length_append] at after
    have used := drains.more outcome
    omega
  · intro outcome
    obtain ⟨sub', same, nothing⟩ := drains.empty outcome
    cases filled'.symm.trans same
    exact nothing

/-- Over every run, whatever the sink does in between: each message that the sink is given is the
next one sent since the listener started, under the name of the destination, and each report of
missed messages tells how many were overwritten. Nothing is given after a stop before the next
start. What was given or missed and what is queued is all that was sent. Batch after batch ends with
an empty queue once there were more looks than messages, unless the listener is stopped. -/
theorem run_relays (capacity : Nat) (channel destination : String) (extra : ε)
    (sink : String → Message → ε → List Move × ε) (happenings : List Happening) :
    let slots := (max 1 capacity).nextPowerOfTwo
    let p := (fresh capacity channel destination extra sink).run happenings
    (∀ (front : Timeline) (n : Notice) (rest : Timeline), p.timeline = front ++ n :: rest →
      n.Due slots destination front.underway) ∧
    (∀ (front rest : Timeline) (sub : Subscription) (since : Timeline),
      p.timeline = front ++ rest → front.underway = some (sub, since) →
      since.given.Sublist (since.sent.map (·.sentTo destination))) ∧
    (∀ front since : Timeline, p.timeline = front ++ .stopped :: since →
      (∀ sub, .started sub ∉ since) → since.given = []) ∧
    ∀ (l : Listener) (sub : Subscription), p.handle = some l → l.slot = some sub →
      (∃ since, p.timeline.underway = some (sub, since) ∧
        since.passed + p.hub.outstanding sub = since.sent.length) ∧
      ∀ task, l.task = some task → ∀ k,
        let left := Forwarding.batches task destination k p
        let looks := Forwarding.batchSize * k
        ∃ news, left.2.timeline = p.timeline ++ news ∧
          (.stopped ∉ news → left.2.slot? = some sub ∧ left.1 ≠ .detached ∧
            (left.1 = .more → looks ≤ p.hub.outstanding sub + news.sent.length) ∧
            (left.1 = .empty → left.2.hub.outstanding sub = 0)) ∧
          (Quiet sink → p.hub.outstanding sub < looks →
            left.1 = .empty ∧ left.2.slot? = some sub ∧ left.2.hub.outstanding sub = 0) := by
  intro slots p
  have sound : Sound _ p :=
    run_sound happenings (fresh_sound capacity channel destination extra sink)
  have fed : p.sink = sink := sound.alike.2
  have orderly := sound.tells.orderly
  rw [show p.destination = destination from sound.alike.1] at orderly
  refine ⟨orderly, ?_, fun front since => orderly.given_of_stopped, ?_⟩
  · intro front rest sub since split current
    have earlier := (split ▸ orderly).of_append
    exact (earlier.given_sublist current).trans ((List.take_sublist _ _).map _)
  · intro l sub there filled
    have running := slot?_of_filled there filled
    refine ⟨sound.accounts running, ?_⟩
    intro task has k left looks
    obtain ⟨news, drained⟩ := drains task looks sound
    rw [← Forwarding.batches_eq_drain, sound.alike.1] at drained
    have onward := drained.of_running sound there has filled
    refine ⟨news, drained.onward.timeline, onward, ?_⟩
    intro quiet few
    obtain ⟨on, silent⟩ := drained.onward.calm (fed ▸ quiet)
    obtain ⟨filled', attached, more, empty⟩ := onward on
    rw [silent] at more
    have outcome : left.1 = .empty := by
      cases outcome : left.1 with
      | empty => rfl
      | more => exact absurd (more outcome) (Nat.not_le.mpr few)
      | detached => exact absurd outcome attached
    exact ⟨outcome, filled', empty outcome⟩

/-- The first of three messages is overwritten. The fourth one is sent between two looks, and a
batch takes all that is left. -/
theorem run_relays_overwritten :
    let message (n : Int64) : Message :=
      { id := ⟨7⟩, destination := "r", body := [], timestamp := n }
    let send (n : Int64) : Happening := .move (.traffic (.guest (.send 0 (message n))))
    let happenings := [.move (.traffic (.guest (.openChannel "r"))), .move (.operate .acquire),
      .move (.operate .start), send 1, send 2, send 3, .flush 0 2, send 4]
    let p := (fresh 2 "r" "quotes" () fun _ _ _ => ([], ())).run happenings
    let sub : Subscription := ⟨0, 0, "r"⟩
    let left := Forwarding.batches 0 "quotes" 1 p
    p.hub.outstanding sub = 2 ∧ left.1 = .empty ∧ left.2.hub.outstanding sub = 0 ∧
      ∃ since, p.timeline.underway = some (sub, since) ∧ since.passed + 2 = since.sent.length := by
  intro message send happenings
  have relays := run_relays 2 "r" "quotes" () (fun _ _ _ => ([], ())) happenings
  -- from here on the run is not to be computed again
  generalize ran : run happenings (fresh 2 "r" "quotes" () fun _ _ _ => ([], ())) = q at relays ⊢
  intro p sub left
  have held : q.handle.map (fun l => (l.slot, l.task)) = some (some sub, some 0) := by
    rw [← ran]
    decide +kernel
  have queued : q.hub.outstanding sub = 2 := by
    rw [← ran]
    decide +kernel
  obtain ⟨l, there, same⟩ := Option.map_eq_some_iff.mp held
  obtain ⟨filled, has⟩ := Prod.mk.inj same
  obtain ⟨⟨since, current, counted⟩, batches⟩ := relays.2.2.2 l sub there filled
  obtain ⟨news, -, -, ends⟩ := batches 0 has 1
  rw [queued] at counted ends
  obtain ⟨outcome, -, nothing⟩ := ends nofun (by decide)
  exact ⟨queued, outcome, nothing, since, current, counted⟩

end Switchboard.Station
