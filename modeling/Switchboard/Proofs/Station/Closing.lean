import Switchboard.Proofs.Station.Relay

/-!
# A listener outlives the name of its channel

A listener holds a sender of the channel that it reads. So the channel stays open for as long as the
listener runs, whoever closes its name and whatever others give back, and no look into the slot
finds it closed. With nothing left to forward, the task of the listener waits
(`run_stays_attached`).
-/

namespace Switchboard.Station

variable {ε : Type} {origin p : Station ε} {l : Listener} {sub : Subscription} {task : Nat}

/-- A notice that passes a message tells of one that was queued. -/
theorem Sound.outstanding_pos {h : Hub} {n : Notice} (sound : origin.Sound p)
    (filled : p.slot? = some sub) (noticed : origin.Sound (note { p with hub := h } [n]))
    (passes : 0 < n.passes) (on : n ≠ .stopped) (silent : n.sent? = none) :
    0 < p.hub.outstanding sub := by
  obtain ⟨since, current, before⟩ := sound.accounts filled
  obtain ⟨since', current', after⟩ := noticed.accounts (p := note { p with hub := h } [n]) filled
  have grown := noticed.tells.orderly.underway_append current (by simpa using on.symm)
  cases grown.symm.trans current'
  rw [Timeline.passed_concat, Timeline.sent_concat, silent] at after
  simp only [Option.toList, List.append_nil] at after
  omega

/-- A look into a slot for which nothing is queued finds nothing. -/
theorem pull_of_nothing (sound : origin.Sound p) (there : p.handle = some l)
    (has : l.task = some task) (filled : l.slot = some sub)
    (nothing : p.hub.outstanding sub = 0) :
    ∃ h, Forwarding.pull task p = (.empty, { p with hub := h }) := by
  have running := slot?_of_filled there filled
  have look := looked sound task
  generalize Forwarding.pull task p = result at look ⊢
  cases look with
  | message noticed =>
    have queued := sound.outstanding_pos running noticed Nat.one_pos nofun rfl
    omega
  | lagged positive noticed =>
    have queued := sound.outstanding_pos running noticed positive nofun rfl
    omega
  | empty => exact ⟨_, rfl⟩
  | detached gone => cases (gone l there has).symm.trans filled

theorem drain_of_nothing (sound : origin.Sound p) (there : p.handle = some l)
    (has : l.task = some task) (filled : l.slot = some sub)
    (nothing : p.hub.outstanding sub = 0) (destination : String) (n : Nat) :
    ∃ h, Forwarding.drain task destination (n + 1) p = (.empty, { p with hub := h }) := by
  obtain ⟨h, found⟩ := pull_of_nothing sound there has filled nothing
  refine ⟨h, ?_⟩
  rw [Forwarding.drain, found]

theorem begin_keeps (there : p.handle = some l) (task : Nat) :
    ∃ l', (Forwarding.begin task l p).handle = some l' ∧ l'.slot = l.slot ∧ l'.task = l.task ∧
      (Forwarding.begin task l p).hub = p.hub := by
  unfold Forwarding.begin
  split
  · exact ⟨l, there, rfl, rfl, rfl⟩
  · exact ⟨{ l with begun := true }, rfl, rfl, rfl, rfl⟩

theorem turn_of_nothing (sound : origin.Sound p) (there : p.handle = some l)
    (has : l.task = some task) (filled : l.slot = some sub)
    (nothing : p.hub.outstanding sub = 0) : (Forwarding.turn task l p).slot? = some sub := by
  obtain ⟨begun, -⟩ := begin_sound sound there task
  obtain ⟨l', there', slot, task', hub⟩ := begin_keeps there task
  obtain ⟨h, ended⟩ := drain_of_nothing begun there' (task'.trans has) (slot.trans filled)
    (hub ▸ nothing) l.destination 63
  unfold Forwarding.turn
  rw [Forwarding.batchSize, ended, filled]
  exact slot?_of_filled there' (slot.trans filled)

/-- Over every run, whoever closes names and gives senders back: a listener that runs has its
channel open, and with nothing queued its task finds nothing, does not end, and leaves it running
after its turn. No task ever finds its channel closed, and none says so in the log. -/
theorem run_stays_attached (capacity : Nat) (channel destination : String) (extra : ε)
    (sink : String → Message → ε → List Move × ε) (happenings : List Happening) :
    let p := (fresh capacity channel destination extra sink).run happenings
    (∀ (l : Listener) (sub : Subscription) (task : Nat),
      p.handle = some l → l.slot = some sub → l.task = some task →
      (p.hub.channel sub.channel).isOpen = true ∧
      (p.hub.outstanding sub = 0 →
        (∀ n, (Forwarding.drain task destination (n + 1) p).1 = .empty ∧
          (Forwarding.drain task destination (n + 1) p).2.slot? = some sub) ∧
        (Forwarding.turn task l p).slot? = some sub)) ∧
    (∀ task, (Forwarding.pull task p).1 ≠ .closed) ∧
    ∀ e, .logged e ∈ p.timeline → e.message ≠ "backing channel closed" := by
  intro p
  have sound : Sound _ p :=
    run_sound happenings (fresh_sound capacity channel destination extra sink)
  refine ⟨?_, ?_, ?_⟩
  · intro l sub task there filled has
    refine ⟨sound.isOpen there filled, ?_⟩
    intro nothing
    refine ⟨?_, turn_of_nothing sound there has filled nothing⟩
    intro n
    obtain ⟨h, ended⟩ := drain_of_nothing sound there has filled nothing destination n
    rw [ended]
    refine ⟨rfl, ?_⟩
    exact slot?_of_filled there filled
  · intro task
    have look := looked sound task
    generalize Forwarding.pull task p = result at look ⊢
    cases look <;> exact Pull.noConfusion
  · intro e member
    obtain ⟨front, rest, split⟩ := List.append_of_mem member
    rcases sound.tells.orderly front _ rest split with rfl | rfl | ⟨k, -, -, rfl, -⟩
    all_goals simp [Forwarding.running, Forwarding.detached, Forwarding.lag, Forwarding.event]

/-- The channel lost its name while a message was queued: when the message is forwarded and nobody
else holds a sender, the task waits again and the listener runs. -/
theorem closed_channel_keeps_its_task :
    let message : Message := { id := ⟨7⟩, destination := "r", body := [], timestamp := 1 }
    let p := (fresh 16 "r" "quotes" () fun _ _ _ => ([], ())).run [.move (.operate .acquire),
      .move (.operate .start), .forward, .move (.traffic (.guest (.publish "r" message))),
      .move (.traffic (Traffic.closes "r")), .forward, .forward]
    let sub : Subscription := ⟨0, 0, "r"⟩
    p.hub.contains "r" = false ∧ p.guests.senders = [] ∧ p.hub.outstanding sub = 0 ∧
      p.hub.ready = [] ∧ p.slot? = some sub := by
  decide +kernel

/-- A listener whose channel is closed before its task runs for the first time. -/
theorem run_stays_attached_after_shutdown :
    let happenings := [.move (.operate .acquire), .move (.operate .start),
      .move (.traffic Traffic.shutsDown)]
    let p := (fresh 16 "r" "quotes" () fun _ _ _ => ([], ())).run happenings
    p.hub.contains "r" = false ∧ ∃ l, p.handle = some l ∧
      (p.hub.channel 0).isOpen = true ∧ (Forwarding.turn 0 l p).slot? = some ⟨0, 0, "r"⟩ := by
  intro happenings
  have stays := run_stays_attached 16 "r" "quotes" () (fun _ _ _ => ([], ())) happenings
  -- from here on the run is not to be computed again
  generalize ran : run happenings (fresh 16 "r" "quotes" () fun _ _ _ => ([], ())) = q at stays ⊢
  intro p
  have held : q.handle.map (fun l => (l.slot, l.task)) = some (some ⟨0, 0, "r"⟩, some 0) := by
    rw [← ran]
    decide +kernel
  have closed : q.hub.contains "r" = false ∧ q.hub.outstanding ⟨0, 0, "r"⟩ = 0 := by
    rw [← ran]
    decide +kernel
  obtain ⟨l, there, same⟩ := Option.map_eq_some_iff.mp held
  obtain ⟨filled, has⟩ := Prod.mk.inj same
  obtain ⟨isOpen, idle⟩ := stays.1 l ⟨0, 0, "r"⟩ 0 there filled has
  exact ⟨closed.1, l, there, isOpen, (idle closed.2).2⟩

end Switchboard.Station
