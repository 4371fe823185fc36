import Switchboard.Adapter
import Switchboard.Proofs.Attempt
import Switchboard.Proofs.Channel.Guests
import Switchboard.Proofs.Listener

/-!
# Adapters on a hub

Several adapters share a hub with guests; more than one may be bound to the same channel. `Sound`
says that the hub counts exactly what their listeners and the guests hold. Every operation of an
adapter keeps it, and what it does to the hub is hidden from the state of the other adapters. So
a sound hub counts one receiver for each running adapter (`Sound.receiverCount_eq`).
-/

namespace Switchboard

namespace ChannelAdapter

def holdings (a : ChannelAdapter) : Holdings :=
  Listener.held a.coordinator.held

/-- A listener that is held serves the channel of the adapter. -/
def Fits (a : ChannelAdapter) (h : Hub) : Prop :=
  ∀ l, a.coordinator.held = some l → l.Fits a.channel h

def coordinated (op : Coordinator.Operation) (a : ChannelAdapter) (h : Hub) :
    ChannelAdapter × Hub :=
  let (_, c, h) := op.run a.provider a.coordinator h
  ({ a with coordinator := c }, h)

end ChannelAdapter

/-- What adapters and others hold of a hub is what it counts. -/
structure Sound (h : Hub) (adapters : Multiset ChannelAdapter) (rest : Holdings) : Prop where
  balanced : h.Balanced ((adapters.map ChannelAdapter.holdings).sum + rest)
  fits {a} (member : a ∈ adapters) : a.Fits h

namespace ChannelAdapter

variable {a : ChannelAdapter} {h h' : Hub} {adapters : Multiset ChannelAdapter} {rest : Holdings}

theorem Fits.later (fits : a.Fits h) (later : h.Later h') : a.Fits h' :=
  fun l there => (fits l there).later later

/-- Nothing that closes no channel changes the state of an adapter from outside. -/
theorem state_of_grows (fits : a.Fits h) (grows : h.Grows h') : a.state h' = a.state h := by
  apply Coordinator.state_congr
  intro l there
  exact ⟨Listener.isInitialized_of_grows (fits l there) grows, rfl⟩

theorem running_iff (fits : a.Fits h) : a.state h = .running ↔
    ∃ l s sub, a.coordinator.held = some l ∧ l.sender = some s ∧ l.slot = some sub ∧
      h.Registered a.channel s.channel := by
  cases there : a.coordinator.held with
  | none => simp [state, Coordinator.state_of_free there]
  | some l =>
    obtain ⟨s, bound⟩ := fits l there
    have initialized := Listener.isInitialized_of_bound bound
    rw [state, Coordinator.state_of_held there]
    change (if l.isInitialized h = true then (if l.isRunning = true then _ else _) else _) = _ ↔ _
    rw [Listener.isRunning]
    by_cases named : h.Registered a.channel s.channel
    · rw [if_pos (initialized.mpr named)]
      cases filled : l.slot with
      | none => simp [filled]
      | some sub =>
        refine iff_of_true rfl ⟨l, s, sub, rfl, bound.sender_eq, filled, named⟩
    · rw [if_neg (mt initialized.mp named)]
      simp [bound.sender_eq, named]

/-- A filled slot reads the channel registered under a name if and only if the adapter is bound to
that name and running. -/
theorem registered_iff (fits : a.Fits h) {l : Listener} {sub : Subscription}
    (there : a.coordinator.held = some l) (filled : l.slot = some sub) {name : String} :
    h.Registered name sub.channel ↔ a.channel = name ∧ a.state h = .running := by
  obtain ⟨s, bound⟩ := fits l there
  rw [bound.slot filled, running_iff fits]
  constructor
  · intro named
    have same := bound.name named
    exact ⟨same.symm, l, s, sub, there, bound.sender_eq, filled, same ▸ named⟩
  · rintro ⟨rfl, l', s', sub', there', sends, -, current⟩
    rw [there] at there'
    cases there'
    rw [bound.sender_eq] at sends
    cases sends
    exact current

theorem state_ne_running (free : a.coordinator.held.bind Listener.slot = none) (fits : a.Fits h) :
    a.state h ≠ .running := by
  rw [ne_eq, running_iff fits]
  rintro ⟨l, s, sub, there, -, filled, -⟩
  rw [there, Option.bind_some, filled] at free
  cases free

/-- A listener has a receiver in a registered channel if and only if its adapter is bound to the
name of the channel and running. -/
theorem receivers_eq (fits : a.Fits h) {name : String} {n : Nat} (named : h.Registered name n) :
    a.holdings.2.countP (fun sub => sub.channel = n) =
      if a.channel = name ∧ a.state h = .running then 1 else 0 := by
  cases slot : a.coordinator.held.bind Listener.slot with
  | none =>
    have nothing : a.holdings.2 = 0 := by
      cases there : a.coordinator.held with
      | none => simp [holdings, Listener.held, there]
      | some l =>
        rw [there, Option.bind_some] at slot
        simp [holdings, Listener.held, Listener.holdings, there, slot]
    rw [nothing, Multiset.countP_zero, if_neg fun serves => state_ne_running slot fits serves.2]
  | some sub =>
    obtain ⟨l, there, filled⟩ := Option.bind_eq_some_iff.mp slot
    have serves : sub.channel = n ↔ a.channel = name ∧ a.state h = .running := by
      rw [← registered_iff fits there filled]
      constructor
      · rintro rfl
        exact named
      · intro same
        exact Option.some.inj (same.symm.trans named)
    have alone : a.holdings.2 = sub ::ₘ 0 := by
      simp [there, filled, holdings, Listener.held, Listener.holdings]
    rw [alone, Multiset.countP_cons, Multiset.countP_zero, zero_add]
    simp only [serves]

/-! ### Operations as attempts -/

section Attempts

variable {ε : Type}

@[simp]
theorem run_note (level : Level) (message : String) (more : ChannelAdapter → Fields)
    (a : ChannelAdapter) (s : Site ε) : (note level message more).run (a, s) =
      ((), a, Journaled.record (a.event level message (more a)) s) := rfl

@[simp]
theorem run_coordinate (op : Provider Hub Listener → Coordinator Listener → Hub →
      Except LifecycleError Unit × Coordinator Listener × Hub) (a : ChannelAdapter) (s : Site ε) :
    (coordinate op).run (a, s) = ((op a.provider a.coordinator s.hub).1,
      { a with coordinator := (op a.provider a.coordinator s.hub).2.1 },
      { s with hub := (op a.provider a.coordinator s.hub).2.2 }) := rfl

/-- An attempt of an adapter that performs an operation of its coordinator and logs. -/
structure Performs (x : Attempt (ChannelAdapter × Site ε) Unit) (op : Coordinator.Operation) :
    Prop where
  left (a s) : ((x.exec (a, s)).2.1, (x.exec (a, s)).2.2.hub) = a.coordinated op s.hub
  outcome {a s} (ok : (op.run a.provider a.coordinator s.hub).1 = .ok ()) :
    (x.exec (a, s)).1 = .ok ()

theorem Performs.adapter {x : Attempt (ChannelAdapter × Site ε) Unit}
    {op : Coordinator.Operation} (performs : Performs x op) (a : ChannelAdapter) (s : Site ε) :
    (x.exec (a, s)).2.1 = (a.coordinated op s.hub).1 :=
  congrArg Prod.fst (performs.left a s)

theorem Performs.hub {x : Attempt (ChannelAdapter × Site ε) Unit}
    {op : Coordinator.Operation} (performs : Performs x op) (a : ChannelAdapter) (s : Site ε) :
    (x.exec (a, s)).2.2.hub = (a.coordinated op s.hub).2 :=
  congrArg Prod.snd (performs.left a s)

theorem start_performs : Performs (ε := ε) start .start where
  left a s := by
    simp only [coordinated, Coordinator.Operation.run]
    cases outcome : (Coordinator.start a.provider a.coordinator s.hub).1 <;>
      simp [start, Attempt.exec, outcome, Journaled.record]
  outcome ok := by
    simp only [Coordinator.Operation.run] at ok
    simp [start, Attempt.exec, ok]

theorem stop_performs : Performs (ε := ε) stop .stop where
  left a s := by
    simp only [coordinated, Coordinator.Operation.run]
    cases outcome : (Coordinator.stop a.provider a.coordinator s.hub).1 <;>
      simp [stop, Attempt.exec, outcome, Journaled.record]
  outcome ok := by
    simp only [Coordinator.Operation.run] at ok
    simp [stop, Attempt.exec, ok]

theorem subscribe_performs (client : String) :
    Performs (ε := ε) (subscribe client) (.subscribe client) where
  left a s := by
    simp only [coordinated, Coordinator.Operation.run]
    cases outcome : (Coordinator.subscribe a.provider client a.coordinator s.hub).1 <;>
      simp [subscribe, Attempt.exec, outcome, Journaled.record]
  outcome ok := by
    simp only [Coordinator.Operation.run] at ok
    simp [subscribe, Attempt.exec, ok]

theorem unsubscribe_performs (client : String) :
    Performs (ε := ε) (unsubscribe client) (.unsubscribe client) where
  left a s := by
    simp only [coordinated, Coordinator.Operation.run]
    cases outcome : (Coordinator.unsubscribe a.provider client a.coordinator s.hub).1 <;>
      simp [unsubscribe, Attempt.exec, outcome, Journaled.record]
  outcome ok := by
    simp only [Coordinator.Operation.run] at ok
    simp [unsubscribe, Attempt.exec, ok]

/-- An attempt that reports nothing but failures of the coordinator. -/
def Relays (x : Attempt (ChannelAdapter × Site ε) Unit) : Prop :=
  ∀ {s f}, (x.exec s).1 = .error f → ∃ e note, f = (Failure.lifecycle e).withNote note

theorem subscribe_relays (client : String) : Relays (ε := ε) (subscribe client) := by
  rintro ⟨a, s⟩ f failed
  cases outcome : (Coordinator.subscribe a.provider client a.coordinator s.hub).1 <;>
    simp [subscribe, Attempt.exec, outcome] at failed
  exact ⟨_, _, failed.symm⟩

theorem unsubscribe_relays (client : String) : Relays (ε := ε) (unsubscribe client) := by
  rintro ⟨a, s⟩ f failed
  cases outcome : (Coordinator.unsubscribe a.provider client a.coordinator s.hub).1 <;>
    simp [unsubscribe, Attempt.exec, outcome] at failed
  exact ⟨_, _, failed.symm⟩

theorem exec_invoke (m : Message) (a : ChannelAdapter) (s : Site ε) :
    ∃ receivers journal, (invoke m).exec (a, s) = (.ok receivers, a,
      { s with hub := (s.hub.publish a.channel (m.sentTo a.destination)).2, journal }) :=
  ⟨_, _, rfl⟩

end Attempts

end ChannelAdapter

namespace Sound

variable {a : ChannelAdapter} {h h' : Hub} {adapters : Multiset ChannelAdapter} {rest : Holdings}
  {g : Guests}

theorem of_idle (idle : ∀ a ∈ adapters, a.coordinator.held = none) (balanced : h.Balanced rest) :
    Sound h adapters rest := by
  refine ⟨?_, ?_⟩
  · have nothing : (adapters.map ChannelAdapter.holdings).sum = 0 := by
      apply Multiset.sum_eq_zero
      intro held member
      obtain ⟨a, there, rfl⟩ := Multiset.mem_map.mp member
      rw [ChannelAdapter.holdings, idle a there]
      rfl
    rw [nothing, zero_add]
    exact balanced
  · intro a member l there
    rw [idle a member] at there
    cases there

theorem similar (sound : Sound h adapters rest) (similar : h.Similar h') :
    Sound h' adapters rest :=
  ⟨sound.balanced.similar similar, fun member => (sound.fits member).later similar.grows.toLater⟩

theorem guests (sound : Sound h adapters g.holdings) (move : Guests.Move) :
    Sound (move.run (h, g)).1 adapters (move.run (h, g)).2.holdings := by
  have balanced := sound.balanced
  rw [add_comm] at balanced
  obtain ⟨kept, later, -⟩ := Guests.run_balanced balanced move
  rw [add_comm] at kept
  exact ⟨kept, fun member => (sound.fits member).later later⟩

/-- What an adapter holds apart from the others. -/
theorem kept (sound : Sound h (a ::ₘ adapters) rest) : Listener.Kept h a.channel
    ((adapters.map ChannelAdapter.holdings).sum + rest) a.coordinator.held h := by
  have balanced := sound.balanced
  rw [Multiset.map_cons, Multiset.sum_cons, add_assoc] at balanced
  exact ⟨balanced, sound.fits (Multiset.mem_cons_self a adapters) _, Hub.Grows.refl h⟩

theorem kept_of_held {l : Listener} (sound : Sound h (a ::ₘ adapters) rest)
    (held : a.coordinator.held = some l) : Listener.Kept h a.channel
    ((adapters.map ChannelAdapter.holdings).sum + rest) (some l) h :=
  held ▸ sound.kept

theorem outcome (sound : Sound h (a ::ₘ adapters) rest) (up : h.isShutDown = false)
    (op : Coordinator.Operation) : (op.run a.provider a.coordinator h).1 = .ok () := by
  have keeps : a.provider.Preserves (Listener.Kept h a.channel
      ((adapters.map ChannelAdapter.holdings).sum + rest)) := Listener.provider_preserves
  exact Coordinator.run_succeeds keeps (Listener.provider_succeeds up) op sound.kept

/-- An adapter operates its own listener and leaves the others alone. -/
theorem coordinated (sound : Sound h (a ::ₘ adapters) rest) (op : Coordinator.Operation) :
    Sound (a.coordinated op h).2 ((a.coordinated op h).1 ::ₘ adapters) rest ∧
      h.Grows (a.coordinated op h).2 := by
  have keeps : a.provider.Preserves (Listener.Kept h a.channel
      ((adapters.map ChannelAdapter.holdings).sum + rest)) := Listener.provider_preserves
  have after := Coordinator.run_preserves keeps op sound.kept
  refine ⟨⟨?_, ?_⟩, after.grows⟩
  · rw [Multiset.map_cons, Multiset.sum_cons, add_assoc]
    exact after.balanced
  · intro b member
    rcases Multiset.mem_cons.mp member with rfl | other
    · intro l there
      exact after.fits there
    · exact (sound.fits (Multiset.mem_cons_of_mem other)).later after.grows.toLater

theorem performed {ε : Type} {site : Site ε} {op : Coordinator.Operation}
    {x : Attempt (ChannelAdapter × Site ε) Unit} (sound : Sound site.hub (a ::ₘ adapters) rest)
    (performs : ChannelAdapter.Performs x op) :
    Sound (x.exec (a, site)).2.2.hub ((x.exec (a, site)).2.1 ::ₘ adapters) rest ∧
      site.hub.Grows (x.exec (a, site)).2.2.hub := by
  rw [performs.adapter, performs.hub]
  exact sound.coordinated op

theorem relisten (ε : Type) {l l' : Listener} (sound : Sound h (a ::ₘ adapters) rest)
    (there : a.coordinator.held = some l) (same : l.SameEnds l') :
    Sound h (MessagingAdapter.setListener ε l' a ::ₘ adapters) rest := by
  have holdings : (MessagingAdapter.setListener ε l' a).holdings = a.holdings := by
    rw [ChannelAdapter.holdings, ChannelAdapter.holdings, there]
    exact same.holdings
  refine ⟨?_, ?_⟩
  · have balanced := sound.balanced
    rw [Multiset.map_cons, Multiset.sum_cons] at balanced ⊢
    rw [holdings]
    exact balanced
  · intro b member
    rcases Multiset.mem_cons.mp member with rfl | other
    · intro k held
      cases held
      exact same.fits (sound.fits (Multiset.mem_cons_self a adapters) l there)
    · exact sound.fits (Multiset.mem_cons_of_mem other)

theorem pull_keeps {l : Listener} (sound : Sound h (a ::ₘ adapters) rest)
    (there : a.coordinator.held = some l) :
    l.SameEnds (l.pull h).2.1 ∧ h.Similar (l.pull h).2.2 := by
  have kept := sound.kept_of_held there
  obtain ⟨unmoved, similar⟩ := Listener.pull_keeps (kept.fits rfl) kept.balanced
  rw [unmoved]
  exact ⟨Listener.SameEnds.refl l, similar⟩

theorem countP_eq (sound : Sound h adapters rest) {name : String} {n : Nat}
    (named : h.Registered name n) :
    (adapters.map ChannelAdapter.holdings).sum.2.countP (fun sub => sub.channel = n) =
      adapters.countP fun a => a.channel = name ∧ a.state h = .running := by
  have fits : ∀ a ∈ adapters, a.Fits h := fun a member => sound.fits member
  clear sound
  induction adapters using Multiset.induction with
  | empty => rfl
  | cons a others ih =>
    have ih := ih fun b other => fits b (Multiset.mem_cons_of_mem other)
    rw [Multiset.map_cons, Multiset.sum_cons, Prod.snd_add, Multiset.countP_add, ih,
      ChannelAdapter.receivers_eq (fits a (Multiset.mem_cons_self a others)) named,
      Multiset.countP_cons, Nat.add_comm]

/-- A channel has one receiver for each running adapter bound to its name and one for each
subscription of a guest. -/
theorem receiverCount_eq (sound : Sound h adapters g.holdings) (name : String) :
    h.receiverCount name =
      adapters.countP (fun a => a.channel = name ∧ a.state h = .running) +
        (h.names[name]?).elim 0 g.receivers := by
  cases named : h.names[name]? with
  | none =>
    have idle : adapters.countP (fun a => a.channel = name ∧ a.state h = .running) = 0 := by
      rw [Multiset.countP_eq_zero]
      rintro a member ⟨rfl, running⟩
      obtain ⟨l, s, sub, -, -, -, current⟩ :=
        (ChannelAdapter.running_iff (sound.fits member)).mp running
      rw [Hub.Registered, named] at current
      cases current
    rw [Hub.receiverCount_of_free named, idle]
    rfl
  | some n =>
    rw [sound.balanced.receiverCount_of_registered named, Prod.snd_add, Multiset.countP_add,
      sound.countP_eq named]
    rfl

end Sound

end Switchboard
