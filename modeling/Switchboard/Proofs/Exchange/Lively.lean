import Switchboard.Proofs.Exchange.Accounts

/-!
# Which adapters run

While no operation fails, an adapter runs if and only if it has subscribers and nothing broke its
listener since the first of them came. `Lively` says so of all adapters of an exchange, whatever
counts as broken; here is what each operation of the exchange makes of it.
-/

namespace Switchboard

/-! ### One adapter -/

/-- Without a stop the machine keeps running for its subscribers, if it ran for them before. -/
theorem Coordinator.Machine.next_running {s : Machine} {op : Operation} {stands : Prop}
    (lively : s.state = .running ↔ s.members ≠ ∅ ∧ stands) (lasts : op ≠ .stop)
    (joined : s.members = ∅ → ∀ client, op = .subscribe client → stands) :
    (s.next (.operation op)).state = .running ↔
      (s.next (.operation op)).members ≠ ∅ ∧ stands := by
  cases op with
  | subscribe client =>
    have filled : s.members.insert client ≠ ∅ := by
      intro empty
      exact Std.ExtTreeSet.not_mem_empty (empty ▸ Std.ExtTreeSet.mem_insert_self (k := client))
    by_cases empty : s.members = ∅
    · simp [next, empty, joined empty client rfl, empty ▸ filled]
    · simp [next, empty, filled, lively]
  | unsubscribe client =>
    by_cases left : s.members.erase client = ∅
    · by_cases running : s.state = .running
      · have member : client ∈ s.members := by
          by_contra stranger
          have same := Coordinator.erase_of_not_contains stranger
          exact (lively.mp running).1 (same.symm.trans left)
        simp [next, left, running, member]
      · simp [next, left, running]
    · have filled : s.members ≠ ∅ := by
        intro empty
        rw [empty] at left
        exact left Std.ExtTreeSet.erase_empty
      simp [next, left, lively, filled]
  | start =>
    have same : (s.next (.operation .start)).state = .running ↔ s.state = .running := by
      simp only [next]
      split
      · rename_i idle
        simp [idle]
      · exact Iff.rfl
    exact same.trans lively
  | stop => exact absurd rfl lasts

/-- What the abstract coordinator sees of an adapter. -/
def ChannelAdapter.observed (a : ChannelAdapter) (h : Hub) : Coordinator.Machine :=
  Coordinator.observed a.provider (a.coordinator, h)

/-- On a sound hub an operation of an adapter is one of the machine. -/
theorem Sound.follows {a : ChannelAdapter} {h : Hub} {adapters : Multiset ChannelAdapter}
    {rest : Holdings} (sound : Sound h (a ::ₘ adapters) rest) (up : h.isShutDown = false)
    (op : Coordinator.Operation) : (a.coordinated op h).1.observed (a.coordinated op h).2 =
      (a.observed h).next (.operation op) := by
  have outcome := sound.outcome up op
  have provider : (a.coordinated op h).1.provider = a.provider :=
    congrArg (Listener.provider a.channel)
      (Coordinator.run_destination a.provider op a.coordinator h)
  rw [ChannelAdapter.observed, provider]
  exact Coordinator.operation_follows Listener.provider_lawful (Prod.ext outcome rfl)

theorem ChannelAdapter.state_setListener (ε : Type) {a : ChannelAdapter} {l l' : Listener}
    (there : a.coordinator.held = some l) (same : l.SameEnds l') (h : Hub) :
    (MessagingAdapter.setListener ε l' a).state h = a.state h := by
  have initialized : l'.isInitialized h = l.isInitialized h := by
    unfold Listener.isInitialized
    rw [same.sender, same.channel]
  have running : l'.isRunning = l.isRunning := by
    unfold Listener.isRunning
    rw [same.slot]
  have after : (MessagingAdapter.setListener ε l' a).coordinator.held = some l' := rfl
  rw [state, state, Coordinator.state_of_held there, Coordinator.state_of_held after]
  change (if l'.isInitialized h = true then (if l'.isRunning = true then _ else _) else _) = _
  rw [initialized, running]
  rfl

/-- Closing a channel stops the adapters that are bound to its name, and no others. -/
theorem ChannelAdapter.running_close {a : ChannelAdapter} {h : Hub} (fits : a.Fits h)
    (name : String) :
    a.state (h.close name).2 = .running ↔ a.state h = .running ∧ a.channel ≠ name := by
  rw [running_iff (fits.later (Hub.later_close h name)), running_iff fits]
  cases named : h.names[name]? with
  | none =>
    rw [Hub.close_of_free named]
    constructor
    · rintro ⟨l, s, sub, held, sends, filled, current⟩
      refine ⟨⟨l, s, sub, held, sends, filled, current⟩, ?_⟩
      rintro rfl
      rw [Hub.Registered, named] at current
      cases current
    · exact And.left
  | some n =>
    simp only [Hub.registered_close named]
    constructor
    · rintro ⟨l, s, sub, held, sends, filled, differs, current⟩
      exact ⟨⟨l, s, sub, held, sends, filled, current⟩, differs⟩
    · rintro ⟨⟨l, s, sub, held, sends, filled, current⟩, differs⟩
      exact ⟨l, s, sub, held, sends, filled, differs, current⟩

/-! ### All of them -/

namespace Exchange.Core

variable {ε : Type}

/-- An adapter runs if and only if it has subscribers and `stands` holds of its id and channel. -/
structure Lively (stands : String → String → Prop) (k : Core ε) : Prop where
  running_iff {id a} (there : k.adapter? id = some a) :
    a.state k.hub = .running ↔ k.members id ≠ ∅ ∧ stands id a.channel

variable {k : Core ε} {channels : String → Option String} {g : Guests}
  {stands stands' : String → String → Prop} {id : String} {a b : ChannelAdapter} {h : Hub}

namespace Lively

theorem observed_iff (lively : k.Lively stands) (there : k.adapter? id = some a) :
    (a.observed k.hub).state = .running ↔ (a.observed k.hub).members ≠ ∅ ∧ stands id a.channel := by
  have running := lively.running_iff there
  rw [members_of_adapter there] at running
  exact running

theorem congr (lively : k.Lively stands)
    (same : ∀ {id c}, k.members id ≠ ∅ → (stands' id c ↔ stands id c)) : k.Lively stands' := by
  refine ⟨?_⟩
  intro id a there
  rw [lively.running_iff there]
  exact and_congr_right fun filled => (same filled).symm

/-- One adapter changes, and nothing is closed. -/
theorem replace (accounted : k.Accounted channels g) (lively : k.Lively stands)
    (channel : b.channel = a.channel) (grows : k.hub.Grows h)
    (own : b.state h = .running ↔ b.coordinator.members ≠ ∅ ∧ stands' id a.channel)
    (others : ∀ {other c}, other ≠ id → (stands' other c ↔ stands other c)) :
    ({ k with hub := h, registry := k.registry.setAdapter id b } : Core ε).Lively stands' := by
  refine ⟨?_⟩
  intro other c found
  rw [adapter?_setAdapter] at found
  rw [members_setAdapter]
  by_cases same : id = other
  · rw [if_pos same] at found ⊢
    cases found
    rw [channel, ← same]
    exact own
  · rw [if_neg same] at found ⊢
    have fits := accounted.fits found
    rw [ChannelAdapter.state_of_grows fits grows, others (Ne.symm same)]
    exact lively.running_iff found

theorem grows (accounted : k.Accounted channels g) (lively : k.Lively stands)
    (grows : k.hub.Grows h) : ({ k with hub := h } : Core ε).Lively stands := by
  refine ⟨?_⟩
  intro id a there
  have fits := accounted.fits there
  rw [ChannelAdapter.state_of_grows fits grows]
  exact lively.running_iff there

theorem relisten {l l' : Listener} (accounted : k.Accounted channels g) (lively : k.Lively stands)
    (there : k.adapter? id = some a) (held : a.coordinator.held = some l) (same : l.SameEnds l')
    (similar : k.hub.Similar h) : (k.relisten id a l' h).Lively stands := by
  refine lively.replace accounted rfl similar.grows ?_ fun _ => Iff.rfl
  have fits := accounted.fits there
  rw [ChannelAdapter.state_setListener ε held same,
    ChannelAdapter.state_of_grows fits similar.grows]
  exact lively.observed_iff there

theorem follow (accounted : k.Accounted channels g) (lively : k.Lively stands)
    {op : Coordinator.Operation}
    (own : ∀ {a}, k.adapter? id = some a →
      ((a.observed k.hub).state = .running ↔ (a.observed k.hub).members ≠ ∅ ∧ stands id a.channel) →
      (((a.observed k.hub).next (.operation op)).state = .running ↔
        ((a.observed k.hub).next (.operation op)).members ≠ ∅ ∧ stands' id a.channel))
    (others : ∀ {other c}, other ≠ id → (stands' other c ↔ stands other c)) :
    (k.operate op id).Lively stands' := by
  cases there : k.adapter? id with
  | none =>
    rw [operate_of_free there]
    refine ⟨?_⟩
    intro other b found
    have differs : other ≠ id := by
      rintro rfl
      rw [there] at found
      cases found
    rw [others differs]
    exact lively.running_iff found
  | some a =>
    obtain ⟨apart, sound⟩ := accounted.apart there
    have followed := sound.follows accounted.up op
    rw [operate_of_adapter there]
    refine lively.replace accounted rfl (sound.coordinated op).2 ?_ others
    have moved := own there (lively.observed_iff there)
    rw [← followed] at moved
    exact moved

/-- Nothing but a stop breaks a listener, and nothing but the first subscription mends one. -/
theorem operate (accounted : k.Accounted channels g) (lively : k.Lively stands)
    {op : Coordinator.Operation} (lasts : op ≠ .stop)
    (joined : k.members id = ∅ → ∀ client, op = .subscribe client → ∀ c, stands id c) :
    (k.operate op id).Lively stands := by
  refine lively.follow accounted ?_ fun _ => Iff.rfl
  intro a there alive
  refine Coordinator.Machine.next_running alive lasts ?_
  intro empty client subscribes
  exact joined ((members_of_adapter there).trans empty) client subscribes a.channel

theorem stop (accounted : k.Accounted channels g) (lively : k.Lively stands) :
    (k.operate .stop id).Lively fun other c => stands other c ∧ other ≠ id := by
  refine lively.follow accounted ?_ ?_
  · intro a there alive
    simp [Coordinator.Machine.next]
  · intro other c differs
    exact and_iff_left differs

theorem close (accounted : k.Accounted channels g) (lively : k.Lively stands) (name : String) :
    ({ k with hub := (k.hub.close name).2 } : Core ε).Lively fun id c =>
      stands id c ∧ c ≠ name := by
  refine ⟨?_⟩
  intro id a there
  have fits := accounted.fits there
  rw [ChannelAdapter.running_close fits, lively.running_iff there, and_assoc]
  rfl

end Lively

/-! ### Operations of the exchange -/

/-- The accounts are in order, and the adapters run as they should. -/
structure Served (channels : String → Option String) (g : Guests)
    (stands : String → String → Prop) (k : Core ε) : Prop where
  accounted : k.Accounted channels g
  lively : k.Lively stands

namespace Served

variable {op : Coordinator.Operation}

theorem withDelivery (served : k.Served channels g stands) (d : Delivery) :
    ({ k with delivery := d } : Core ε).Served channels g stands :=
  ⟨served.accounted.withDelivery d, ⟨served.lively.running_iff⟩⟩

theorem similar (served : k.Served channels g stands) (similar : k.hub.Similar h) :
    ({ k with hub := h } : Core ε).Served channels g stands :=
  ⟨served.accounted.similar similar, served.lively.grows served.accounted similar.grows⟩

theorem operate (served : k.Served channels g stands) (lasts : op ≠ .stop)
    (joined : k.members id = ∅ → ∀ client, op = .subscribe client → ∀ c, stands id c) :
    (k.operate op id).Served channels g stands :=
  ⟨(served.accounted.operate op id).1, served.lively.operate served.accounted lasts joined⟩

/-- Neither a start nor the end of a subscription breaks or mends anything. -/
theorem operateAll (served : k.Served channels g stands) (lasts : op ≠ .stop)
    (leaves : ∀ client, op ≠ .subscribe client) (ids : List String) :
    (k.operateAll op ids).Served channels g stands := by
  refine operateAll_induction ids ?_ served
  intro k served id
  exact served.operate lasts fun _ client joins => absurd joins (leaves client)

theorem stopAll (ids : List String) : ∀ {stands} {k : Core ε}, k.Served channels g stands →
    (k.operateAll .stop ids).Served channels g fun id c => stands id c ∧ id ∉ ids := by
  induction ids with
  | nil =>
    intro stands k served
    exact ⟨served.accounted, served.lively.congr fun _ => and_iff_left List.not_mem_nil⟩
  | cons id rest ih =>
    intro stands k served
    have first :
        (k.operate .stop id).Served channels g fun other c => stands other c ∧ other ≠ id :=
      ⟨(served.accounted.operate .stop id).1, served.lively.stop served.accounted⟩
    have others := ih first
    refine ⟨others.accounted, others.lively.congr ?_⟩
    intro other c _
    rw [List.mem_cons, not_or, and_assoc]

theorem depart (served : k.Served channels g stands) (client : String) :
    (k.depart client).Served channels g stands :=
  (served.withDelivery (k.delivery.disconnect client).2).operateAll
    Coordinator.Operation.noConfusion (fun _ => Coordinator.Operation.noConfusion) _

theorem relisten {l l' : Listener} (served : k.Served channels g stands)
    (there : k.adapter? id = some a) (held : a.coordinator.held = some l) (same : l.SameEnds l')
    (similar : k.hub.Similar h) : (k.relisten id a l' h).Served channels g stands :=
  ⟨served.accounted.relisten there held same similar,
    served.lively.relisten served.accounted there held same similar⟩

theorem stable : Stable (Served channels g stands (ε := ε)) where
  hub served similar := served.similar similar
  look {k id a l} served there held := by
    obtain ⟨others, sound⟩ := served.accounted.apart there
    obtain ⟨same, similar⟩ := sound.pull_keeps held
    exact served.relisten there held same similar
  mark served there held := served.relisten there held ⟨rfl, rfl, rfl⟩ (Hub.Similar.refl _)
  tables {k d} served _ := served.withDelivery d
  depart served client := served.depart client

/-- Of all requests only the first subscription mends a listener. -/
theorem dispatch (served : k.Served channels g stands)
    (mended : ∀ {id}, k.members id = ∅ → ∀ c, stands id c) (request : Request) :
    (k.dispatch request).Served channels g stands := by
  unfold Core.dispatch
  split
  · split
    · refine (served.withDelivery _).operate Coordinator.Operation.noConfusion ?_
      intro empty _ _
      exact mended empty
    · exact served
  · refine (served.withDelivery _).operate Coordinator.Operation.noConfusion ?_
    intro _ _ joins
    cases joins
  · exact served.similar (Hub.similar_publish _ _ _)
  · exact served

/-- Of all that guests do, short of a shutdown, only closing its channel breaks a listener. -/
theorem guests (served : k.Served channels g stands) {move : Guests.Move}
    (spares : move ≠ .shutdown) :
    ({ k with hub := (move.run (k.hub, g)).1 } : Core ε).Served channels (move.run (k.hub, g)).2
      fun id c => stands id c ∧ move ≠ .close c := by
  refine ⟨served.accounted.guests spares, ?_⟩
  have balanced := served.accounted.sound.balanced
  rw [add_comm] at balanced
  obtain ⟨-, -, grows⟩ := Guests.run_balanced balanced move
  cases move with
  | shutdown => exact absurd rfl spares
  | close name =>
    refine (served.lively.close served.accounted name).congr ?_
    intro id c _
    rw [ne_eq, ne_eq, Guests.Move.close.injEq, eq_comm]
  | _ =>
    refine (served.lively.grows served.accounted (grows trivial)).congr ?_
    intro id c _
    exact and_iff_left Guests.Move.noConfusion

end Served

end Exchange.Core

end Switchboard
