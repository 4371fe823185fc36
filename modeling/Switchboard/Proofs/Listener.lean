import Switchboard.Listener
import Switchboard.Proofs.Channel.Opening
import Switchboard.Proofs.Lifecycle.Machine

/-!
# What a listener holds

A listener that is held has a sender of one channel, and its slot, when filled, a subscription to
the same channel. That channel may have lost its name, but it never goes by another one. No call
of the provider breaks this, and while the hub is not shut down none of them fails.
-/

namespace Switchboard

namespace Listener

def holdings (l : Listener) : Holdings :=
  ((l.sender.toList : Multiset Sender), (l.slot.toList : Multiset Subscription))

/-- The listener of `channel` sends with `s`. -/
structure Bound (l : Listener) (channel : String) (s : Sender) (h : Hub) : Prop where
  channel_eq : l.channel = channel
  sender_eq : l.sender = some s
  slot {sub} (filled : l.slot = some sub) : sub.channel = s.channel
  name {name} (named : h.Registered name s.channel) : name = channel
  known : s.channel < h.nextChannel

def Fits (l : Listener) (channel : String) (h : Hub) : Prop :=
  ∃ s, l.Bound channel s h

/-- The listeners differ in their tasks alone. -/
structure SameEnds (l l' : Listener) : Prop where
  channel : l'.channel = l.channel
  sender : l'.sender = l.sender
  slot : l'.slot = l.slot

variable {l l' : Listener} {h h' : Hub} {rest : Holdings} {channel : String} {s : Sender}

theorem SameEnds.refl (l : Listener) : l.SameEnds l := ⟨rfl, rfl, rfl⟩

theorem SameEnds.holdings (same : l.SameEnds l') : l'.holdings = l.holdings := by
  rw [Listener.holdings, Listener.holdings, same.sender, same.slot]

theorem SameEnds.fits (same : l.SameEnds l') (fits : l.Fits channel h) : l'.Fits channel h := by
  obtain ⟨s, bound⟩ := fits
  exact ⟨s, same.channel.trans bound.channel_eq, same.sender.trans bound.sender_eq,
    fun filled => bound.slot (same.slot ▸ filled), bound.name, bound.known⟩

theorem Bound.later (bound : l.Bound channel s h) (later : h.Later h') : l.Bound channel s h' where
  channel_eq := bound.channel_eq
  sender_eq := bound.sender_eq
  slot := bound.slot
  name named := by
    rcases later.names named with old | new
    · exact bound.name old
    · exact absurd bound.known (Nat.not_lt.mpr new)
  known := Nat.lt_of_lt_of_le bound.known later.next_le

theorem Fits.later (fits : l.Fits channel h) (later : h.Later h') : l.Fits channel h' := by
  obtain ⟨s, bound⟩ := fits
  exact ⟨s, bound.later later⟩

theorem holdings_of_sender (sends : l.sender = some s) :
    l.holdings = .sender s + { l with sender := none }.holdings := by
  simp [holdings, Holdings.sender, sends]

theorem holdings_of_slot {sub : Subscription} (filled : l.slot = some sub) :
    l.holdings = .subscription sub + { l with slot := none }.holdings := by
  simp [holdings, Holdings.subscription, filled]

theorem isInitialized_of_bound (bound : l.Bound channel s h) :
    l.isInitialized h = true ↔ h.Registered channel s.channel := by
  unfold isInitialized Hub.isCurrent
  rw [bound.sender_eq, bound.channel_eq]
  simp

/-- A listener is initialized as long as its name keeps its channel, and no longer. -/
theorem isInitialized_of_grows (fits : l.Fits channel h) (grows : h.Grows h') :
    l.isInitialized h' = l.isInitialized h := by
  obtain ⟨s, bound⟩ := fits
  rw [Bool.eq_iff_iff, isInitialized_of_bound bound,
    isInitialized_of_bound (bound.later grows.toLater)]
  constructor
  · intro named
    rcases grows.names named with old | new
    · exact old
    · exact absurd bound.known (Nat.not_lt.mpr new)
  · exact grows.kept

/-! ### The calls of the provider -/

theorem halt_balanced (balanced : h.Balanced (l.holdings + rest)) :
    (l.halt h).2.Balanced ((l.halt h).1.holdings + rest) ∧ h.Grows (l.halt h).2 := by
  unfold halt
  cases filled : l.slot with
  | none =>
    refine ⟨?_, Hub.Grows.refl h⟩
    have same : { l with slot := none, task := none, begun := false }.holdings = l.holdings := by
      simp [holdings, filled]
    exact same.symm ▸ balanced
  | some sub =>
    rw [holdings_of_slot filled, add_assoc] at balanced
    exact ⟨Hub.balanced_detach balanced, Hub.grows_detach h sub⟩

theorem halt_bound (bound : l.Bound channel s h) : (l.halt h).1.Bound channel s h where
  channel_eq := bound.channel_eq
  sender_eq := bound.sender_eq
  slot filled := by cases filled
  name := bound.name
  known := bound.known

theorem drop_balanced (fits : l.Fits channel h) (balanced : h.Balanced (l.holdings + rest)) :
    (l.drop h).2.Balanced rest ∧ h.Grows (l.drop h).2 := by
  obtain ⟨s, bound⟩ := fits
  obtain ⟨halted, grows⟩ := halt_balanced balanced
  have sends := (halt_bound bound).sender_eq
  have rest_only : { (l.halt h).1 with sender := none }.holdings = 0 := rfl
  rw [holdings_of_sender sends, rest_only, add_zero] at halted
  unfold drop
  simp only [sends]
  exact ⟨Hub.balanced_release halted, grows.trans (Hub.grows_release _ s)⟩

theorem start_of_bound (bound : l.Bound channel s h) (idle : l.slot = none) :
    l.start h = (.ok (), { l with
      slot := some (h.attach s channel).1
      task := some (h.attach s channel).2.spawn.1
      begun := false }, (h.attach s channel).2.spawn.2) := by
  unfold start isRunning halt
  rw [idle, bound.sender_eq, bound.channel_eq]
  rfl

/-- What a listener holds that may not be there. -/
def held (handle : Option Listener) : Holdings :=
  handle.elim 0 holdings

/-- The hub `h` came after `h₀` without closing anything, and is balanced with the listener of
`channel`, if there is one, and what else is held. -/
structure Kept (h₀ : Hub) (channel : String) (rest : Holdings) (handle : Option Listener)
    (h : Hub) : Prop where
  balanced : h.Balanced (held handle + rest)
  fits {l' : Listener} (there : handle = some l') : l'.Fits channel h
  grows : h₀.Grows h

variable {h₀ : Hub} {destination : String}

theorem kept_acquire (kept : Kept h₀ channel rest none h) :
    Kept h₀ channel rest ((provider channel destination).acquire h).1.toOption
      ((provider channel destination).acquire h).2 := by
  have balanced := kept.balanced
  rw [held, Option.elim_none, zero_add] at balanced
  have opened := Hub.granted_openChannel balanced channel
  unfold provider
  dsimp only
  generalize h.openChannel channel = result at opened
  cases opened with
  | refused => exact kept
  | @granted s h' up balanced grows named =>
    refine ⟨balanced, ?_, kept.grows.trans grows⟩
    intro l there
    cases there
    refine ⟨s, rfl, rfl, ?_, ?_, balanced.sender_lt (by simp)⟩
    · intro sub filled
      cases filled
    · intro name named'
      exact balanced.injective named' named

theorem kept_dispose (kept : Kept h₀ channel rest (some l) h) :
    Kept h₀ channel rest none ((provider channel destination).dispose l h).2 := by
  obtain ⟨dropped, grows⟩ := drop_balanced (kept.fits rfl) kept.balanced
  refine ⟨?_, ?_, kept.grows.trans grows⟩
  · rw [held, Option.elim_none, zero_add]
    exact dropped
  · intro l there
    cases there

theorem kept_start (kept : Kept h₀ channel rest (some l) h) :
    Kept h₀ channel rest (some (l.start h).2.1) (l.start h).2.2 := by
  cases filled : l.slot with
  | some sub =>
    have running : l.start h = (.ok (), l, h) := by
      unfold start isRunning
      rw [filled]
      rfl
    rw [running]
    exact kept
  | none =>
    obtain ⟨s, bound⟩ := kept.fits rfl
    rw [start_of_bound bound filled]
    have attached := Hub.balanced_attach kept.balanced bound.known channel
    have spawned := Hub.similar_spawn (h.attach s channel).2
    have grows := (Hub.grows_attach h s channel).trans spawned.grows
    refine ⟨?_, ?_, kept.grows.trans grows⟩
    · rw [← add_assoc] at attached
      refine Hub.Balanced.similar (h := (h.attach s channel).2) ?_ spawned
      convert attached using 2
      simp [held, holdings, filled, Holdings.subscription, add_comm]
    · intro l' there
      cases there
      have later := bound.later grows.toLater
      refine ⟨s, later.channel_eq, later.sender_eq, ?_, later.name, later.known⟩
      intro sub new
      cases new
      rfl

theorem kept_stop (kept : Kept h₀ channel rest (some l) h) :
    Kept h₀ channel rest (some (l.halt h).1) (l.halt h).2 := by
  obtain ⟨halted, grows⟩ := halt_balanced kept.balanced
  refine ⟨halted, ?_, kept.grows.trans grows⟩
  intro l' there
  cases there
  obtain ⟨s, bound⟩ := kept.fits rfl
  exact ⟨s, (halt_bound bound).later grows.toLater⟩

theorem provider_preserves :
    (provider channel destination).Preserves (Kept h₀ channel rest) where
  acquire := kept_acquire
  dispose := kept_dispose
  start := kept_start
  stop := kept_stop

theorem provider_succeeds (up : h₀.isShutDown = false) :
    (provider channel destination).Succeeds (Kept h₀ channel rest) where
  acquire {h} kept := by
    have balanced := kept.balanced
    have still : h.isShutDown = false := kept.grows.shutDown.trans up
    have opened := Hub.granted_openChannel balanced channel
    unfold provider
    dsimp only
    generalize h.openChannel channel = result at opened
    cases opened with
    | refused e down =>
      rw [still] at down
      cases down
    | granted => exact ⟨_, rfl⟩
  dispose _ := rfl
  start {l h} kept := by
    cases filled : l.slot with
    | some sub => simp [provider, start, isRunning, filled]
    | none =>
      obtain ⟨s, bound⟩ := kept.fits rfl
      exact congrArg Prod.fst (start_of_bound bound filled)
  stop _ := rfl

theorem registered_of_openChannel (opened : h.openChannel channel = (.ok s, h')) :
    h'.Registered channel s.channel := by
  unfold Hub.openChannel at opened
  split at opened
  · cases opened
  · dsimp only at opened
    cases named : h.names[channel]? with
    | some n =>
      rw [named] at opened
      cases opened
      exact named
    | none =>
      rw [named] at opened
      cases opened
      exact Hub.registered_register.mpr (Or.inl ⟨rfl, rfl⟩)

theorem provider_lawful : (provider channel destination).Lawful where
  acquired {l h h'} ok := by
    simp only [provider] at ok
    split at ok
    · cases ok
    · rename_i s h'' opened
      cases ok
      have named := registered_of_openChannel opened
      exact ⟨by simp [provider, isInitialized, Hub.isCurrent, named], rfl⟩
  started {l l' h h'} ok := by
    simp only [provider, start] at ok
    split at ok
    · rename_i running
      cases ok
      exact ⟨rfl, running⟩
    · rename_i idle
      have empty : l.slot = none := by simpa [isRunning] using idle
      split at ok
      · cases ok
      · simp only [halt, empty] at ok
        cases ok
        exact ⟨rfl, rfl⟩
  stopped {l l' h h'} ok := by
    simp only [provider, halt] at ok
    cases ok
    refine ⟨?_, rfl⟩
    cases l.slot <;> rfl

/-! ### Looking into the slot -/

theorem receive_open {sub : Subscription} (isOpen : (h.channel sub.channel).isOpen = true)
    (live : sub.number ∈ (h.channel sub.channel).inboxes) : (h.receive sub).1 ≠ .closed := by
  obtain ⟨inbox, found⟩ := Option.isSome_iff_exists.mp
    (Std.ExtTreeMap.mem_iff_isSome_getElem?.mp live)
  unfold Hub.receive Channel.receive Inbox.take
  rw [found, isOpen]
  dsimp only
  split
  · exact Received.noConfusion
  · split <;> exact Received.noConfusion

theorem isOpen_of_filled {sub : Subscription} (bound : l.Bound channel s h)
    (balanced : h.Balanced (l.holdings + rest)) (filled : l.slot = some sub) :
    (h.channel sub.channel).isOpen = true := by
  rw [holdings_of_sender bound.sender_eq] at balanced
  rw [bound.slot filled]
  exact balanced.isOpen (by simp)

theorem live_of_filled {sub : Subscription} (balanced : h.Balanced (l.holdings + rest))
    (filled : l.slot = some sub) : sub.number ∈ (h.channel sub.channel).inboxes := by
  rw [holdings_of_slot filled] at balanced
  exact balanced.inboxes.mpr ⟨sub, by simp, rfl, rfl⟩

/-- The sender of a listener keeps its channel open, so its slot is never emptied by a look into
it. -/
theorem pull_keeps (fits : l.Fits channel h) (balanced : h.Balanced (l.holdings + rest)) :
    (l.pull h).2.1 = l ∧ h.Similar (l.pull h).2.2 := by
  obtain ⟨s, bound⟩ := fits
  unfold pull
  cases filled : l.slot with
  | none => exact ⟨rfl, Hub.Similar.refl h⟩
  | some sub =>
    have live := live_of_filled balanced filled
    have open_end := receive_open (isOpen_of_filled bound balanced filled) live
    have similar := Hub.similar_receive live
    dsimp only
    rcases reached : h.receive sub with ⟨got, h'⟩
    rw [reached] at open_end similar
    cases got with
    | closed => exact absurd rfl open_end
    | message m => exact ⟨rfl, similar⟩
    | lagged skipped => exact ⟨rfl, similar⟩
    | empty => exact ⟨rfl, similar⟩

end Listener

end Switchboard
