import Switchboard.Proofs.Channel.Tasks
import Switchboard.Proofs.Exchange.Accounts

/-!
# The tasks of an exchange

Each filled slot has a task of its own, and that task looks after it, unless it is the one that has
its turn right now. Every operation keeps this (`Staffed`).
-/

namespace Switchboard

/-! ### One listener -/

namespace Listener

/-- The listener serves `destination`, and a task looks after its slot, or is `busy` with it. -/
structure Staffed (l : Listener) (destination : String) (busy : Option Nat) (h : Hub) : Prop where
  destination : l.destination = destination
  idle (free : l.slot = none) : l.task = none
  task_lt {task} (serves : l.task = some task) : task < h.nextTask
  attended {sub} (filled : l.slot = some sub) :
    ∃ task, l.task = some task ∧ (busy = some task ∨ h.Attends task sub)

variable {l l' : Listener} {h h₀ h' : Hub} {rest : Holdings} {channel destination : String}
  {busy : Option Nat} {handle₀ : Option Listener}

theorem Staffed.tended (staffed : l.Staffed destination busy h) (fits : l.Fits channel h)
    (tends : h.Tends h') : l.Staffed destination busy h' where
  destination := staffed.destination
  idle := staffed.idle
  task_lt serves := Nat.lt_of_lt_of_le (staffed.task_lt serves) tends.nextTask
  attended {sub} filled := by
    obtain ⟨s, bound⟩ := fits
    have known : sub.channel < h.nextChannel := bound.slot filled ▸ bound.known
    obtain ⟨task, serves, attends⟩ := staffed.attended filled
    exact ⟨task, serves, attends.imp_right (tends.attends known)⟩

theorem Staffed.filled (staffed : l.Staffed destination busy h) {task : Nat}
    (serves : l.task = some task) : ∃ sub, l.slot = some sub := by
  cases filled : l.slot with
  | none =>
    rw [staffed.idle filled] at serves
    cases serves
  | some sub => exact ⟨sub, rfl⟩

theorem tends_halt (l : Listener) (h : Hub) : h.Tends (l.halt h).2 := by
  unfold halt
  dsimp only
  split
  · exact .refl h
  · exact Hub.tends_detach h _

theorem tends_drop (l : Listener) (h : Hub) : h.Tends (l.drop h).2 := by
  unfold drop
  dsimp only
  split
  · exact tends_halt l h
  · exact (tends_halt l h).trans (Hub.tends_release _ _)

/-- What the provider makes of the listener `handle₀`, beside what it holds: the others are looked
after as before, and so is the listener, by its old task or by a new one. -/
structure Minds (h₀ : Hub) (channel destination : String) (rest : Holdings) (busy : Option Nat)
    (handle₀ handle : Option Listener) (h : Hub) : Prop extends Kept h₀ channel rest handle h where
  tends : h₀.Tends h
  staffed {l : Listener} (there : handle = some l) : l.Staffed destination busy h
  task {l : Listener} {task} (there : handle = some l) (serves : l.task = some task) :
    handle₀.bind Listener.task = some task ∨ h₀.nextTask ≤ task

theorem minds_acquire (minds : Minds h₀ channel destination rest busy handle₀ none h) :
    Minds h₀ channel destination rest busy handle₀
      ((provider channel destination).acquire h).1.toOption
      ((provider channel destination).acquire h).2 := by
  have kept : Kept h₀ channel rest ((provider channel destination).acquire h).1.toOption
      ((provider channel destination).acquire h).2 := kept_acquire minds.toKept
  have opened := Hub.tends_openChannel h channel
  unfold provider at kept ⊢
  dsimp only at kept ⊢
  rcases reached : h.openChannel channel with ⟨e | s, h'⟩
  all_goals
    rw [reached] at kept opened
    refine ⟨kept, minds.tends.trans opened, ?_, ?_⟩
  · rintro l ⟨⟩
  · rintro l task ⟨⟩
  · intro l there
    cases there
    exact ⟨rfl, fun _ => rfl, nofun, nofun⟩
  · intro l task there serves
    cases there
    cases serves

theorem minds_dispose (minds : Minds h₀ channel destination rest busy handle₀ (some l) h) :
    Minds h₀ channel destination rest busy handle₀ none
      ((provider channel destination).dispose l h).2 :=
  ⟨kept_dispose minds.toKept, minds.tends.trans (tends_drop l h), nofun, nofun⟩

theorem minds_start (minds : Minds h₀ channel destination rest busy handle₀ (some l) h) :
    Minds h₀ channel destination rest busy handle₀ (some (l.start h).2.1) (l.start h).2.2 := by
  have kept := kept_start minds.toKept
  cases filled : l.slot with
  | some sub =>
    have running : l.start h = (.ok (), l, h) := by
      unfold start isRunning
      rw [filled]
      rfl
    rw [running]
    exact minds
  | none =>
    obtain ⟨s, bound⟩ := minds.fits rfl
    rw [start_of_bound bound filled] at kept ⊢
    have tends := (Hub.tends_attach h s channel).trans (Hub.tends_spawn _)
    refine ⟨kept, minds.tends.trans tends, ?_, ?_⟩
    · intro l' there
      cases there
      refine ⟨(minds.staffed rfl).destination, nofun, ?_, ?_⟩
      · intro task serves
        cases serves
        exact Nat.lt_succ_self _
      · intro sub filled
        exact ⟨_, rfl, Or.inr (Or.inl (List.mem_append_right _ (List.mem_singleton.mpr rfl)))⟩
    · intro l' task there serves
      cases there
      cases serves
      exact Or.inr minds.tends.nextTask

theorem minds_stop (minds : Minds h₀ channel destination rest busy handle₀ (some l) h) :
    Minds h₀ channel destination rest busy handle₀ (some (l.halt h).1) (l.halt h).2 := by
  refine ⟨kept_stop minds.toKept, minds.tends.trans (tends_halt l h), ?_, ?_⟩
  · intro l' there
    cases there
    exact ⟨(minds.staffed rfl).destination, fun _ => rfl, nofun, nofun⟩
  · intro l' task there serves
    cases there
    cases serves

theorem provider_minds :
    (provider channel destination).Preserves (Minds h₀ channel destination rest busy handle₀) where
  acquire := minds_acquire
  dispose := minds_dispose
  start := minds_start
  stop := minds_stop

end Listener

/-! ### All of them -/

namespace Exchange.Core

variable {ε : Type}

/-- The adapters are named as they are registered, their listeners are staffed, no two of them have
the same task, and an inbox has room for a message. -/
structure Staffed (busy : Option Nat) (k : Core ε) : Prop where
  named {id a} (there : k.adapter? id = some a) : a.destination = id
  staffed {id a l} (there : k.adapter? id = some a) (held : a.coordinator.held = some l) :
    l.Staffed id busy k.hub
  apart {id id' a a' l l' task} (there : k.adapter? id = some a)
    (held : a.coordinator.held = some l) (serves : l.task = some task)
    (there' : k.adapter? id' = some a') (held' : a'.coordinator.held = some l')
    (serves' : l'.task = some task) : id = id'
  slots : 0 < k.hub.slots

variable {k : Core ε} {channels : String → Option String} {g : Guests} {id : String}
  {a b : ChannelAdapter} {h : Hub} {busy : Option Nat}

namespace Staffed

/-- One adapter and the hub change. The adapter keeps its task or has a new one. -/
theorem replace (audited : k.Audited channels g) (staffed : k.Staffed busy)
    (there : k.adapter? id = some a) (tends : k.hub.Tends h) (named : b.destination = id)
    (own : ∀ {l}, b.coordinator.held = some l → l.Staffed id busy h)
    (fresh : ∀ {l task}, b.coordinator.held = some l → l.task = some task →
      a.coordinator.held.bind Listener.task = some task ∨ k.hub.nextTask ≤ task) :
    ({ k with hub := h, registry := k.registry.setAdapter id b } : Core ε).Staffed busy := by
  have differs {other c l l' task} (found : k.adapter? other = some c)
      (held : c.coordinator.held = some l) (serves : l.task = some task)
      (held' : b.coordinator.held = some l') (serves' : l'.task = some task) : other = id := by
    rcases fresh held' serves' with old | new
    · obtain ⟨l₀, held₀, serves₀⟩ := Option.bind_eq_some_iff.mp old
      exact staffed.apart found held serves there held₀ serves₀
    · exact absurd ((staffed.staffed found held).task_lt serves) (Nat.not_lt.mpr new)
  refine ⟨?_, ?_, ?_, tends.slots.symm ▸ staffed.slots⟩
  · intro other c found
    rw [adapter?_setAdapter] at found
    split at found
    · rename_i same
      cases found
      exact named.trans same
    · exact staffed.named found
  · intro other c l found held
    rw [adapter?_setAdapter] at found
    split at found
    · rename_i same
      cases found
      exact same ▸ own held
    · exact (staffed.staffed found held).tended (audited.fits found l held) tends
  · intro first second c c' l l' task found held serves found' held' serves'
    rw [adapter?_setAdapter] at found found'
    split at found
    · rename_i same
      cases found
      split at found'
      · rename_i same'
        exact same.symm.trans same'
      · exact same.symm.trans (differs found' held' serves' held serves).symm
    · split at found'
      · rename_i same'
        cases found'
        exact (differs found held serves held' serves').trans same'
      · exact staffed.apart found held serves found' held' serves'

/-- Nobody has to be told of a change of the hub that keeps no task from what it looks after. -/
theorem tended (audited : k.Audited channels g) (staffed : k.Staffed busy) (tends : k.hub.Tends h) :
    ({ k with hub := h } : Core ε).Staffed busy where
  named := staffed.named
  staffed there held := (staffed.staffed there held).tended (audited.fits there _ held) tends
  apart := staffed.apart
  slots := tends.slots.symm ▸ staffed.slots

theorem withDelivery (staffed : k.Staffed busy) (d : Delivery) :
    ({ k with delivery := d } : Core ε).Staffed busy :=
  ⟨staffed.named, staffed.staffed, staffed.apart, staffed.slots⟩

theorem operate (audited : k.Audited channels g) (staffed : k.Staffed busy)
    (op : Coordinator.Operation) (id : String) : (k.operate op id).Staffed busy := by
  cases there : k.adapter? id with
  | none =>
    rw [operate_of_free there]
    exact staffed
  | some a =>
    obtain ⟨others, sound⟩ := audited.apart there
    have own : Listener.Minds k.hub a.channel a.destination
        ((others.map ChannelAdapter.holdings).sum + g.holdings) busy a.coordinator.held
        a.coordinator.held k.hub := by
      refine ⟨sound.kept, .refl _, ?_, ?_⟩
      · intro l held
        exact staffed.named there ▸ staffed.staffed there held
      · intro l task held serves
        exact Or.inl (Option.bind_eq_some_iff.mpr ⟨l, held, serves⟩)
    have after := Coordinator.run_preserves Listener.provider_minds op own
    have named : (a.coordinated op k.hub).1.destination = id :=
      (Coordinator.run_destination a.provider op a.coordinator k.hub).trans (staffed.named there)
    rw [operate_of_adapter there]
    refine staffed.replace audited there after.tends named ?_ after.task
    intro l held
    exact staffed.named there ▸ after.staffed held

theorem operateAll (audited : k.Audited channels g) (staffed : k.Staffed busy)
    (op : Coordinator.Operation) (ids : List String) : (k.operateAll op ids).Staffed busy := by
  refine (operateAll_induction (P := fun k => k.Audited channels g ∧ k.Staffed busy) ids ?_
    ⟨audited, staffed⟩).2
  rintro k ⟨audited, staffed⟩ id
  exact ⟨(audited.operate op id).1, staffed.operate audited op id⟩

theorem depart (audited : k.Audited channels g) (staffed : k.Staffed busy) (client : String) :
    (k.depart client).Staffed busy :=
  (staffed.withDelivery (k.delivery.disconnect client).2).operateAll (audited.withDelivery _) _ _

theorem dispatch (audited : k.Audited channels g) (staffed : k.Staffed busy) (request : Request) :
    (k.dispatch request).Staffed busy := by
  unfold Core.dispatch
  split
  · split
    · exact (staffed.withDelivery _).operate (audited.withDelivery _) _ _
    · exact staffed
  · exact (staffed.withDelivery _).operate (audited.withDelivery _) _ _
  · exact staffed.tended audited (Hub.tends_publish _ _ _)
  · exact staffed

theorem mark {l : Listener} (audited : k.Audited channels g) (staffed : k.Staffed busy)
    (there : k.adapter? id = some a) (held : a.coordinator.held = some l) :
    (k.relisten id a { l with begun := true } k.hub).Staffed busy := by
  have own := staffed.staffed there held
  have named : a.destination = id := staffed.named there
  refine staffed.replace audited there (.refl _) named ?_ ?_
  · intro l' held'
    cases held'
    exact ⟨own.destination, own.idle, own.task_lt, own.attended⟩
  · intro l' task held' serves
    cases held'
    exact Or.inl (Option.bind_eq_some_iff.mpr ⟨l, held, serves⟩)

end Staffed

end Exchange.Core

end Switchboard
