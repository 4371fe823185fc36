import Switchboard.Proofs.Adapter
import Switchboard.Proofs.Forwarding

/-!
# Adapters side by side

A panel is a hub with any number of channel adapters, guests, and a sink that takes what the
listeners forward and may itself operate the adapters while it does. However these act on the hub,
it counts one receiver for each running adapter and one for each subscription of a guest
(`run_receiverCount`).
-/

namespace Switchboard

/-- What is done from outside to the adapter at a position, or by the guests. -/
inductive Panel.Move
  | start (adapter : Nat)
  | stop (adapter : Nat)
  | subscribe (adapter : Nat) (client : String)
  | unsubscribe (adapter : Nat) (client : String)
  | invoke (adapter : Nat) (m : Message)
  | guest (move : Guests.Move)

structure Panel (ε : Type) where
  site : Site ε
  adapters : List ChannelAdapter
  guests : Guests := {}
  /-- Takes a message of a destination and answers with moves. -/
  sink : String → Message → ε → List Panel.Move × ε

namespace Panel

variable {ε : Type}

instance : Journaled (Panel ε) where
  record e p := { p with site := Journaled.record e p.site }

def operate {β : Type} (i : Nat) (op : Attempt (ChannelAdapter × Site ε) β) (p : Panel ε) :
    Panel ε :=
  match p.adapters[i]? with
  | none => p
  | some a =>
    let (_, a, site) := op.exec (a, p.site)
    { p with site, adapters := p.adapters.set i a }

def Move.run : Move → Panel ε → Panel ε
  | start i, p => p.operate i ChannelAdapter.start
  | stop i, p => p.operate i ChannelAdapter.stop
  | subscribe i client, p => p.operate i (ChannelAdapter.subscribe client)
  | unsubscribe i client, p => p.operate i (ChannelAdapter.unsubscribe client)
  | invoke i m, p => p.operate i (ChannelAdapter.invoke m)
  | guest move, p =>
    let (hub, guests) := move.run (p.site.hub, p.guests)
    { p with site := { p.site with hub }, guests }

def listenerOf? (task : Nat) (a : ChannelAdapter) : Option Listener :=
  a.coordinator.held.filter fun l => l.task = some task

/-- The first adapter whose listener has the given task, and its position. -/
def findTask? (task : Nat) (p : Panel ε) : Option (Nat × ChannelAdapter) := do
  let i ← p.adapters.findIdx? fun a => (listenerOf? task a).isSome
  return (i, ← p.adapters[i]?)

instance : Forwards (Panel ε) where
  hub p := p.site.hub
  setHub h p := { p with site := { p.site with hub := h } }
  listener? task p := (p.findTask? task).bind fun found => listenerOf? task found.2
  setListener task l p :=
    match p.findTask? task with
    | none => p
    | some (i, a) => { p with adapters := p.adapters.set i (MessagingAdapter.setListener ε l a) }
  deliver destination m p :=
    let (moves, extra) := p.sink destination m p.site.extra
    moves.foldl (fun p move => move.run p) { p with site := { p.site with extra } }

inductive Happening
  | move (m : Move)
  | forward
  /-- A task forwards up to so many messages, whoever's turn it is. -/
  | flush (task messages : Nat)

def step (p : Panel ε) : Happening → Panel ε
  | .move m => m.run p
  | .forward => Forwarding.advance p
  | .flush task messages => Forwarding.flush task messages p

def run (happenings : List Happening) (p : Panel ε) : Panel ε :=
  happenings.foldl step p

/-- A panel on an empty hub, with an adapter for each destination and channel. -/
def fresh (capacity : Nat) (bindings : List (String × String)) (extra : ε)
    (sink : String → Message → ε → List Move × ε) : Panel ε where
  site := { hub := Hub.ofCapacity capacity, extra }
  adapters := bindings.map fun b => ChannelAdapter.ofChannel b.1 b.2
  sink := sink

/-! ### The accounts of a panel -/

/-- The hub counts what the adapters and the guests hold. -/
def Audited (p : Panel ε) : Prop :=
  Sound p.site.hub p.adapters p.guests.holdings

variable {p : Panel ε}

theorem coe_set {i : Nat} {a : ChannelAdapter} (found : p.adapters[i]? = some a)
    (b : ChannelAdapter) : ((p.adapters.set i b : List ChannelAdapter) : Multiset ChannelAdapter) =
      b ::ₘ (p.adapters.eraseIdx i : Multiset ChannelAdapter) := by
  obtain ⟨short, -⟩ := List.getElem?_eq_some_iff.mp found
  rw [Multiset.cons_coe]
  exact Multiset.coe_eq_coe.mpr (List.set_perm_cons_eraseIdx short b)

theorem Audited.apart {i : Nat} {a : ChannelAdapter} (audited : p.Audited)
    (found : p.adapters[i]? = some a) :
    Sound p.site.hub (a ::ₘ (p.adapters.eraseIdx i : Multiset ChannelAdapter))
      p.guests.holdings := by
  rw [Audited, Guests.coe_eq_cons_eraseIdx found, Multiset.singleton_add] at audited
  exact audited

theorem Audited.set {i : Nat} {a b : ChannelAdapter} {site : Site ε}
    (found : p.adapters[i]? = some a)
    (sound : Sound site.hub (b ::ₘ (p.adapters.eraseIdx i : Multiset ChannelAdapter))
      p.guests.holdings) :
    Audited { p with site, adapters := p.adapters.set i b } := by
  rw [Audited, coe_set found]
  exact sound

theorem operate_audited {x : Attempt (ChannelAdapter × Site ε) Unit} {op : Coordinator.Operation}
    (audited : p.Audited) (performs : ChannelAdapter.Performs x op) (i : Nat) :
    (p.operate i x).Audited := by
  unfold operate
  cases found : p.adapters[i]? with
  | none => exact audited
  | some a =>
    obtain ⟨sound, -⟩ := (audited.apart found).performed performs
    dsimp only
    rcases left : x.exec (a, p.site) with ⟨outcome, b, site⟩
    rw [left] at sound
    exact Audited.set found sound

theorem invoke_audited (audited : p.Audited) (i : Nat) (m : Message) :
    (p.operate i (ChannelAdapter.invoke m)).Audited := by
  unfold operate
  cases found : p.adapters[i]? with
  | none => exact audited
  | some a =>
    obtain ⟨receivers, journal, outcome⟩ := ChannelAdapter.exec_invoke m a p.site
    dsimp only
    rw [outcome]
    exact Audited.set found ((audited.apart found).similar (Hub.similar_publish _ _ _))

theorem move_audited (audited : p.Audited) (move : Move) : (move.run p).Audited := by
  cases move with
  | start i => exact operate_audited audited ChannelAdapter.start_performs i
  | stop i => exact operate_audited audited ChannelAdapter.stop_performs i
  | subscribe i client =>
    exact operate_audited audited (ChannelAdapter.subscribe_performs client) i
  | unsubscribe i client =>
    exact operate_audited audited (ChannelAdapter.unsubscribe_performs client) i
  | invoke i m => exact invoke_audited audited i m
  | guest move => exact Sound.guests audited move

theorem moves_audited (moves : List Move) :
    ∀ {p : Panel ε}, p.Audited → (moves.foldl (fun p move => move.run p) p).Audited := by
  induction moves with
  | nil =>
    intro p audited
    exact audited
  | cons move rest ih =>
    intro p audited
    exact ih (move_audited audited move)

theorem findTask_eq {task : Nat} {l : Listener} (found : Forwards.listener? task p = some l) :
    ∃ i a, p.findTask? task = some (i, a) ∧ p.adapters[i]? = some a ∧
      a.coordinator.held = some l := by
  obtain ⟨⟨i, a⟩, position, named⟩ := Option.bind_eq_some_iff.mp found
  have there := position
  simp only [findTask?, Option.bind_eq_bind, Option.bind_eq_some_iff, pure, Option.some.injEq,
    Prod.mk.injEq] at there
  obtain ⟨i, -, a, there, rfl, rfl⟩ := there
  exact ⟨i, a, position, there, (Option.filter_eq_some_iff.mp named).1⟩

theorem setListener_audited {task i : Nat} {a : ChannelAdapter} {l l' : Listener} {h : Hub}
    (audited : p.Audited) (position : p.findTask? task = some (i, a))
    (there : p.adapters[i]? = some a) (holds : a.coordinator.held = some l)
    (similar : p.site.hub.Similar h) (same : l.SameEnds l') :
    Audited (Forwards.setListener task l' (Forwards.setHub h p)) := by
  have moved : Forwards.setListener task l' (Forwards.setHub h p) = { p with
      site := { p.site with hub := h }
      adapters := p.adapters.set i (MessagingAdapter.setListener ε l' a) } := by
    have found : findTask? task (Forwards.setHub h p) = some (i, a) := position
    simp only [Forwards.setListener, found]
    rfl
  rw [moved]
  exact Audited.set there (((audited.apart there).relisten ε holds same).similar similar)

theorem audited_stable : Forwarding.Stable (Audited (ε := ε)) where
  record audited _ := audited
  hub audited similar := Sound.similar audited similar
  look {p task l} audited found := by
    obtain ⟨i, a, position, there, holds⟩ := findTask_eq found
    obtain ⟨same, similar⟩ := (audited.apart there).pull_keeps holds
    exact setListener_audited audited position there holds similar same
  mark {p task l} audited found := by
    obtain ⟨i, a, position, there, holds⟩ := findTask_eq found
    exact setListener_audited audited position there holds (Hub.Similar.refl _) ⟨rfl, rfl, rfl⟩
  deliver audited destination m := moves_audited _ audited

theorem step_audited (audited : p.Audited) (happening : Happening) :
    (p.step happening).Audited := by
  cases happening with
  | move m => exact move_audited audited m
  | forward => exact Forwarding.advance_stable audited_stable audited
  | flush task messages => exact Forwarding.flush_stable audited_stable audited task messages

theorem fresh_audited (capacity : Nat) (bindings : List (String × String)) (extra : ε)
    (sink : String → Message → ε → List Move × ε) :
    (fresh capacity bindings extra sink).Audited := by
  apply Sound.of_idle
  · intro a member
    obtain ⟨b, -, rfl⟩ := List.mem_map.mp (Multiset.mem_coe.mp member)
    rfl
  · exact Hub.balanced_ofCapacity capacity

theorem run_audited (happenings : List Happening) :
    ∀ {p : Panel ε}, p.Audited → (p.run happenings).Audited := by
  induction happenings with
  | nil =>
    intro p audited
    exact audited
  | cons happening rest ih =>
    intro p audited
    exact ih (step_audited audited happening)

theorem run_receiverCount (capacity : Nat) (bindings : List (String × String)) (extra : ε)
    (sink : String → Message → ε → List Move × ε) (happenings : List Happening) (name : String) :
    let p := (fresh capacity bindings extra sink).run happenings
    p.site.hub.receiverCount name =
      p.adapters.countP (fun a => a.channel = name ∧ a.state p.site.hub = .running) +
        (p.site.hub.names[name]?).elim 0 p.guests.receivers := by
  have audited := run_audited happenings (fresh_audited capacity bindings extra sink)
  exact audited.receiverCount_eq name

end Panel

end Switchboard
