import Switchboard.Proofs.Exchange.Carried

/-!
# What a publish brings

Publishing under a name reaches the receivers of the channel registered under it. If no task of a
listener has anything to do before, then afterwards each running adapter bound to the name has
exactly this message to hand on, and nobody else has any (`due_publish`).
-/

namespace Switchboard

/-! ### One adapter -/

theorem ChannelAdapter.inbox_publish {a : ChannelAdapter} {adapters : Multiset ChannelAdapter}
    {h : Hub} {rest : Holdings} (sound : Sound h (a ::ₘ adapters) rest) (slots : 0 < h.slots)
    (empty : a.inbox h = {}) (name : String) (m : Message) :
    a.inbox (h.publish name m).2 =
      if a.channel = name ∧ a.state h = .running then { pending := [m] } else {} := by
  have fits := sound.fits (Multiset.mem_cons_self a adapters)
  cases slot : a.coordinator.held.bind Listener.slot with
  | none =>
    rw [inbox_of_free slot, if_neg fun serves => state_ne_running slot fits serves.2]
  | some sub =>
    obtain ⟨l, held, filled⟩ := Option.bind_eq_some_iff.mp slot
    obtain ⟨inbox, found⟩ := Listener.inbox?_of_filled (sound.kept_of_held held).balanced filled
    rw [inbox_of_filled held filled, found, Option.getD_some] at empty
    have pushed : inbox.push h.slots m = { pending := [m] } := by
      rw [empty]
      exact if_pos slots
    rw [inbox_of_filled held filled, Hub.inbox?_publish, found, Option.map_some, pushed, empty]
    simp only [registered_iff fits held filled]
    split <;> rfl

/-! ### All of them -/

namespace Exchange.Core

variable {ε : Type} {k : Core ε} {channels : String → Option String} {g : Guests}
  {busy : Option Nat}

/-- No task of a listener is ready, and no listener has anything left to read. -/
def Idle (k : Core ε) : Prop :=
  ∀ entry ∈ k.registry.adapters, ∀ l ∈ entry.2.coordinator.held,
    (∀ task ∈ l.task, task ∉ k.hub.ready) ∧ ∀ sub ∈ l.slot, k.hub.outstanding sub = 0

instance (k : Core ε) : Decidable k.Idle :=
  inferInstanceAs (Decidable (∀ entry ∈ k.registry.adapters, ∀ l ∈ entry.2.coordinator.held,
    (∀ task ∈ l.task, task ∉ k.hub.ready) ∧ ∀ sub ∈ l.slot, k.hub.outstanding sub = 0))

/-- Where each slot is looked after and no task is ready, nothing is left to read. -/
theorem idle_of_staffed (staffed : k.Staffed none) (nobody : k.hub.ready = []) : k.Idle := by
  rintro ⟨id, a⟩ listed l held
  have own := staffed.staffed (mem_registered.mp listed) held
  refine ⟨?_, ?_⟩
  · intro task _
    rw [nobody]
    exact List.not_mem_nil
  · intro sub filled
    obtain ⟨task, -, busy | ready | ⟨-, nothing⟩⟩ := own.attended filled
    · cases busy
    · rw [nobody] at ready
      cases ready
    · exact nothing

theorem inbox_of_idle (idle : k.Idle) {id : String} {a : ChannelAdapter}
    (there : k.adapter? id = some a) : a.inbox k.hub = {} := by
  cases slot : a.coordinator.held.bind Listener.slot with
  | none => exact ChannelAdapter.inbox_of_free slot
  | some sub =>
    obtain ⟨l, held, filled⟩ := Option.bind_eq_some_iff.mp slot
    have nothing := (idle (id, a) (mem_registered.mpr there) l held).2 sub filled
    rw [ChannelAdapter.inbox_of_filled held filled]
    cases found : k.hub.inbox? sub with
    | none => rfl
    | some inbox =>
      rw [Hub.outstanding_eq, found] at nothing
      exact Inbox.eq_empty_of_outstanding nothing

theorem due_of_idle (idle : k.Idle) (client : String) : k.due client = 0 := by
  unfold due total
  refine Multiset.sum_eq_zero ?_
  intro owed member
  obtain ⟨a, listed, rfl⟩ := Multiset.mem_map.mp member
  obtain ⟨id, there⟩ := mem_adapters.mp listed
  rw [inbox_of_idle idle there, ChannelAdapter.due_empty]

/-- A publish into an idle exchange is due once for each running adapter bound to the name that
records the client, under the name of its destination. -/
theorem due_publish (audited : k.Audited channels g) (staffed : k.Staffed busy) (idle : k.Idle)
    (name client : String) (m : Message) :
    ({ k with hub := (k.hub.publish name m).2 } : Core ε).due client =
      (k.adapters.map fun a =>
        if (a.channel = name ∧ a.state k.hub = .running) ∧ client ∈ a.coordinator.members then
          {m.sentTo a.destination} else 0).sum := by
  unfold due total
  congr 1
  refine Multiset.map_congr rfl ?_
  intro a listed
  obtain ⟨id, there⟩ := mem_adapters.mp listed
  obtain ⟨others, sound⟩ := audited.apart there
  have inbox : a.inbox (k.hub.publish name m).2 = _ :=
    ChannelAdapter.inbox_publish sound staffed.slots (inbox_of_idle idle there) name m
  rw [inbox]
  split
  · rename_i serves
    simp only [ChannelAdapter.due, serves, and_self, true_and]
    rfl
  · rename_i unserved
    rw [ChannelAdapter.due_empty, if_neg fun both => unserved both.1]

end Exchange.Core

end Switchboard
