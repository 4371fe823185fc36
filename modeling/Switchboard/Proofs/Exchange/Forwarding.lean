import Switchboard.Proofs.Exchange.Aligned
import Switchboard.Proofs.Forwarding

/-!
# Forwarding through an exchange

The sink of an exchange fans messages out and unsubscribes the clients that departed. What a task
of an exchange does to the core comes down to five changes; a property that none of them breaks is
kept by every turn.
-/

namespace Switchboard.Exchange

variable {ε : Type}

namespace Core

/-- The adapter `a`, registered under `id`, has the listener `l` on the hub `h`. -/
def relisten (id : String) (a : ChannelAdapter) (l : Listener) (h : Hub) (k : Core ε) : Core ε :=
  { k with hub := h, registry := k.registry.setAdapter id (MessagingAdapter.setListener ε l a) }

/-- No part of a turn breaks `P`. -/
structure Stable (P : Core ε → Prop) : Prop where
  hub {k h} (holds : P k) (similar : k.hub.Similar h) : P { k with hub := h }
  look {k : Core ε} {id a l} (holds : P k) (there : k.adapter? id = some a)
    (held : a.coordinator.held = some l) :
    P (k.relisten id a (l.pull k.hub).2.1 (l.pull k.hub).2.2)
  mark {k : Core ε} {id a l} (holds : P k) (there : k.adapter? id = some a)
    (held : a.coordinator.held = some l) :
    P (k.relisten id a { l with begun := true } k.hub)
  tables {k d} (holds : P k) (same : k.delivery.SameTables d) : P { k with delivery := d }
  depart {k} (holds : P k) (client : String) : P (k.depart client)

theorem Stable.and {P Q : Core ε → Prop} (first : Stable P) (second : Stable Q) :
    Stable fun k => P k ∧ Q k where
  hub holds similar := ⟨first.hub holds.1 similar, second.hub holds.2 similar⟩
  look holds there held := ⟨first.look holds.1 there held, second.look holds.2 there held⟩
  mark holds there held := ⟨first.mark holds.1 there held, second.mark holds.2 there held⟩
  tables holds same := ⟨first.tables holds.1 same, second.tables holds.2 same⟩
  depart holds client := ⟨first.depart holds.1 client, second.depart holds.2 client⟩

end Core

theorem findTask?_eq {x : Exchange ChannelAdapter ε} {task : Nat} {id : String}
    {a : ChannelAdapter} {l : Listener} (found : x.findTask? task = some (id, a, l)) :
    x.core.adapter? id = some a ∧ a.coordinator.held = some l := by
  obtain ⟨⟨id', a'⟩, listed, named⟩ := List.exists_of_findSome?_eq_some found
  have there : x.core.adapter? id' = some a' := Core.mem_registered.mp listed
  dsimp only at named
  split at named
  · rename_i l' held
    split at named
    · cases named
      exact ⟨there, held⟩
    · cases named
  · cases named

/-- A task whose listener is found belongs to one adapter, which takes the listener back. -/
theorem core_setListener {x : Exchange ChannelAdapter ε} {task : Nat} {l : Listener}
    (found : Forwards.listener? task x = some l) :
    ∃ id a, x.core.adapter? id = some a ∧ a.coordinator.held = some l ∧
      ∀ l' h, (Forwards.setListener task l' (Forwards.setHub h x)).core =
        x.core.relisten id a l' h := by
  obtain ⟨⟨id, a, l'⟩, position, rfl⟩ := Option.map_eq_some_iff.mp found
  obtain ⟨there, held⟩ := findTask?_eq position
  refine ⟨id, a, there, held, ?_⟩
  intro l'' h
  have found : findTask? task (Forwards.setHub h x) = some (id, a, l') := position
  simp only [Forwards.setListener, found]
  rfl

theorem Core.Stable.deliver {P : Core ε → Prop} (stable : Core.Stable P) {k : Core ε} (holds : P k)
    (destination : String) (m : Message) : P (k.deliver destination m) :=
  deliver_induction destination m stable.tables stable.depart holds

theorem Core.Stable.forwarding {P : Core ε → Prop} (stable : Core.Stable P) :
    Forwarding.Stable fun x : Exchange ChannelAdapter ε => P x.core where
  record holds _ := holds
  hub holds similar := stable.hub holds similar
  look holds found := by
    obtain ⟨id, a, there, held, left⟩ := core_setListener found
    rw [left]
    exact stable.look holds there held
  mark {x task l} holds found := by
    obtain ⟨id, a, there, held, left⟩ := core_setListener found
    have marked := left { l with begun := true } x.site.hub
    exact marked ▸ stable.mark holds there held
  deliver {x} holds destination m := by
    have delivered : (Forwards.deliver destination m x).core = x.core.deliver destination m :=
      core_deliver destination m x
    rw [delivered]
    exact stable.deliver holds destination m

namespace Core

theorem relisten_aligned {k : Core ε} {id : String} {a : ChannelAdapter} (aligned : k.Aligned)
    (there : k.adapter? id = some a) (l : Listener) (h : Hub) :
    (k.relisten id a l h).Aligned := by
  refine aligned.congr rfl (funext fun other => ?_)
  rw [relisten, members_setAdapter]
  split
  · rename_i same
    exact same ▸ (members_of_adapter there).symm
  · rfl

theorem aligned_stable : Stable (Aligned (ε := ε)) where
  hub aligned _ := aligned.congr rfl rfl
  look aligned there _ := relisten_aligned aligned there _ _
  mark aligned there _ := relisten_aligned aligned there _ _
  tables := Aligned.tables
  depart := depart_aligned

end Core

end Switchboard.Exchange
