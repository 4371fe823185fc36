import Switchboard.Forwarding
import Switchboard.Proofs.Channel.Holdings

/-!
# What forwarding keeps

A task does five things: it looks into its slot, hands a message to the sink, marks that it has
run, logs, and touches the tasks of the hub. A property that none of these breaks is kept by every
turn, however many messages it forwards.
-/

namespace Switchboard.Forwarding

variable {σ : Type} [Forwards σ]

def advance (s : σ) : σ :=
  (step? s).getD s

/-- Forwards up to `n` messages of `task`, whether or not it is its turn. -/
def flush (task n : Nat) (s : σ) : σ :=
  match Forwards.listener? task s with
  | none => s
  | some l => (drain task l.destination n s).2

theorem advance_of_idle {s : σ} (nobody : (Forwards.hub s).ready = []) : advance s = s := by
  unfold advance step? Hub.nextReady?
  rw [nobody]
  rfl

theorem advance_of_stray {s : σ} {task : Nat} {rest : List Nat}
    (ready : (Forwards.hub s).ready = task :: rest)
    (missed : Forwards.listener? task
      (Forwards.setHub { Forwards.hub s with ready := rest } s) = none) :
    advance s = Forwards.setHub { Forwards.hub s with ready := rest } s := by
  unfold advance step? Hub.nextReady?
  rw [ready]
  dsimp only
  rw [missed]
  rfl

theorem advance_of_ready {s : σ} {task : Nat} {rest : List Nat} {l : Listener}
    (ready : (Forwards.hub s).ready = task :: rest)
    (found : Forwards.listener? task
      (Forwards.setHub { Forwards.hub s with ready := rest } s) = some l) :
    advance s = turn task l (Forwards.setHub { Forwards.hub s with ready := rest } s) := by
  unfold advance step? Hub.nextReady?
  rw [ready]
  dsimp only
  rw [found]
  rfl

/-- No part of a turn breaks `P`. -/
structure Stable (P : σ → Prop) : Prop where
  record {s} (holds : P s) (e : Event) : P (Journaled.record e s)
  /-- The hub may change in messages and tasks alone. -/
  hub {s h} (holds : P s) (similar : (Forwards.hub s).Similar h) : P (Forwards.setHub h s)
  look {s task l} (holds : P s) (found : Forwards.listener? task s = some l) :
    P (Forwards.setListener task (l.pull (Forwards.hub s)).2.1
      (Forwards.setHub (l.pull (Forwards.hub s)).2.2 s))
  mark {s task l} (holds : P s) (found : Forwards.listener? task s = some l) :
    P (Forwards.setListener task { l with begun := true } s)
  deliver {s} (holds : P s) (destination : String) (m : Message) :
    P (Forwards.deliver destination m s)

/-- What tasks that set out from `s` may come by. -/
inductive Passes (s : σ) : σ → Prop
  | refl : Passes s s
  | record {t} (passes : Passes s t) (e : Event) : Passes s (Journaled.record e t)
  | hub {t h} (passes : Passes s t) (similar : (Forwards.hub t).Similar h) :
    Passes s (Forwards.setHub h t)
  | look {t task l} (passes : Passes s t) (found : Forwards.listener? task t = some l) :
    Passes s (Forwards.setListener task (l.pull (Forwards.hub t)).2.1
      (Forwards.setHub (l.pull (Forwards.hub t)).2.2 t))
  | mark {t task l} (passes : Passes s t) (found : Forwards.listener? task t = some l) :
    Passes s (Forwards.setListener task { l with begun := true } t)
  | deliver {t} (passes : Passes s t) (destination : String) (m : Message) :
    Passes s (Forwards.deliver destination m t)

variable {P : σ → Prop} {s : σ}

theorem Passes.keeps (stable : Stable P) (holds : P s) {t : σ} (passes : Passes s t) : P t := by
  induction passes with
  | refl => exact holds
  | record _ e ih => exact stable.record ih e
  | hub _ similar ih => exact stable.hub ih similar
  | look _ found ih => exact stable.look ih found
  | mark _ found ih => exact stable.mark ih found
  | deliver _ destination m ih => exact stable.deliver ih destination m

theorem passes_stable (s : σ) : Stable (Passes s) where
  record := .record
  hub := .hub
  look := .look
  mark := .mark
  deliver := .deliver

theorem pull_stable (stable : Stable P) (holds : P s) (task : Nat) : P (pull task s).2 := by
  unfold pull
  cases found : Forwards.listener? task s with
  | none => exact holds
  | some l => exact stable.look holds found

theorem drain_stable (stable : Stable P) (task : Nat) (destination : String) (n : Nat) :
    ∀ {s : σ}, P s → P (drain task destination n s).2 := by
  induction n with
  | zero =>
    intro s holds
    exact holds
  | succ n ih =>
    intro s holds
    have looked := pull_stable stable holds task
    unfold drain
    rcases reached : pull task s with ⟨got, s'⟩
    rw [reached] at looked
    cases got with
    | message m => exact ih (stable.deliver looked destination m)
    | lagged skipped => exact ih (stable.record looked _)
    | empty => exact looked
    | closed => exact stable.record looked _
    | detached => exact looked

theorem begin_stable (stable : Stable P) (holds : P s) {task : Nat} {l : Listener}
    (found : Forwards.listener? task s = some l) : P (begin task l s) := by
  unfold begin
  split
  · exact holds
  · exact stable.record (stable.mark holds found) _

theorem turn_stable (stable : Stable P) (holds : P s) {task : Nat} {l : Listener}
    (found : Forwards.listener? task s = some l) : P (turn task l s) := by
  have drained := drain_stable stable task l.destination batchSize (begin_stable stable holds found)
  unfold turn
  rcases reached : drain task l.destination batchSize (begin task l s) with ⟨outcome, s'⟩
  rw [reached] at drained
  cases outcome with
  | detached => exact stable.record drained _
  | more => exact stable.hub drained (Hub.similar_ready _ _)
  | empty =>
    dsimp only
    cases l.slot with
    | none => exact drained
    | some sub => exact stable.hub drained (Hub.similar_wait _ task sub.channel)

theorem step_stable (stable : Stable P) (holds : P s) {s' : σ} (stepped : step? s = some s') :
    P s' := by
  unfold step? at stepped
  unfold Hub.nextReady? at stepped
  split at stepped
  · cases stepped
  · rename_i task h next
    split at next
    · cases next
    · rename_i rest ready
      cases next
      have turned := stable.hub holds (Hub.similar_ready (Forwards.hub s) rest)
      dsimp only at stepped
      split at stepped
      · cases stepped
        exact turned
      · rename_i l found
        cases stepped
        exact turn_stable stable turned found

theorem advance_stable (stable : Stable P) (holds : P s) : P (advance s) := by
  unfold advance
  cases stepped : step? s with
  | none => exact holds
  | some s' => exact step_stable stable holds stepped

/-- A turn ends where it comes by. -/
theorem advance_passes (s : σ) : Passes s (advance s) :=
  advance_stable (passes_stable s) .refl

theorem flush_stable (stable : Stable P) (holds : P s) (task n : Nat) : P (flush task n s) := by
  unfold flush
  split
  · exact holds
  · exact drain_stable stable task _ n holds

/-! ### Batch after batch -/

/-- Up to `k` batches of `task`, as long as each is used up. -/
def batches (task : Nat) (destination : String) : Nat → σ → Drained × σ
  | 0, s => (.more, s)
  | k + 1, s =>
    match drain task destination batchSize s with
    | (.more, s) => batches task destination k s
    | ended => ended

theorem drain_add (task : Nat) (destination : String) (m n : Nat) : ∀ s : σ,
    drain task destination (m + n) s = match drain task destination m s with
      | (.more, s) => drain task destination n s
      | ended => ended := by
  induction m with
  | zero =>
    intro s
    rw [Nat.zero_add]
    rfl
  | succ m ih =>
    intro s
    rw [Nat.succ_add, drain, drain]
    rcases pull task s with ⟨got, s'⟩
    cases got with
    | message x => exact ih _
    | lagged skipped => exact ih _
    | empty | closed | detached => rfl

theorem batches_eq_drain (task : Nat) (destination : String) (k : Nat) : ∀ s : σ,
    batches task destination k s = drain task destination (batchSize * k) s := by
  induction k with
  | zero => exact fun s => rfl
  | succ k ih =>
    intro s
    rw [batches, Nat.mul_succ, Nat.add_comm, drain_add]
    rcases drain task destination batchSize s with ⟨outcome, s'⟩
    cases outcome with
    | more => exact ih s'
    | empty | detached => rfl

end Switchboard.Forwarding
