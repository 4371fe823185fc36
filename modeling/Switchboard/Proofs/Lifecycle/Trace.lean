import Switchboard.Proofs.Lifecycle.Operation
import Switchboard.Scripted.Resource

/-!
# Traces of resource calls

`Provider.traced` does what a provider does and records each call. Forgetting the record gives the
untraced run back (`erase_run_traced`), so `Operation.calls` are the calls that an operation makes.
An operation none of whose calls fails succeeds (`outcome_of_faultless`).
-/

namespace Switchboard

variable {ω η : Type}

structure Call where
  kind : ResourceCall
  /-- The number of the handle. Every attempt to acquire one takes the next number. -/
  handle : Nat
  initialized : Bool := false
  running : Bool := false
  failure : Option ResourceError
deriving DecidableEq, Repr

def Call.failureOf {α : Type} : Except ResourceError α → Option ResourceError
  | .ok _ => none
  | .error e => some e

/-- A handle with the number under which its calls are recorded. -/
structure Tagged (η : Type) where
  number : Nat
  handle : η

/-- A world with the calls made in it so far, oldest first. -/
structure Traced (ω : Type) where
  world : ω
  calls : List Call := []
  attempts : Nat := 0

namespace Provider

def call (p : Provider ω η) (kind : ResourceCall) (h : Tagged η) (t : Traced ω)
    (outcome : Except ResourceError Unit) : Call where
  kind := kind
  handle := h.number
  initialized := p.isInitialized h.handle t.world
  running := p.isRunning h.handle t.world
  failure := Call.failureOf outcome

/-- The same provider with a record of its calls. -/
def traced (p : Provider ω η) : Provider (Traced ω) (Tagged η) where
  acquire t :=
    let number := t.attempts + 1
    let (outcome, world) := p.acquire t.world
    let call : Call := { kind := .acquire, handle := number, failure := Call.failureOf outcome }
    (outcome.map (Tagged.mk number), { world, calls := t.calls ++ [call], attempts := number })
  dispose h t :=
    let (outcome, world) := p.dispose h.handle t.world
    (outcome, { t with world, calls := t.calls ++ [p.call .dispose h t outcome] })
  start h t :=
    let (outcome, handle, world) := p.start h.handle t.world
    (outcome, { h with handle }, { t with world, calls := t.calls ++ [p.call .start h t outcome] })
  stop h t :=
    let (outcome, handle, world) := p.stop h.handle t.world
    (outcome, { h with handle }, { t with world, calls := t.calls ++ [p.call .stop h t outcome] })
  isInitialized h t := p.isInitialized h.handle t.world
  isRunning h t := p.isRunning h.handle t.world

end Provider

namespace Coordinator

def untag (c : Coordinator (Tagged η)) : Coordinator η where
  destination := c.destination
  members := c.members
  held := c.held.map Tagged.handle

/-- The coordinator with the number 0 for the handle it holds. -/
def tag (c : Coordinator η) : Coordinator (Tagged η) where
  destination := c.destination
  members := c.members
  held := c.held.map (Tagged.mk 0)

theorem untag_tag (c : Coordinator η) : c.tag.untag = c := by
  obtain ⟨destination, members, held⟩ := c
  cases held <;> rfl

/-- What is left of a traced outcome without the record. -/
def erase {α : Type} (r : α × Coordinator (Tagged η) × Traced ω) : α × Coordinator η × ω :=
  (r.1, r.2.1.untag, r.2.2.world)

/-! ### A traced run without its record -/

variable (p : Provider ω η) (c : Coordinator (Tagged η)) (t : Traced ω)

def eraseHandle (r : Except LifecycleError (Tagged η) × Coordinator (Tagged η) × Traced ω) :
    Except LifecycleError η × Coordinator η × ω :=
  (r.1.map Tagged.handle, r.2.1.untag, r.2.2.world)

theorem erase_replace_traced :
    eraseHandle (c.replace p.traced t) = c.untag.replace p t.world := by
  rcases acquired : p.acquire t.world with ⟨_ | h, w⟩
  all_goals simp [replace, Provider.traced, acquired, eraseHandle, untag, Except.map]

theorem erase_ensure_traced :
    eraseHandle (c.ensure p.traced t) = c.untag.ensure p t.world := by
  obtain ⟨destination, members, held⟩ := c
  cases held with
  | none => exact erase_replace_traced p ⟨destination, members, none⟩ t
  | some h =>
    unfold ensure
    dsimp only [untag, Option.map_some]
    have same : p.traced.isInitialized h t = p.isInitialized h.handle t.world := rfl
    rw [same]
    split
    · rfl
    · rcases disposed : p.dispose h.handle t.world with ⟨_ | _, w⟩
      · simp [Provider.traced, disposed, eraseHandle, untag, failure, Except.map]
      · simp only [Provider.traced, disposed]
        exact erase_replace_traced p _ _

theorem erase_run_traced_handle (h : Tagged η) :
    erase (c.run p.traced h t) = c.untag.run p h.handle t.world := by
  unfold run
  have same : p.traced.isRunning h t = p.isRunning h.handle t.world := rfl
  rw [same]
  split
  · rfl
  · rcases started : p.start h.handle t.world with ⟨_ | _, g, w⟩
    all_goals simp [Provider.traced, started, erase, untag, failure]

theorem erase_halt_traced : erase (c.halt p.traced t) = c.untag.halt p t.world := by
  obtain ⟨destination, members, held⟩ := c
  cases held with
  | none => rfl
  | some h =>
    unfold halt
    dsimp only [untag, Option.map_some]
    have same : p.traced.isRunning h t = p.isRunning h.handle t.world := rfl
    rw [same]
    split
    · rcases stopped : p.stop h.handle t.world with ⟨_ | _, g, w⟩
      all_goals simp [Provider.traced, stopped, erase, untag, failure]
    · rfl

theorem erase_subscribe_traced (id : String) :
    erase (c.subscribe p.traced id t) = c.untag.subscribe p id t.world := by
  simp only [subscribe]
  have joined : ({ c with members := c.members.insert id } : Coordinator _).untag =
      { c.untag with members := c.untag.members.insert id } := rfl
  have ensured := erase_ensure_traced p { c with members := c.members.insert id } t
  rw [joined] at ensured
  have same : c.untag.members = c.members := rfl
  rw [← ensured, same]
  split
  · rcases ({ c with members := c.members.insert id } : Coordinator _).ensure p.traced t with
      ⟨_ | h, d, v⟩
    · rfl
    · exact erase_run_traced_handle p d v h
  · rfl

theorem erase_unsubscribe_traced (id : String) :
    erase (c.unsubscribe p.traced id t) = c.untag.unsubscribe p id t.world := by
  have same : c.untag.members = c.members := rfl
  simp only [unsubscribe, same]
  split
  · split
    · exact erase_halt_traced p _ t
    · rfl
  · rfl

theorem erase_start_traced : erase (c.start p.traced t) = c.untag.start p t.world := by
  simp only [start, ← erase_ensure_traced]
  rcases c.ensure p.traced t with ⟨_ | h, d, v⟩ <;> rfl

theorem erase_stop_traced : erase (c.stop p.traced t) = c.untag.stop p t.world := by
  obtain ⟨destination, members, held⟩ := c
  cases held with
  | none => rfl
  | some h =>
    unfold stop
    dsimp only [untag, Option.map_some]
    have same : p.traced.isRunning h t = p.isRunning h.handle t.world := rfl
    rw [same]
    cases p.isRunning h.handle t.world
    · rcases disposed : p.dispose h.handle t.world with ⟨_ | _, w⟩
      all_goals simp [Provider.traced, disposed, erase, untag, failure]
    · rcases stopped : p.stop h.handle t.world with ⟨_ | _, g, w⟩
      all_goals
        rcases disposed : p.dispose g w with ⟨_ | _, v⟩
        all_goals simp [Provider.traced, stopped, disposed, erase, untag, failure]

theorem erase_run_traced (op : Operation) :
    erase (op.run p.traced c t) = op.run p c.untag t.world := by
  cases op with
  | subscribe id => exact erase_subscribe_traced p c t id
  | unsubscribe id => exact erase_unsubscribe_traced p c t id
  | start => exact erase_start_traced p c t
  | stop => exact erase_stop_traced p c t

/-! ### Failed calls -/

def Traced.Failed (t : Traced ω) : Prop :=
  ∃ call ∈ t.calls, call.failure ≠ none

theorem Traced.failed_of_recorded {w : ω} {earlier later : List Call} {call : Call} {n : Nat}
    {e : ResourceError} (failed : call.failure = some e) :
    Traced.Failed { world := w, calls := earlier ++ call :: later, attempts := n } :=
  ⟨call, List.mem_append_right earlier List.mem_cons_self, failed ▸ Option.some_ne_none e⟩

section Failed

variable {p c t}

theorem failed_of_replace {e : LifecycleError} {d : Coordinator (Tagged η)} {u : Traced ω}
    (reached : c.replace p.traced t = (.error e, d, u)) : Traced.Failed u := by
  unfold replace at reached
  rcases acquired : p.acquire t.world with ⟨f | h, w⟩
  all_goals simp only [Provider.traced, acquired, Except.map] at reached
  · cases reached
    exact Traced.failed_of_recorded rfl
  · cases reached

theorem failed_of_ensure {e : LifecycleError} {d : Coordinator (Tagged η)} {u : Traced ω}
    (reached : c.ensure p.traced t = (.error e, d, u)) : Traced.Failed u := by
  unfold ensure at reached
  split at reached
  · exact failed_of_replace reached
  · rename_i h held
    split at reached
    · cases reached
    · rcases disposed : p.dispose h.handle t.world with ⟨f | _, w⟩
      all_goals simp only [Provider.traced, disposed] at reached
      · cases reached
        exact Traced.failed_of_recorded rfl
      · exact failed_of_replace reached

theorem failed_of_run {e : LifecycleError} {h : Tagged η} {d : Coordinator (Tagged η)}
    {u : Traced ω} (reached : c.run p.traced h t = (.error e, d, u)) : Traced.Failed u := by
  unfold run at reached
  split at reached
  · cases reached
  · rcases started : p.start h.handle t.world with ⟨f | _, g, w⟩
    all_goals simp only [Provider.traced, started] at reached
    · cases reached
      exact Traced.failed_of_recorded rfl
    · cases reached

theorem failed_of_halt {e : LifecycleError} {d : Coordinator (Tagged η)} {u : Traced ω}
    (reached : c.halt p.traced t = (.error e, d, u)) : Traced.Failed u := by
  unfold halt at reached
  split at reached
  · cases reached
  · rename_i h held
    split at reached
    · rcases stopped : p.stop h.handle t.world with ⟨f | _, g, w⟩
      all_goals simp only [Provider.traced, stopped] at reached
      · cases reached
        exact Traced.failed_of_recorded rfl
      · cases reached
    · cases reached

theorem failed_of_stop {e : LifecycleError} {d : Coordinator (Tagged η)} {u : Traced ω}
    (reached : c.stop p.traced t = (.error e, d, u)) : Traced.Failed u := by
  unfold stop at reached
  split at reached
  · cases reached
  · rename_i h held
    cases running : p.isRunning h.handle t.world
    · rcases disposed : p.dispose h.handle t.world with ⟨f | _, v⟩
      all_goals
        simp only [Provider.traced, running, disposed, Bool.false_eq_true, if_false] at reached
        cases reached
      exact Traced.failed_of_recorded rfl
    · rcases stopped : p.stop h.handle t.world with ⟨f | _, g, w⟩
      -- Disposal comes after a failed halt, whose record stays in the middle.
      · rcases disposed : p.dispose g w with ⟨f' | _, v⟩
        all_goals
          simp only [Provider.traced, running, stopped, disposed, if_true] at reached
          cases reached
          rw [List.append_assoc]
          exact Traced.failed_of_recorded rfl
      · rcases disposed : p.dispose g w with ⟨f' | _, v⟩
        all_goals
          simp only [Provider.traced, running, stopped, disposed, if_true] at reached
          cases reached
        exact Traced.failed_of_recorded rfl

theorem failed_of_error {op : Operation} {e : LifecycleError} {d : Coordinator (Tagged η)}
    {u : Traced ω} (reached : op.run p.traced c t = (.error e, d, u)) : Traced.Failed u := by
  cases op with
  | subscribe id =>
    simp only [Operation.run, subscribe] at reached
    split at reached
    · split at reached
      · exact failed_of_run reached
      · rename_i ensured
        cases reached
        exact failed_of_ensure ensured
    · cases reached
  | unsubscribe id =>
    simp only [Operation.run, unsubscribe] at reached
    split at reached
    · split at reached
      · exact failed_of_halt reached
      · cases reached
    · cases reached
  | start =>
    simp only [Operation.run, start] at reached
    split at reached
    · cases reached
    · rename_i ensured
      cases reached
      exact failed_of_ensure ensured
  | stop => exact failed_of_stop reached

end Failed

namespace Operation

/-- The calls that an operation makes, oldest first. -/
def calls (p : Provider ω η) (op : Operation) (c : Coordinator η) (w : ω) : List Call :=
  (op.run p.traced c.tag { world := w }).2.2.calls

def Faultless (p : Provider ω η) (op : Operation) (c : Coordinator η) (w : ω) : Prop :=
  ∀ call ∈ op.calls p c w, call.failure = none

instance (p : Provider ω η) (op : Operation) (c : Coordinator η) (w : ω) :
    Decidable (op.Faultless p c w) :=
  inferInstanceAs (Decidable (∀ call ∈ op.calls p c w, call.failure = none))

theorem outcome_of_faultless {p : Provider ω η} {op : Operation} {c : Coordinator η} {w : ω}
    (faultless : op.Faultless p c w) : (op.run p c w).1 = .ok () := by
  have erased := erase_run_traced p c.tag { world := w } op
  rw [untag_tag] at erased
  rcases reached : op.run p.traced c.tag { world := w } with ⟨e | _, d, u⟩
  · obtain ⟨call, member, failed⟩ := failed_of_error reached
    have recorded : call ∈ op.calls p c w := by
      rw [calls, reached]
      exact member
    exact absurd (faultless call recorded) failed
  · rw [← erased, reached]
    rfl

end Operation

end Coordinator

end Switchboard
