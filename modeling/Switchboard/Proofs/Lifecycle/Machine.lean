import Switchboard.Proofs.Lifecycle.Trace

/-!
# The three states of a listener

While no resource call fails, a coordinator is a machine of three states over its set of
subscribers, whatever its listener does by itself between two operations (`run_follows_machine`).
The coordinator's own state is larger: a handle or none, two flags of the handle, and the set.
-/

namespace Switchboard

variable {ω η : Type}

/-- What a provider promises of the calls that succeed. -/
structure Provider.Lawful (p : Provider ω η) : Prop where
  acquired {h w w'} (ok : p.acquire w = (.ok h, w')) :
    p.isInitialized h w' = true ∧ p.isRunning h w' = false
  started {h h' w w'} (ok : p.start h w = (.ok (), h', w')) :
    p.isInitialized h' w' = p.isInitialized h w ∧ p.isRunning h' w' = true
  stopped {h h' w w'} (ok : p.stop h w = (.ok (), h', w')) :
    p.isInitialized h' w' = p.isInitialized h w ∧ p.isRunning h' w' = false

namespace Coordinator

/-- What happens to a coordinator: an operation, or a change of its world between operations. -/
inductive Happening
  | operation (op : Operation)
  | invalidated
  | crashed
  /-- The world changes, but not for the held handle. -/
  | elapsed
deriving DecidableEq, Repr

/-- A coordinator in its world before and after a happening, where no resource call fails. -/
inductive Step (p : Provider ω η) : Coordinator η × ω → Happening → Coordinator η × ω → Prop
  | operation {c w} (op : Operation) (faultless : op.Faultless p c w) :
      Step p (c, w) (.operation op) (op.run p c w).2
  | invalidated {c w v} (uninitialized : ∀ h, c.held = some h → p.isInitialized h v = false) :
      Step p (c, w) .invalidated (c, v)
  | crashed {c w v} (ceased : ∀ h, c.held = some h →
        p.isInitialized h v = p.isInitialized h w ∧ p.isRunning h v = false) :
      Step p (c, w) .crashed (c, v)
  | elapsed {c w v} (unchanged : ∀ h, c.held = some h →
        p.isInitialized h v = p.isInitialized h w ∧ p.isRunning h v = p.isRunning h w) :
      Step p (c, w) .elapsed (c, v)

inductive Run (p : Provider ω η) : Coordinator η × ω → List Happening → Coordinator η × ω → Prop
  | nil (s) : Run p s [] s
  | cons {s s' s'' happening rest} (step : Step p s happening s') (run : Run p s' rest s'') :
      Run p s (happening :: rest) s''

structure Machine where
  state : ListenerState := .uninitialized
  members : Std.ExtTreeSet String := ∅

namespace Machine

/-- The machine runs once somebody subscribes to the empty set, and stops when the last one
leaves. Everything else that could move it is named here. -/
def next (s : Machine) : Happening → Machine
  | .operation (.subscribe id) =>
    { state := if s.members.isEmpty then .running else s.state, members := s.members.insert id }
  | .operation (.unsubscribe id) =>
    let left := s.members.erase id
    { state := if s.members.contains id ∧ left.isEmpty ∧ s.state = .running then .stopped
        else s.state,
      members := left }
  | .operation .start =>
    { s with state := if s.state = .uninitialized then .stopped else s.state }
  | .operation .stop | .invalidated => { s with state := .uninitialized }
  | .crashed => { s with state := if s.state = .running then .stopped else s.state }
  | .elapsed => s

def run (s : Machine) (happenings : List Happening) : Machine :=
  happenings.foldl next s

end Machine

def observed (p : Provider ω η) (s : Coordinator η × ω) : Machine where
  state := s.1.state p s.2
  members := s.1.members

/-! ### The state after the parts of an operation -/

section State

variable {p : Provider ω η} {c d : Coordinator η} {w w' : ω} {h : η}

theorem state_of_held (held : c.held = some h) : c.state p w =
    if p.isInitialized h w then (if p.isRunning h w then .running else .stopped)
    else .uninitialized := by
  unfold state Provider.stateOf
  rw [held]
  cases initialized : p.isInitialized h w <;> simp [initialized]

theorem state_of_free (free : c.held = none) : c.state p w = .uninitialized := by
  unfold state Provider.stateOf
  rw [free]

theorem state_congr (unchanged : ∀ h, c.held = some h →
    p.isInitialized h w' = p.isInitialized h w ∧ p.isRunning h w' = p.isRunning h w) :
    c.state p w' = c.state p w := by
  cases held : c.held with
  | none => rw [state_of_free held, state_of_free held]
  | some h =>
    obtain ⟨initialized, running⟩ := unchanged h held
    rw [state_of_held held, state_of_held held, initialized, running]

theorem state_of_replace (lawful : p.Lawful) (reached : c.replace p w = (.ok h, d, w')) :
    p.isInitialized h w' = true ∧ d.state p w' = .stopped := by
  have held := held_of_replace reached
  unfold replace at reached
  split at reached
  · rename_i acquired
    cases reached
    obtain ⟨initialized, idle⟩ := lawful.acquired acquired
    exact ⟨initialized, by simp [state_of_held held, initialized, idle]⟩
  · cases reached

/-- `ensure` moves the uninitialized state alone. -/
theorem state_of_ensure (lawful : p.Lawful) (reached : c.ensure p w = (.ok h, d, w')) :
    p.isInitialized h w' = true ∧
      d.state p w' = if c.state p w = .uninitialized then .stopped else c.state p w := by
  unfold ensure at reached
  split at reached
  · rename_i free
    rw [state_of_free free]
    exact state_of_replace lawful reached
  · rename_i g held
    split at reached
    · rename_i initialized
      cases reached
      refine ⟨initialized, ?_⟩
      rw [state_of_held held, initialized]
      cases p.isRunning h w <;> rfl
    · rename_i stale
      have uninitialized : c.state p w = .uninitialized := by simp [state_of_held held, stale]
      rw [uninitialized]
      split at reached
      · exact state_of_replace lawful reached
      · cases reached

theorem state_of_run (held : c.held = some h) (initialized : p.isInitialized h w = true)
    (started : ∀ {g v}, p.start h w = (.ok (), g, v) →
      p.isInitialized g v = true ∧ p.isRunning g v = true)
    (reached : c.run p h w = (.ok (), d, w')) : d.state p w' = .running := by
  unfold run at reached
  split at reached
  · rename_i running
    cases reached
    simp [state_of_held held, initialized, running]
  · split at reached
    · rename_i g v ok
      cases reached
      obtain ⟨initialized', running⟩ := started ok
      simp [state_of_held (c := { c with held := some g }) rfl, initialized', running]
    · cases reached

/-- `halt` moves the running state alone. -/
theorem state_of_halt (lawful : p.Lawful) (reached : c.halt p w = (.ok (), d, w')) :
    d.state p w' = if c.state p w = .running then .stopped else c.state p w := by
  unfold halt at reached
  split at reached
  · rename_i free
    cases reached
    rw [state_of_free free]
    rfl
  · rename_i g held
    rw [state_of_held held]
    split at reached
    · rename_i running
      split at reached
      · rename_i g' v stopped
        cases reached
        obtain ⟨same, idle⟩ := lawful.stopped stopped
        rw [state_of_held (c := { c with held := some g' }) rfl, same, idle, running]
        cases p.isInitialized g w <;> rfl
      · cases reached
    · rename_i idle
      cases reached
      rw [state_of_held held]
      cases p.isInitialized g w <;> simp [idle]

end State

/-! ### One happening, and all of them -/

section Run

variable {p : Provider ω η} {c d : Coordinator η} {w w' : ω}

theorem subscribe_follows (lawful : p.Lawful) {id : String}
    (reached : c.subscribe p id w = (.ok (), d, w')) :
    d.state p w' = if c.members.isEmpty then .running else c.state p w := by
  unfold subscribe at reached
  dsimp only at reached
  split at reached
  · rename_i first
    rw [if_pos first]
    split at reached
    · rename_i h e v ensured
      have initialized := (state_of_ensure lawful ensured).1
      refine state_of_run (held_of_ensure ensured) initialized ?_ reached
      intro g u ok
      obtain ⟨same, running⟩ := lawful.started ok
      exact ⟨same.trans initialized, running⟩
    · cases reached
  · rename_i others
    cases reached
    rw [if_neg others]
    rfl

theorem unsubscribe_follows (lawful : p.Lawful) {id : String}
    (reached : c.unsubscribe p id w = (.ok (), d, w')) :
    d.state p w' =
      if c.members.contains id ∧ (c.members.erase id).isEmpty ∧ c.state p w = .running
      then .stopped else c.state p w := by
  unfold unsubscribe at reached
  split at reached
  · rename_i member
    dsimp only at reached
    split at reached
    · rename_i last
      have halted := state_of_halt lawful reached
      have same : ({ c with members := c.members.erase id } : Coordinator η).state p w =
        c.state p w := rfl
      rw [same] at halted
      simpa only [member, last, true_and] using halted
    · rename_i others
      cases reached
      rw [if_neg (fun all => others all.2.1)]
      rfl
  · rename_i stranger
    cases reached
    rw [if_neg (fun all => stranger all.1)]

theorem start_follows (lawful : p.Lawful) (reached : c.start p w = (.ok (), d, w')) :
    d.state p w' = if c.state p w = .uninitialized then .stopped else c.state p w := by
  unfold start at reached
  split at reached
  · rename_i ensured
    cases reached
    exact (state_of_ensure lawful ensured).2
  · cases reached

theorem held_of_stop (p : Provider ω η) (c : Coordinator η) (w : ω) :
    (c.stop p w).2.1.held = none := by
  unfold stop
  split
  · assumption
  · dsimp only
    split <;> rfl

/-- An operation that succeeds moves the coordinator as it moves the machine. -/
theorem operation_follows (lawful : p.Lawful) {op : Operation}
    (reached : op.run p c w = (.ok (), d, w')) :
    observed p (d, w') = (observed p (c, w)).next (.operation op) := by
  have members : d.members = op.members c.members := by
    simpa only [reached] using run_members p op c w
  cases op with
  | subscribe id =>
    have moved := subscribe_follows lawful reached
    rw [observed, moved, members]
    rfl
  | unsubscribe id =>
    have moved := unsubscribe_follows lawful reached
    rw [observed, moved, members]
    rfl
  | start =>
    have moved := start_follows lawful reached
    rw [observed, moved, members]
    rfl
  | stop =>
    have free := held_of_stop p c w
    have stopped : c.stop p w = (.ok (), d, w') := reached
    rw [stopped] at free
    rw [observed, state_of_free free, members]
    rfl

theorem step_follows (lawful : p.Lawful) {s s' : Coordinator η × ω} {happening : Happening}
    (step : Step p s happening s') : observed p s' = (observed p s).next happening := by
  cases step with
  | @operation c w op faultless =>
    have outcome := Operation.outcome_of_faultless faultless
    exact operation_follows lawful (Prod.ext outcome rfl)
  | @invalidated c w v uninitialized =>
    have state : c.state p v = .uninitialized := by
      cases held : c.held with
      | none => exact state_of_free held
      | some h => simp [state_of_held held, uninitialized h held]
    rw [observed, state]
    rfl
  | @crashed c w v ceased =>
    have state : c.state p v =
        if c.state p w = .running then .stopped else c.state p w := by
      cases held : c.held with
      | none => simp [state_of_free held]
      | some h =>
        obtain ⟨same, idle⟩ := ceased h held
        simp only [state_of_held held, same, idle]
        cases p.isInitialized h w <;> cases p.isRunning h w <;> rfl
    rw [observed, state]
    rfl
  | @elapsed c w v unchanged =>
    rw [observed, state_congr unchanged]
    rfl

theorem run_follows (lawful : p.Lawful) {s s' : Coordinator η × ω} {happenings : List Happening}
    (run : Run p s happenings s') : observed p s' = (observed p s).run happenings := by
  induction run with
  | nil => rfl
  | cons step _ ih =>
    rw [ih, step_follows lawful step]
    rfl

/-- Over every run without a failed call, a coordinator that starts with nobody subscribed and
nothing held shows the state and the subscribers of the machine. -/
theorem run_follows_machine (lawful : p.Lawful) {destination : String} {s : Coordinator η × ω}
    {happenings : List Happening} (run : Run p ({ destination }, w) happenings s) :
    observed p s = Machine.run {} happenings :=
  run_follows lawful run

end Run

end Coordinator

/-! ### A listener replaced after it became stale -/

namespace Script

theorem perform_flags (s : Script) (call : ResourceCall) (n : Nat) :
    (s.perform call n).2.invalidated = s.invalidated := by
  simp only [perform]
  split <;> rfl

theorem switch_ok {s s' : Script} {call : ResourceCall} {running : Bool} {n n' : Nat}
    (ok : s.switch call running n = (.ok (), n', s')) :
    s'.invalidated = s.invalidated ∧ s'.running = running := by
  have flags := perform_flags s call n
  simp only [switch] at ok
  split at ok <;> cases ok
  rename_i performed
  rw [performed] at flags
  exact ⟨flags, rfl⟩

theorem provider_lawful : provider.Lawful where
  acquired ok := by
    simp only [provider, acquire] at ok
    split at ok <;> cases ok
    exact ⟨rfl, rfl⟩
  started ok := by
    obtain ⟨same, running⟩ := switch_ok ok
    exact ⟨congrArg not same, running⟩
  stopped ok := by
    obtain ⟨same, idle⟩ := switch_ok ok
    exact ⟨congrArg not same, idle⟩

end Script

namespace Coordinator

theorem run_follows_machine_after_invalidation :
    ∃ s : Coordinator Nat × Script, Run Script.provider ({ destination := "quotes" }, {})
        [.operation .start, .invalidated, .operation (.subscribe "A"), .crashed,
          .operation (.unsubscribe "A"), .operation (.subscribe "B")] s ∧
      s.2.calls = [(.acquire, 1), (.dispose, 1), (.acquire, 2), (.start, 2), (.start, 2)] ∧
      s.1.state Script.provider s.2 = .running ∧ s.1.subscribers = ["B"] := by
  have run : Run Script.provider ({ destination := "quotes" }, {})
      [.operation .start, .invalidated, .operation (.subscribe "A"), .crashed,
        .operation (.unsubscribe "A"), .operation (.subscribe "B")] _ :=
    .cons (.operation .start (by decide)) <|
    .cons (.invalidated (v := { attempts := 1, calls := [(.acquire, 1)], invalidated := true })
      fun _ _ => rfl) <|
    .cons (.operation (.subscribe "A") (by decide)) <|
    .cons (.crashed
      (v := { attempts := 2, calls := [(.acquire, 1), (.dispose, 1), (.acquire, 2), (.start, 2)] })
      fun _ _ => ⟨rfl, rfl⟩) <|
    .cons (.operation (.unsubscribe "A") (by decide)) <|
    .cons (.operation (.subscribe "B") (by decide)) (.nil _)
  have followed := run_follows_machine Script.provider_lawful run
  refine ⟨_, run, by decide, ?_, ?_⟩
  · exact (congrArg Machine.state followed).trans (by decide)
  · exact (congrArg (fun s : Machine => s.members.toList) followed).trans (by decide)

end Coordinator

end Switchboard
