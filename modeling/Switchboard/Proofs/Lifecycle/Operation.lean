import Switchboard.Lifecycle.Coordinator

/-!
# Operations of a coordinator

The four operations as data. Whatever becomes of the listener, an operation changes the
subscribers in one way only (`run_members`). What no call of the provider breaks, no operation
breaks (`run_preserves`).
-/

namespace Switchboard.Coordinator

variable {ω η : Type}

inductive Operation
  | subscribe (id : String)
  | unsubscribe (id : String)
  | start
  | stop
deriving DecidableEq, Repr

namespace Operation

def run (p : Provider ω η) : Operation → Coordinator η → ω →
    Except LifecycleError Unit × Coordinator η × ω
  | subscribe id => Coordinator.subscribe p id
  | unsubscribe id => Coordinator.unsubscribe p id
  | start => Coordinator.start p
  | stop => Coordinator.stop p

def members : Operation → Std.ExtTreeSet String → Std.ExtTreeSet String
  | subscribe id, members => members.insert id
  | unsubscribe id, members => members.erase id
  | start, members | stop, members => members

end Operation

/-! ### What the listener has no say in -/

def SameClients (c d : Coordinator η) : Prop :=
  d.destination = c.destination ∧ d.members = c.members

theorem replace_clients (p : Provider ω η) (c : Coordinator η) (w : ω) :
    SameClients c (c.replace p w).2.1 := by
  unfold replace
  split <;> exact ⟨rfl, rfl⟩

theorem ensure_clients (p : Provider ω η) (c : Coordinator η) (w : ω) :
    SameClients c (c.ensure p w).2.1 := by
  unfold ensure
  split
  · exact replace_clients p c w
  · split
    · exact ⟨rfl, rfl⟩
    · split
      · exact replace_clients p c _
      · exact ⟨rfl, rfl⟩

theorem run_clients (p : Provider ω η) (h : η) (c : Coordinator η) (w : ω) :
    SameClients c (c.run p h w).2.1 := by
  unfold run
  split
  · exact ⟨rfl, rfl⟩
  · split <;> exact ⟨rfl, rfl⟩

theorem halt_clients (p : Provider ω η) (c : Coordinator η) (w : ω) :
    SameClients c (c.halt p w).2.1 := by
  unfold halt
  split
  · exact ⟨rfl, rfl⟩
  · split
    · split <;> exact ⟨rfl, rfl⟩
    · exact ⟨rfl, rfl⟩

theorem erase_of_not_contains {members : Std.ExtTreeSet String} {id : String}
    (absent : ¬ members.contains id = true) : members.erase id = members := by
  apply Std.ExtTreeSet.ext_mem
  intro other
  grind

theorem subscribe_clients (p : Provider ω η) (id : String) (c : Coordinator η) (w : ω) :
    SameClients { c with members := c.members.insert id } (c.subscribe p id w).2.1 := by
  unfold subscribe
  dsimp only
  split
  · have ensured := ensure_clients p { c with members := c.members.insert id } w
    split
    · rename_i h d v reached
      rw [reached] at ensured
      have started := run_clients p h d v
      exact ⟨started.1.trans ensured.1, started.2.trans ensured.2⟩
    · rename_i e d v reached
      rw [reached] at ensured
      exact ensured
  · exact ⟨rfl, rfl⟩

theorem unsubscribe_clients (p : Provider ω η) (id : String) (c : Coordinator η) (w : ω) :
    SameClients { c with members := c.members.erase id } (c.unsubscribe p id w).2.1 := by
  unfold unsubscribe
  split
  · dsimp only
    split
    · exact halt_clients p _ w
    · exact ⟨rfl, rfl⟩
  · rename_i absent
    exact ⟨rfl, (erase_of_not_contains absent).symm⟩

/-- `start` leaves what `ensure` leaves. -/
theorem start_left (p : Provider ω η) (c : Coordinator η) (w : ω) :
    (c.start p w).2 = (c.ensure p w).2 := by
  unfold start
  rcases c.ensure p w with ⟨_ | _, d, v⟩ <;> rfl

theorem start_clients (p : Provider ω η) (c : Coordinator η) (w : ω) :
    SameClients c (c.start p w).2.1 := by
  rw [start_left]
  exact ensure_clients p c w

theorem stop_clients (p : Provider ω η) (c : Coordinator η) (w : ω) :
    SameClients c (c.stop p w).2.1 := by
  unfold stop
  split
  · exact ⟨rfl, rfl⟩
  · dsimp only
    split <;> exact ⟨rfl, rfl⟩

/-- An operation that fails changes the subscribers like one that does not. -/
theorem run_members (p : Provider ω η) (op : Operation) (c : Coordinator η) (w : ω) :
    (op.run p c w).2.1.members = op.members c.members := by
  cases op with
  | subscribe id => exact (subscribe_clients p id c w).2
  | unsubscribe id => exact (unsubscribe_clients p id c w).2
  | start => exact (start_clients p c w).2
  | stop => exact (stop_clients p c w).2

theorem run_destination (p : Provider ω η) (op : Operation) (c : Coordinator η) (w : ω) :
    (op.run p c w).2.1.destination = c.destination := by
  cases op with
  | subscribe id => exact (subscribe_clients p id c w).1
  | unsubscribe id => exact (unsubscribe_clients p id c w).1
  | start => exact (start_clients p c w).1
  | stop => exact (stop_clients p c w).1

/-! ### What no call of the provider breaks -/

end Switchboard.Coordinator

namespace Switchboard

variable {ω η : Type}

/-- `Inv` speaks of the held handle and of the world. No call of the provider breaks it, whether
it succeeds or not. -/
structure Provider.Preserves (p : Provider ω η) (Inv : Option η → ω → Prop) : Prop where
  acquire {w} (inv : Inv none w) : Inv (p.acquire w).1.toOption (p.acquire w).2
  dispose {h w} (inv : Inv (some h) w) : Inv none (p.dispose h w).2
  start {h w} (inv : Inv (some h) w) : Inv (some (p.start h w).2.1) (p.start h w).2.2
  stop {h w} (inv : Inv (some h) w) : Inv (some (p.stop h w).2.1) (p.stop h w).2.2

namespace Coordinator

variable {p : Provider ω η} {Inv : Option η → ω → Prop} {c : Coordinator η} {w : ω}

theorem replace_preserves (keeps : p.Preserves Inv) (inv : Inv none w) :
    Inv (c.replace p w).2.1.held (c.replace p w).2.2 := by
  have acquired := keeps.acquire inv
  unfold replace
  split
  all_goals
    rename_i reached
    rw [reached] at acquired
    exact acquired

theorem ensure_preserves (keeps : p.Preserves Inv) (inv : Inv c.held w) :
    Inv (c.ensure p w).2.1.held (c.ensure p w).2.2 := by
  unfold ensure
  split
  · rename_i none
    exact replace_preserves keeps (none ▸ inv)
  · rename_i h held
    rw [held] at inv
    split
    · simpa only [held] using inv
    · have disposed := keeps.dispose inv
      split
      all_goals
        rename_i reached
        rw [reached] at disposed
      · exact replace_preserves keeps disposed
      · exact disposed

theorem held_of_replace {h : η} {d : Coordinator η} {v : ω}
    (reached : c.replace p w = (.ok h, d, v)) : d.held = some h := by
  unfold replace at reached
  split at reached
  · cases reached
    rfl
  · cases reached

theorem held_of_ensure {h : η} {d : Coordinator η} {v : ω}
    (reached : c.ensure p w = (.ok h, d, v)) : d.held = some h := by
  unfold ensure at reached
  split at reached
  · exact held_of_replace reached
  · rename_i held
    split at reached
    · cases reached
      exact held
    · split at reached
      · exact held_of_replace reached
      · cases reached

theorem run_preserves_held {h : η} (keeps : p.Preserves Inv) (held : c.held = some h)
    (inv : Inv c.held w) : Inv (c.run p h w).2.1.held (c.run p h w).2.2 := by
  rw [held] at inv
  unfold run
  split
  · simpa only [held] using inv
  · have started := keeps.start inv
    split
    all_goals
      rename_i reached
      rw [reached] at started
      exact started

theorem halt_preserves (keeps : p.Preserves Inv) (inv : Inv c.held w) :
    Inv (c.halt p w).2.1.held (c.halt p w).2.2 := by
  unfold halt
  split
  · exact inv
  · rename_i h held
    split
    · rw [held] at inv
      have stopped := keeps.stop inv
      split
      all_goals
        rename_i reached
        rw [reached] at stopped
        exact stopped
    · exact inv

theorem subscribe_preserves (keeps : p.Preserves Inv) (id : String) (inv : Inv c.held w) :
    Inv (c.subscribe p id w).2.1.held (c.subscribe p id w).2.2 := by
  unfold subscribe
  dsimp only
  split
  · have ensured := ensure_preserves (c := { c with members := c.members.insert id }) keeps inv
    split
    · rename_i h d v reached
      have held := held_of_ensure reached
      rw [reached] at ensured
      exact run_preserves_held keeps held ensured
    · rename_i reached
      rw [reached] at ensured
      exact ensured
  · exact inv

theorem unsubscribe_preserves (keeps : p.Preserves Inv) (id : String) (inv : Inv c.held w) :
    Inv (c.unsubscribe p id w).2.1.held (c.unsubscribe p id w).2.2 := by
  unfold unsubscribe
  split
  · dsimp only
    split
    · exact halt_preserves keeps inv
    · exact inv
  · exact inv

theorem start_preserves (keeps : p.Preserves Inv) (inv : Inv c.held w) :
    Inv (c.start p w).2.1.held (c.start p w).2.2 := by
  rw [start_left]
  exact ensure_preserves keeps inv

theorem stop_preserves (keeps : p.Preserves Inv) (inv : Inv c.held w) :
    Inv (c.stop p w).2.1.held (c.stop p w).2.2 := by
  unfold stop
  split
  · exact inv
  · rename_i h held
    rw [held] at inv
    dsimp only
    have stopped : Inv (some (if p.isRunning h w then p.stop h w else (.ok (), h, w)).2.1)
        (if p.isRunning h w then p.stop h w else (.ok (), h, w)).2.2 := by
      split
      · exact keeps.stop inv
      · exact inv
    have disposed := keeps.dispose stopped
    split <;> exact disposed

theorem run_preserves (keeps : p.Preserves Inv) (op : Operation) (inv : Inv c.held w) :
    Inv (op.run p c w).2.1.held (op.run p c w).2.2 := by
  cases op with
  | subscribe id => exact subscribe_preserves keeps id inv
  | unsubscribe id => exact unsubscribe_preserves keeps id inv
  | start => exact start_preserves keeps inv
  | stop => exact stop_preserves keeps inv

end Coordinator

/-! ### Where no call fails -/

/-- While `Inv` holds of a handle and the world, no call of the provider fails. -/
structure Provider.Succeeds (p : Provider ω η) (Inv : Option η → ω → Prop) : Prop where
  acquire {w} (inv : Inv none w) : ∃ h, (p.acquire w).1 = .ok h
  dispose {h w} (inv : Inv (some h) w) : (p.dispose h w).1 = .ok ()
  start {h w} (inv : Inv (some h) w) : (p.start h w).1 = .ok ()
  stop {h w} (inv : Inv (some h) w) : (p.stop h w).1 = .ok ()

namespace Coordinator

variable {p : Provider ω η} {Inv : Option η → ω → Prop} {c : Coordinator η} {w : ω}

theorem replace_succeeds (succeeds : p.Succeeds Inv) (inv : Inv none w) :
    ∃ h, (c.replace p w).1 = .ok h := by
  obtain ⟨h, acquired⟩ := succeeds.acquire inv
  unfold replace
  split
  · exact ⟨_, rfl⟩
  · rename_i failed
    rw [failed] at acquired
    cases acquired

theorem ensure_succeeds (keeps : p.Preserves Inv) (succeeds : p.Succeeds Inv)
    (inv : Inv c.held w) : ∃ h, (c.ensure p w).1 = .ok h := by
  unfold ensure
  split
  · rename_i free
    exact replace_succeeds succeeds (free ▸ inv)
  · rename_i h held
    rw [held] at inv
    split
    · exact ⟨h, rfl⟩
    · have disposed := succeeds.dispose inv
      have left := keeps.dispose inv
      split
      · rename_i w' reached
        rw [reached] at left
        exact replace_succeeds succeeds left
      · rename_i failed
        rw [failed] at disposed
        cases disposed

theorem run_succeeds_held {h : η} (succeeds : p.Succeeds Inv) (inv : Inv (some h) w) :
    (c.run p h w).1 = .ok () := by
  have started := succeeds.start inv
  unfold run
  split
  · rfl
  · split
    · rfl
    · rename_i failed
      rw [failed] at started
      cases started

theorem halt_succeeds (succeeds : p.Succeeds Inv) (inv : Inv c.held w) :
    (c.halt p w).1 = .ok () := by
  unfold halt
  split
  · rfl
  · rename_i h held
    rw [held] at inv
    have stopped := succeeds.stop inv
    split
    · split
      · rfl
      · rename_i failed
        rw [failed] at stopped
        cases stopped
    · rfl

theorem subscribe_succeeds (keeps : p.Preserves Inv) (succeeds : p.Succeeds Inv) (id : String)
    (inv : Inv c.held w) : (c.subscribe p id w).1 = .ok () := by
  have ensured :=
    ensure_succeeds (c := { c with members := c.members.insert id }) keeps succeeds inv
  have left := ensure_preserves (c := { c with members := c.members.insert id }) keeps inv
  unfold subscribe
  dsimp only
  split
  · split
    · rename_i reached
      rw [reached, held_of_ensure reached] at left
      exact run_succeeds_held succeeds left
    · rename_i failed
      rw [failed] at ensured
      obtain ⟨h, ok⟩ := ensured
      cases ok
  · rfl

theorem unsubscribe_succeeds (succeeds : p.Succeeds Inv) (id : String) (inv : Inv c.held w) :
    (c.unsubscribe p id w).1 = .ok () := by
  unfold unsubscribe
  split
  · dsimp only
    split
    · exact halt_succeeds succeeds inv
    · rfl
  · rfl

theorem start_succeeds (keeps : p.Preserves Inv) (succeeds : p.Succeeds Inv)
    (inv : Inv c.held w) : (c.start p w).1 = .ok () := by
  obtain ⟨h, ensured⟩ := ensure_succeeds keeps succeeds inv
  unfold start
  split
  · rfl
  · rename_i failed
    rw [failed] at ensured
    cases ensured

theorem stop_succeeds (keeps : p.Preserves Inv) (succeeds : p.Succeeds Inv)
    (inv : Inv c.held w) : (c.stop p w).1 = .ok () := by
  unfold stop
  split
  · rfl
  · rename_i h held
    rw [held] at inv
    have stopped : (if p.isRunning h w then p.stop h w else (.ok (), h, w)).1 = .ok () := by
      split
      · exact succeeds.stop inv
      · rfl
    have left : Inv (some (if p.isRunning h w then p.stop h w else (.ok (), h, w)).2.1)
        (if p.isRunning h w then p.stop h w else (.ok (), h, w)).2.2 := by
      split
      · exact keeps.stop inv
      · exact inv
    have disposed := succeeds.dispose left
    simp only [stopped, disposed]

theorem run_succeeds (keeps : p.Preserves Inv) (succeeds : p.Succeeds Inv) (op : Operation)
    (inv : Inv c.held w) : (op.run p c w).1 = .ok () := by
  cases op with
  | subscribe id => exact subscribe_succeeds keeps succeeds id inv
  | unsubscribe id => exact unsubscribe_succeeds succeeds id inv
  | start => exact start_succeeds keeps succeeds inv
  | stop => exact stop_succeeds keeps succeeds inv

end Coordinator

end Switchboard
