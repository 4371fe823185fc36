import Switchboard.Proofs.Lifecycle.Attended

/-!
# Recovery

However its calls came out so far, a coordinator recovers once they succeed: when all subscribers
have left, the next one finds the listener running (`run_recovers`).
-/

namespace Switchboard

variable {ω η : Type}

/-- While `Inv` holds of the held handle and the world, which no call ends, every call succeeds, a
handle just made is initialized, and one just started runs and is no less initialized for it. -/
structure Provider.Reliable (p : Provider ω η) (Inv : Option η → ω → Prop) : Prop where
  preserves : p.Preserves Inv
  succeeds : p.Succeeds Inv
  acquired {h w w'} (inv : Inv none w) (ok : p.acquire w = (.ok h, w')) :
    p.isInitialized h w' = true
  started {h h' w w'} (inv : Inv (some h) w) (ok : p.start h w = (.ok (), h', w')) :
    (p.isInitialized h w = true → p.isInitialized h' w' = true) ∧ p.isRunning h' w' = true

namespace Coordinator

variable {p : Provider ω η} {Inv : Option η → ω → Prop}

namespace Occurrence

/-- A change keeps `Inv`, and neither invalidates the held handle nor makes it crash. -/
def Gentle (p : Provider ω η) (Inv : Option η → ω → Prop) (s : Coordinator η × ω) :
    Occurrence ω η → Prop
  | operation _ => True
  | change world handle => Inv (s.1.held.map handle) (world s.2) ∧ ∀ h, s.1.held = some h →
      (p.isInitialized h s.2 = true → p.isInitialized (handle h) (world s.2) = true) ∧
        (p.isRunning h s.2 = true → p.isRunning (handle h) (world s.2) = true)

/-- An operation reports no failure. -/
def Succeeds (p : Provider ω η) (s : Coordinator η × ω) : Occurrence ω η → Prop
  | operation op => (op.run p s.1 s.2).1 = .ok ()
  | change _ _ => True

end Occurrence

/-! ### The first subscriber -/

section Parts

variable {c d : Coordinator η} {w v : ω} {h : η}

theorem initialized_of_ensure (reliable : p.Reliable Inv) (inv : Inv c.held w)
    (reached : c.ensure p w = (.ok h, d, v)) : p.isInitialized h v = true := by
  rcases held_ensure reached (held_of_ensure reached) with
    ⟨-, rfl, initialized⟩ | ⟨u, origin, acquired⟩
  · exact initialized
  · have inv' : Inv none u := by
      rcases origin with ⟨free, rfl⟩ | ⟨g, found, rfl⟩
      · exact free ▸ inv
      · exact reliable.preserves.dispose (found ▸ inv)
    exact reliable.acquired inv' acquired

theorem state_of_first (reliable : p.Reliable Inv) (inv : Inv c.held w) (nobody : c.members = ∅)
    (x : String) : (c.subscribe p x w).2.1.state p (c.subscribe p x w).2.2 = .running := by
  let joined : Coordinator η := { c with members := c.members.insert x }
  have inv : Inv joined.held w := inv
  obtain ⟨h, ok⟩ := ensure_succeeds reliable.preserves reliable.succeeds inv
  have left := ensure_preserves reliable.preserves inv
  rcases ensured : joined.ensure p w with ⟨_, d, v⟩
  rw [ensured] at ok left
  cases ok
  have held := held_of_ensure ensured
  have initialized := initialized_of_ensure reliable inv ensured
  have left : Inv (some h) v := held ▸ left
  have started := run_succeeds_held (c := d) reliable.succeeds left
  rcases reached : d.run p h v with ⟨_, d', v'⟩
  rw [reached] at started
  cases started
  have called : c.subscribe p x w = (.ok (), d', v') := by
    have empty : c.members.isEmpty = true := Std.ExtTreeSet.isEmpty_iff.mpr nobody
    unfold subscribe
    simp only [empty, if_true]
    rw [show ({ c with members := c.members.insert x } : Coordinator η).ensure p w = _ from ensured]
    exact reached
  rw [called]
  refine state_of_run held initialized ?_ reached
  intro g u ok
  obtain ⟨kept, running⟩ := reliable.started left ok
  exact ⟨kept initialized, running⟩

end Parts

/-! ### From then on -/

section Run

variable {s : Coordinator η × ω} {later : List (Occurrence ω η)}

theorem runAll_succeeds (reliable : p.Reliable Inv) :
    ∀ {s : Coordinator η × ω}, Inv s.1.held s.2 →
      Occurrence.Throughout p (Occurrence.Gentle p Inv) s later →
        Occurrence.Throughout p (Occurrence.Succeeds p) s later ∧
          Inv (Occurrence.runAll p s later).1.held (Occurrence.runAll p s later).2 := by
  induction later with
  | nil =>
    intro s inv gentle
    exact ⟨trivial, inv⟩
  | cons occurrence rest ih =>
    intro s inv gentle
    cases occurrence with
    | operation op =>
      have succeeded := run_succeeds reliable.preserves reliable.succeeds op inv
      obtain ⟨others, left⟩ := ih (run_preserves reliable.preserves op inv) gentle.2
      exact ⟨⟨succeeded, others⟩, left⟩
    | change world handle =>
      obtain ⟨others, left⟩ := ih gentle.1.1 gentle.2
      exact ⟨⟨trivial, others⟩, left⟩

theorem mem_membersAfter_unsubscribe (ids : List String) :
    ∀ {members : Std.ExtTreeSet String} {id : String},
      id ∈ Operation.membersAfter (ids.map .unsubscribe) members ↔ id ∈ members ∧ id ∉ ids := by
  induction ids with
  | nil =>
    intro members id
    simp [Operation.membersAfter]
  | cons first rest ih =>
    intro members id
    have others := @ih (members.erase first) id
    have erased : id ∈ members.erase first ↔ id ∈ members ∧ id ≠ first := by
      simp only [Std.ExtTreeSet.mem_erase, ne_eq, Std.LawfulEqCmp.compare_eq_iff_eq]
      rw [and_comm, eq_comm]
    rw [erased, and_assoc, ← not_or, ← List.mem_cons] at others
    exact others

theorem subscribers_of_single {c : Coordinator η} {x : String} (alone : c.members = {x}) :
    c.subscribers = [x] := by
  refine List.perm_singleton.mp
    ((List.perm_ext_iff_of_nodup (subscribers_nodup c) (by simp)).mpr ?_)
  intro id
  have member : id ∈ ({x} : Std.ExtTreeSet String) ↔ compare x id = .eq :=
    Std.ExtTreeSet.mem_insert.trans (or_iff_left Std.ExtTreeSet.not_mem_empty)
  rw [mem_subscribers_iff, isSubscribed, Std.ExtTreeSet.contains_iff_mem, alone, member,
    List.mem_singleton, Std.LawfulEqCmp.compare_eq_iff_eq, eq_comm]

theorem state_eq_running_iff {c : Coordinator η} {w : ω} : c.state p w = .running ↔
    ∃ h, c.held = some h ∧ p.isInitialized h w = true ∧ p.isRunning h w = true := by
  cases held : c.held with
  | none => simp [state_of_free held]
  | some h =>
    simp only [state_of_held held, Option.some.injEq, exists_eq_left']
    cases p.isInitialized h w <;> cases p.isRunning h w <;> simp

theorem runAll_stays (quiet : later.filterMap Occurrence.operation? = []) :
    ∀ {s : Coordinator η × ω}, Occurrence.Throughout p (Occurrence.Gentle p Inv) s later →
      s.1.state p s.2 = .running →
        (Occurrence.runAll p s later).1.state p (Occurrence.runAll p s later).2 = .running := by
  induction later with
  | nil =>
    intro s gentle running
    exact running
  | cons occurrence rest ih =>
    intro s gentle running
    cases occurrence with
    | operation op => cases quiet
    | change world handle =>
      refine ih quiet gentle.2 (state_eq_running_iff.mpr ?_)
      obtain ⟨h, held, initialized, runs⟩ := state_eq_running_iff.mp running
      obtain ⟨valid, alive⟩ := gentle.1.2 h held
      exact ⟨handle h, congrArg (Option.map handle) held, valid initialized, alive runs⟩

/-- Whatever state it is in, a coordinator recovers once every call succeeds and the listener is
left alone: when all subscribers have left, in any order, and a client subscribes after them, no
call reports a failure, the listener runs, and the client is its only subscriber. -/
theorem run_recovers (reliable : p.Reliable Inv) (now : Inv s.1.held s.2) {ids : List String}
    (everybody : ∀ id ∈ s.1.subscribers, id ∈ ids) {x : String}
    (calls : later.filterMap Occurrence.operation? = ids.map .unsubscribe ++ [.subscribe x])
    (gentle : Occurrence.Throughout p (Occurrence.Gentle p Inv) s later) :
    let left := Occurrence.runAll p s later
    Occurrence.Throughout p (Occurrence.Succeeds p) s later ∧
      left.1.state p left.2 = .running ∧ left.1.subscribers = [x] := by
  intro left
  obtain ⟨leaving, coming, rfl, gone, came⟩ := List.filterMap_eq_append_iff.mp calls
  obtain ⟨between, occurrence, after, rfl, quiet, named, rest⟩ := List.filterMap_eq_cons_iff.mp came
  have first : occurrence = .operation (.subscribe x) := by
    cases occurrence with
    | operation op =>
      cases named
      rfl
    | change world handle => cases named
  subst first
  let t := Occurrence.runAll p s (leaving ++ between)
  have whole : left = Occurrence.runAll p t (.operation (.subscribe x) :: after) := by
    rw [← Occurrence.runAll_append, List.append_assoc]
  obtain ⟨before, -, later⟩ : Occurrence.Throughout p (Occurrence.Gentle p Inv) s
      (leaving ++ between) ∧ Occurrence.Throughout p (Occurrence.Gentle p Inv) t
        (.operation (.subscribe x) :: after) := by
    rwa [← Occurrence.throughout_append, List.append_assoc]
  have inv : Inv t.1.held t.2 := (runAll_succeeds reliable now before).2
  have nobody : t.1.members = ∅ := by
    have members : t.1.members = Operation.membersAfter (ids.map .unsubscribe) s.1.members := by
      have quiet : between.filterMap Occurrence.operation? = [] :=
        List.filterMap_eq_nil_iff.mpr quiet
      have called := runAll_members p (leaving ++ between) s
      rwa [List.filterMap_append, gone, quiet, List.append_nil] at called
    apply Std.ExtTreeSet.ext_mem
    intro id
    rw [members, mem_membersAfter_unsubscribe]
    refine iff_of_false ?_ Std.ExtTreeSet.not_mem_empty
    rintro ⟨member, stays⟩
    exact stays (everybody id (Std.ExtTreeSet.mem_toList.mpr member))
  refine ⟨(runAll_succeeds reliable now gentle).1, ?_, ?_⟩
  · rw [whole]
    exact runAll_stays rest later (state_of_first reliable inv nobody x)
  · have members := runAll_members p (.operation (.subscribe x) :: after) t
    rw [← whole, nobody, List.filterMap_cons_some named, rest] at members
    exact subscribers_of_single members

end Run

end Coordinator

/-! ### A listener that was lost -/

namespace Script

theorem perform_of_sound {s : Script} (sound : s.failures = []) (call : ResourceCall) (n : Nat) :
    s.perform call n = (.ok (), { s with calls := s.calls ++ [(call, n)] }) := by
  simp [perform, sound]

theorem acquire_of_sound {s : Script} (sound : s.failures = []) : s.acquire = (.ok (s.attempts + 1),
    { s with
      running := false
      invalidated := false
      attempts := s.attempts + 1
      calls := s.calls ++ [(.acquire, s.attempts + 1)] }) := by
  simp [acquire, perform_of_sound, sound]

theorem switch_of_sound {s : Script} (sound : s.failures = []) (call : ResourceCall)
    (running : Bool) (n : Nat) : s.switch call running n =
      (.ok (), n, { s with running, calls := s.calls ++ [(call, n)] }) := by
  simp [switch, perform_of_sound sound]

theorem provider_reliable : provider.Reliable fun _ s => s.failures = [] where
  preserves := {
    acquire := fun sound => by simp [provider, acquire_of_sound sound, sound]
    dispose := fun sound => by simp [provider, perform_of_sound sound, sound]
    start := fun sound => by simp [provider, switch_of_sound sound, sound]
    stop := fun sound => by simp [provider, switch_of_sound sound, sound] }
  succeeds := {
    acquire := fun sound => by simp [provider, acquire_of_sound sound]
    dispose := fun sound => by simp [provider, perform_of_sound sound]
    start := fun sound => by simp [provider, switch_of_sound sound]
    stop := fun sound => by simp [provider, switch_of_sound sound] }
  acquired sound ok := by
    simp only [provider, acquire_of_sound sound] at ok
    cases ok
    rfl
  started sound ok := by
    simp only [provider, switch_of_sound sound] at ok
    cases ok
    exact ⟨id, rfl⟩

end Script

namespace Coordinator

/-- A listener that could not be halted becomes stale and is lost when it cannot be disposed of
either, so that those who subscribe have none. It comes back once they have left. -/
theorem run_recovers_lost_listener :
    let damage (s : Script) : Script := { s with
      invalidated := true
      failures := [(.stop, some (.failed "stuck")), (.dispose, some (.failed "stuck"))] }
    let past : List (Occurrence Script Nat) := [.operation (.subscribe "A"), .change damage id,
      .operation (.unsubscribe "A"), .operation (.subscribe "B"), .operation (.subscribe "C"),
      .change (fun s => { s with failures := [] }) id]
    let later : List (Occurrence Script Nat) := [.operation (.unsubscribe "C"), .change id id,
      .operation (.unsubscribe "B"), .operation (.subscribe "D")]
    let s := Occurrence.runAll Script.provider ({ destination := "quotes" }, {}) past
    let left := Occurrence.runAll Script.provider s later
    s.1.subscribers = ["B", "C"] ∧ s.1.held = none ∧
      left.1.state Script.provider left.2 = .running ∧ left.1.subscribers = ["D"] := by
  intro damage past later s left
  have members : s.1.subscribers = ["B", "C"] := by decide
  have everybody : ∀ id ∈ s.1.subscribers, id ∈ ["C", "B"] := by
    rw [members]
    decide
  have gentle : Occurrence.Throughout Script.provider
      (Occurrence.Gentle Script.provider fun _ s => s.failures = []) s later :=
    ⟨trivial, ⟨rfl, fun _ _ => ⟨id, id⟩⟩, trivial, trivial, trivial⟩
  have now : s.2.failures = [] := rfl
  obtain ⟨-, running, alone⟩ :=
    run_recovers Script.provider_reliable now everybody (x := "D") rfl gentle
  exact ⟨members, by decide, running, alone⟩

end Coordinator

end Switchboard
