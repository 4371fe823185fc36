import Switchboard.Proofs.Lifecycle.Machine
import Switchboard.Proofs.Lifecycle.Members

/-!
# Listeners without subscribers

A listener that nobody is subscribed to does not run, unless the last subscriber to leave was told
that it could not be halted (`run_attended`). This needs a provider whose handles begin to run
through their own `start` alone.
-/

namespace Switchboard

variable {ω η : Type}

/-- Only `start` makes a handle run: it is idle when it was just made, and again once it was
stopped. -/
structure Provider.Obedient (p : Provider ω η) : Prop where
  acquired {h w w'} (ok : p.acquire w = (.ok h, w')) : p.isRunning h w' = false
  stopped {h h' w w'} (ok : p.stop h w = (.ok (), h', w')) : p.isRunning h' w' = false

theorem Provider.Lawful.obedient {p : Provider ω η} (lawful : p.Lawful) : p.Obedient where
  acquired ok := (lawful.acquired ok).2
  stopped ok := (lawful.stopped ok).2

namespace Coordinator

/-! ### What holds throughout a run -/

namespace Occurrence

variable {p : Provider ω η} {P : Coordinator η × ω → Occurrence ω η → Prop}

/-- `P` holds of each occurrence of a run in the state that it meets. -/
def Throughout (p : Provider ω η) (P : Coordinator η × ω → Occurrence ω η → Prop) :
    Coordinator η × ω → List (Occurrence ω η) → Prop
  | _, [] => True
  | s, occurrence :: rest => P s occurrence ∧ Throughout p P (occurrence.run p s) rest

theorem runAll_append (p : Provider ω η) (s : Coordinator η × ω)
    (front back : List (Occurrence ω η)) :
    runAll p s (front ++ back) = runAll p (runAll p s front) back :=
  List.foldl_append

theorem throughout_append {front back : List (Occurrence ω η)} :
    ∀ {s : Coordinator η × ω}, Throughout p P s (front ++ back) ↔
      Throughout p P s front ∧ Throughout p P (runAll p s front) back := by
  induction front with
  | nil =>
    intro s
    exact (and_iff_right trivial).symm
  | cons occurrence rest ih =>
    intro s
    exact (and_congr_right fun _ => ih).trans and_assoc.symm

/-- A change does not make the held handle run. -/
def Calm (p : Provider ω η) (s : Coordinator η × ω) : Occurrence ω η → Prop
  | operation _ => True
  | change world handle => ∀ h, s.1.held = some h →
      p.isRunning (handle h) (world s.2) = true → p.isRunning h s.2 = true

end Occurrence

/-! ### How the held handle comes to run -/

section Parts

variable {p : Provider ω η} {c d : Coordinator η} {w v : ω} {h : η}

theorem held_replace {outcome : Except LifecycleError η}
    (reached : c.replace p w = (outcome, d, v)) (held : d.held = some h) :
    p.acquire w = (.ok h, v) := by
  unfold replace at reached
  split at reached
  · rename_i acquired
    cases reached
    cases held
    exact acquired
  · cases reached
    cases held

/-- What `ensure` leaves is the handle that was held and found initialized, or a new one. -/
theorem held_ensure {outcome : Except LifecycleError η}
    (reached : c.ensure p w = (outcome, d, v)) (held : d.held = some h) :
    (d = c ∧ v = w ∧ p.isInitialized h w = true) ∨
      ∃ u, (c.held = none ∧ u = w ∨ ∃ g, c.held = some g ∧ u = (p.dispose g w).2) ∧
        p.acquire u = (.ok h, v) := by
  unfold ensure at reached
  split at reached
  · rename_i free
    exact Or.inr ⟨w, Or.inl ⟨free, rfl⟩, held_replace reached held⟩
  · rename_i g found
    split at reached
    · rename_i initialized
      cases reached
      cases found.symm.trans held
      exact Or.inl ⟨rfl, rfl, initialized⟩
    · split at reached
      · rename_i u disposed
        exact Or.inr ⟨u, Or.inr ⟨g, found, by rw [disposed]⟩, held_replace reached held⟩
      · cases reached
        cases held

theorem ensure_idle (obedient : p.Obedient) {outcome : Except LifecycleError η}
    (reached : c.ensure p w = (outcome, d, v)) (held : d.held = some h)
    (running : p.isRunning h v = true) : d = c ∧ v = w := by
  rcases held_ensure reached held with ⟨same, still, -⟩ | ⟨u, -, acquired⟩
  · exact ⟨same, still⟩
  · rw [obedient.acquired acquired] at running
    cases running

theorem halt_idle (obedient : p.Obedient) {outcome : Except LifecycleError Unit}
    (reached : c.halt p w = (outcome, d, v)) (held : d.held = some h)
    (running : p.isRunning h v = true) :
    ∃ e, outcome = .error (.transition c.destination .stop e) := by
  unfold halt at reached
  split at reached
  · rename_i free
    cases reached
    cases free.symm.trans held
  · rename_i g found
    split at reached
    · split at reached
      · rename_i stopped
        cases reached
        cases held
        rw [obedient.stopped stopped] at running
        cases running
      · rename_i e _ _ _
        cases reached
        exact ⟨e, rfl⟩
    · rename_i idle
      cases reached
      cases found.symm.trans held
      exact absurd running idle

end Parts

/-! ### Who was told -/

section Run

variable {p : Provider ω η} {s : Coordinator η × ω}

/-- Nobody is subscribed, and the held handle runs, be it initialized or not. -/
def Unattended (p : Provider ω η) (s : Coordinator η × ω) : Prop :=
  s.1.members = ∅ ∧ ∃ h, s.1.held = some h ∧ p.isRunning h s.2 = true

/-- The operation is an `unsubscribe` of a member that reports a failed halt. -/
def Reports (p : Provider ω η) (s : Coordinator η × ω) (op : Operation) : Prop :=
  ∃ id e, op = .unsubscribe id ∧ id ∈ s.1.members ∧
    (op.run p s.1 s.2).1 = .error (.transition s.1.destination .stop e)

theorem operation_unattended (obedient : p.Obedient) {op : Operation}
    (left : Unattended p (op.run p s.1 s.2).2) : Unattended p s ∨ Reports p s op := by
  obtain ⟨c, w⟩ := s
  obtain ⟨nobody, h, held, running⟩ := left
  have members : op.members c.members = ∅ := (run_members p op c w).symm.trans nobody
  cases op with
  | subscribe id =>
    have member : id ∈ c.members.insert id := Std.ExtTreeSet.mem_insert_self
    rw [show c.members.insert id = ∅ from members] at member
    exact absurd member Std.ExtTreeSet.not_mem_empty
  | unsubscribe id =>
    by_cases member : c.members.contains id = true
    · have halted : (Operation.unsubscribe id).run p c w =
          ({ c with members := c.members.erase id } : Coordinator η).halt p w := by
        have last : (c.members.erase id).isEmpty = true := Std.ExtTreeSet.isEmpty_iff.mpr members
        simp only [Operation.run, unsubscribe, member, last, if_true]
      rw [halted] at held running
      obtain ⟨e, failed⟩ := halt_idle obedient rfl held running
      exact Or.inr ⟨id, e, rfl, Std.ExtTreeSet.contains_iff_mem.mp member, halted ▸ failed⟩
    · have same : (Operation.unsubscribe id).run p c w = (.ok (), c, w) := by
        simp only [Operation.run, unsubscribe, member]
        rfl
      rw [same] at nobody held running
      exact Or.inl ⟨nobody, h, held, running⟩
  | start =>
    rcases reached : c.ensure p w with ⟨outcome, d, v⟩
    have ensured : (Operation.start.run p c w).2 = (d, v) :=
      (start_left p c w).trans (congrArg Prod.snd reached)
    rw [ensured] at held running
    obtain ⟨rfl, rfl⟩ := ensure_idle obedient reached held running
    exact Or.inl ⟨members, h, held, running⟩
  | stop =>
    cases (held_of_stop p c w).symm.trans held

/-- The set was last changed by an `unsubscribe` that reported a failed halt. -/
def Reported (p : Provider ω η) (s : Coordinator η × ω) (occurrences : List (Occurrence ω η)) :
    Prop :=
  ∃ before op since, occurrences = before ++ .operation op :: since ∧
    Reports p (Occurrence.runAll p s before) op ∧
    ∀ front, front <+: since →
      (Occurrence.runAll p s (before ++ .operation op :: front)).1.members = ∅

variable {occurrences : List (Occurrence ω η)} {last : Occurrence ω η}

theorem Reported.append (reported : Reported p s occurrences)
    (nobody : (Occurrence.runAll p s (occurrences ++ [last])).1.members = ∅) :
    Reported p s (occurrences ++ [last]) := by
  obtain ⟨before, op, since, rfl, reports, empty⟩ := reported
  refine ⟨before, op, since ++ [last], by simp, reports, ?_⟩
  intro front short
  rcases List.prefix_concat_iff.mp short with rfl | shorter
  · simpa using nobody
  · exact empty front shorter

theorem runAll_destination (p : Provider ω η) (occurrences : List (Occurrence ω η)) :
    ∀ s : Coordinator η × ω,
      (Occurrence.runAll p s occurrences).1.destination = s.1.destination := by
  induction occurrences with
  | nil =>
    intro s
    rfl
  | cons occurrence rest ih =>
    intro s
    refine (ih (occurrence.run p s)).trans ?_
    cases occurrence with
    | operation op => exact run_destination p op s.1 s.2
    | change world handle => rfl

theorem change_unattended {world : ω → ω} {handle : η → η}
    (calm : Occurrence.Calm p s (.change world handle))
    (left : Unattended p (Occurrence.run p s (.change world handle))) : Unattended p s := by
  obtain ⟨nobody, h, held, running⟩ := left
  obtain ⟨g, found, rfl⟩ := Option.map_eq_some_iff.mp held
  exact ⟨nobody, g, found, calm g found running⟩

theorem run_unattended (obedient : p.Obedient) (free : s.1.held = none) :
    Occurrence.Throughout p (Occurrence.Calm p) s occurrences →
      Unattended p (Occurrence.runAll p s occurrences) → Reported p s occurrences := by
  induction occurrences using List.reverseRecOn with
  | nil =>
    rintro - ⟨-, h, held, -⟩
    cases free.symm.trans held
  | append_singleton occurrences last ih =>
    intro calm left
    obtain ⟨earlier, now, -⟩ := Occurrence.throughout_append.mp calm
    have nobody := left.1
    rw [Occurrence.runAll_append] at left
    cases last with
    | change world handle => exact (ih earlier (change_unattended now left)).append nobody
    | operation op =>
      rcases operation_unattended obedient left with before | reports
      · exact (ih earlier before).append nobody
      · refine ⟨occurrences, op, [], rfl, reports, ?_⟩
        intro front short
        rw [List.prefix_nil.mp short]
        exact nobody

/-- Where handles begin to run through their own `start` alone: whenever nobody is subscribed and
the held handle runs, the set was last changed by an `unsubscribe` that reported that the listener
did not stop. -/
theorem run_attended (obedient : p.Obedient) {destination : String} {w : ω}
    (calm : Occurrence.Throughout p (Occurrence.Calm p) ({ destination }, w) occurrences) {h : η}
    (nobody : (Occurrence.runAll p ({ destination }, w) occurrences).1.members = ∅)
    (held : (Occurrence.runAll p ({ destination }, w) occurrences).1.held = some h)
    (running : p.isRunning h (Occurrence.runAll p ({ destination }, w) occurrences).2 = true) :
    ∃ before id since e, occurrences = before ++ .operation (.unsubscribe id) :: since ∧
      let s := Occurrence.runAll p ({ destination }, w) before
      id ∈ s.1.members ∧
        ((Operation.unsubscribe id).run p s.1 s.2).1 = .error (.transition destination .stop e) ∧
        ∀ front, front <+: since → (Occurrence.runAll p ({ destination }, w)
          (before ++ .operation (.unsubscribe id) :: front)).1.members = ∅ := by
  obtain ⟨before, op, since, split, ⟨id, e, rfl, member, failed⟩, empty⟩ :=
    run_unattended obedient rfl calm ⟨nobody, h, held, running⟩
  rw [runAll_destination] at failed
  exact ⟨before, id, since, e, split, member, failed, empty⟩

/-- The halt after the last subscriber fails. The listener runs on, also when it is made sure that
it is initialized, and whoever left last knows. -/
theorem run_attended_after_failed_halt :
    let stuck : Script → Script := Script.instruct .stop (some (.failed "stuck"))
    let occurrences : List (Occurrence Script Nat) := [.operation (.subscribe "A"),
      .change stuck id, .operation (.unsubscribe "A"), .operation .start]
    let s := Occurrence.runAll Script.provider ({ destination := "quotes" }, {}) occurrences
    s.1.members = ∅ ∧ s.1.state Script.provider s.2 = .running ∧
      ∃ before id since e, occurrences = before ++ .operation (.unsubscribe id) :: since ∧
        let t := Occurrence.runAll Script.provider ({ destination := "quotes" }, {}) before
        ((Operation.unsubscribe id).run Script.provider t.1 t.2).1 =
          .error (.transition "quotes" .stop e) := by
  intro stuck occurrences s
  have nobody : s.1.members = ∅ := Std.ExtTreeSet.isEmpty_iff.mp (by decide)
  have calm : Occurrence.Throughout Script.provider (Occurrence.Calm Script.provider)
      ({ destination := "quotes" }, {}) occurrences :=
    ⟨trivial, fun _ _ running => running, trivial, trivial, trivial⟩
  have held : s.1.held = some 1 := by decide
  have running : Script.provider.isRunning 1 s.2 = true := by decide
  obtain ⟨before, id, since, e, split, -, failed, -⟩ :=
    run_attended Script.provider_lawful.obedient calm nobody held running
  exact ⟨nobody, by decide, before, id, since, e, split, failed⟩

end Run

end Coordinator

end Switchboard
