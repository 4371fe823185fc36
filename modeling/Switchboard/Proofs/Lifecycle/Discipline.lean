import Switchboard.Proofs.Lifecycle.Course
import Switchboard.Proofs.Record

/-!
# The discipline of resource calls

Over every run of a coordinator, whatever its calls come to and whatever its listener and the world
do by themselves between two operations, at most one handle is live, the coordinator holds exactly
that one, and nothing is called on a handle that was disposed of (`run_disciplined`).
-/

namespace Switchboard.Coordinator

variable {ω η : Type}

/-- What happens to a coordinator: an operation, or any change that the world and the held handle
undergo by themselves. -/
inductive Occurrence (ω η : Type)
  | operation (op : Operation)
  | change (world : ω → ω) (handle : η → η)

namespace Occurrence

def run (p : Provider ω η) (s : Coordinator η × ω) : Occurrence ω η → Coordinator η × ω
  | operation op => (op.run p s.1 s.2).2
  | change world handle => ({ s.1 with held := s.1.held.map handle }, world s.2)

def runAll (p : Provider ω η) (s : Coordinator η × ω) (occurrences : List (Occurrence ω η)) :
    Coordinator η × ω :=
  occurrences.foldl (run p) s

def traced : Occurrence ω η → Occurrence (Traced ω) (Tagged η)
  | operation op => operation op
  | change world handle =>
    change (fun t => { t with world := world t.world })
      fun h => { h with handle := handle h.handle }

end Occurrence

def forget (s : Coordinator (Tagged η) × Traced ω) : Coordinator η × ω :=
  (s.1.untag, s.2.world)

/-- The handle `n` was acquired and is not yet disposed of. -/
def Live (calls : List Call) (n : Nat) : Prop :=
  (∃ call ∈ calls, call.yields = some n) ∧ ∀ call ∈ calls, call.kind = .dispose → call.handle ≠ n

/-- Calls that leave one handle or none. Only where there is none is one acquired, under a number
never used before, and all else is called on the one there is. -/
inductive Disciplined : List Call → Option Nat → Prop
  | nil : Disciplined [] none
  | acquire {calls} (call : Call) (before : Disciplined calls none) (kind : call.kind = .acquire)
      (new : ∀ other ∈ calls, other.handle ≠ call.handle) :
      Disciplined (calls ++ [call]) call.yields
  | switch {calls} (call : Call) (before : Disciplined calls (some call.handle))
      (kind : call.kind = .start ∨ call.kind = .stop) :
      Disciplined (calls ++ [call]) (some call.handle)
  | dispose {calls} (call : Call) (before : Disciplined calls (some call.handle))
      (kind : call.kind = .dispose) : Disciplined (calls ++ [call]) none

/-! ### What disciplined calls have in common -/

section Calls

variable {calls earlier later : List Call} {call : Call} {left : Option Nat} {n : Nat}

theorem yields_of_kind (kind : call.kind ≠ .acquire) : call.yields = none :=
  if_neg fun both => kind both.1

theorem handle_of_yields (yields : call.yields = some n) :
    call.kind = .acquire ∧ call.handle = n := by
  unfold Call.yields at yields
  split at yields
  · rename_i both
    exact ⟨both.1, Option.some.inj yields⟩
  · cases yields

theorem live_append : Live (calls ++ [call]) n ↔
    ((∃ other ∈ calls, other.yields = some n) ∨ call.yields = some n) ∧
      (∀ other ∈ calls, other.kind = .dispose → other.handle ≠ n) ∧
        (call.kind = .dispose → call.handle ≠ n) := by
  simp only [Live, List.mem_append, List.mem_singleton, or_and_right, exists_or, exists_eq_left,
    or_imp, forall_and, forall_eq]

theorem Disciplined.live_iff (disciplined : Disciplined calls left) :
    Live calls n ↔ left = some n := by
  induction disciplined generalizing n with
  | nil => simp [Live]
  | @acquire calls call before kind new ih =>
    rw [live_append]
    constructor
    · rintro ⟨old | yields, undisposed, -⟩
      · exact absurd (ih.mp ⟨old, undisposed⟩) nofun
      · exact yields
    · intro yields
      have same := (handle_of_yields yields).2
      refine ⟨Or.inr yields, fun other member _ => same ▸ new other member, fun disposes => ?_⟩
      cases kind.symm.trans disposes
  | @switch calls call before kind ih =>
    have idle : call.kind ≠ .acquire ∧ call.kind ≠ .dispose := by
      rcases kind with kind | kind <;> simp [kind]
    rw [live_append, yields_of_kind idle.1, ← ih, Live]
    simp [idle.2]
  | @dispose calls call before kind ih =>
    rw [live_append, yields_of_kind (by simp [kind])]
    simp only [reduceCtorEq, or_false, iff_false, not_and]
    intro acquired undisposed
    have same := ih.mp ⟨acquired, undisposed⟩
    simpa [kind] using Option.some.inj same

theorem Disciplined.at_call (disciplined : Disciplined calls left)
    (split : calls = earlier ++ call :: later) : ∃ found, Disciplined earlier found ∧
      (call.kind = .acquire → found = none ∧ ∀ other ∈ earlier, other.handle ≠ call.handle) ∧
      (call.kind ≠ .acquire → found = some call.handle) := by
  induction disciplined generalizing later with
  | nil => simp at split
  | acquire last before kind new ih =>
    rcases split_concat split with ⟨rfl, rfl, rfl⟩ | ⟨rest, among⟩
    · exact ⟨none, before, fun _ => ⟨rfl, new⟩, fun other => absurd kind other⟩
    · exact ih among
  | switch last before kind ih =>
    rcases split_concat split with ⟨rfl, rfl, rfl⟩ | ⟨rest, among⟩
    · refine ⟨_, before, fun acquires => ?_, fun _ => rfl⟩
      rw [acquires] at kind
      simp at kind
    · exact ih among
  | dispose last before kind ih =>
    rcases split_concat split with ⟨rfl, rfl, rfl⟩ | ⟨rest, among⟩
    · refine ⟨_, before, fun acquires => ?_, fun _ => rfl⟩
      cases kind.symm.trans acquires
    · exact ih among

theorem Disciplined.of_prefix (disciplined : Disciplined calls left) (short : earlier <+: calls) :
    ∃ found, Disciplined earlier found := by
  obtain ⟨rest, rfl⟩ := short
  cases rest with
  | nil =>
    rw [List.append_nil] at disciplined
    exact ⟨left, disciplined⟩
  | cons call later =>
    obtain ⟨found, before, -⟩ := disciplined.at_call rfl
    exact ⟨found, before⟩

theorem Disciplined.disposed (disciplined : Disciplined calls left)
    (split : calls = earlier ++ call :: later) (kind : call.kind = .dispose) :
    ∀ other ∈ later, other.handle ≠ call.handle := by
  intro other member same
  obtain ⟨between, rest, rfl⟩ := List.append_of_mem member
  rw [← List.cons_append, ← List.append_assoc] at split
  obtain ⟨found, before, acquires, uses⟩ := disciplined.at_call split
  have there : call ∈ earlier ++ call :: between := by simp
  -- an acquisition takes a number that no call had before, all else finds its handle live
  by_cases acquired : other.kind = .acquire
  · exact (acquires acquired).2 call there same.symm
  · have live := before.live_iff.mpr (uses acquired)
    exact live.2 call there kind same.symm

end Calls

/-! ### Every run is disciplined -/

section Run

variable (p : Provider ω η)

/-- The record is disciplined and leaves the handle held, and the next number is unused. -/
def Orderly (held : Option (Tagged η)) (t : Traced ω) : Prop :=
  Disciplined t.calls (held.map Tagged.number) ∧ ∀ call ∈ t.calls, call.handle ≤ t.attempts

variable {p}

theorem Orderly.number_le {h : Tagged η} {t : Traced ω} (orderly : Orderly (some h) t) :
    h.number ≤ t.attempts := by
  obtain ⟨⟨call, member, yields⟩, -⟩ := orderly.1.live_iff.mpr rfl
  have bound := orderly.2 call member
  rwa [(handle_of_yields yields).2] at bound

theorem handles_append {calls : List Call} {call : Call} {n : Nat}
    (below : ∀ other ∈ calls, other.handle ≤ n) (bound : call.handle ≤ n) :
    ∀ other ∈ calls ++ [call], other.handle ≤ n := by
  intro other member
  rcases List.mem_append.mp member with old | last
  · exact below other old
  · rw [List.mem_singleton.mp last]
    exact bound

theorem orderly_preserves : p.traced.Preserves Orderly where
  acquire {t} orderly := by
    obtain ⟨before, below⟩ := orderly
    have new (other) (member : other ∈ t.calls) : other.handle ≠ t.attempts + 1 := by
      have bound := below other member
      omega
    have later (other) (member : other ∈ t.calls) : other.handle ≤ t.attempts + 1 :=
      Nat.le_succ_of_le (below other member)
    rcases acquired : p.acquire t.world with ⟨e | h, w⟩
    all_goals
      simp only [Provider.traced, acquired, Except.map]
      exact ⟨.acquire _ before rfl new, handles_append later (Nat.le_refl _)⟩
  dispose {h t} orderly :=
    ⟨.dispose (p.call .dispose h t _) orderly.1 rfl,
      handles_append orderly.2 orderly.number_le⟩
  start {h t} orderly :=
    ⟨.switch (p.call .start h t _) orderly.1 (Or.inl rfl),
      handles_append orderly.2 orderly.number_le⟩
  stop {h t} orderly :=
    ⟨.switch (p.call .stop h t _) orderly.1 (Or.inr rfl),
      handles_append orderly.2 orderly.number_le⟩

variable {s : Coordinator (Tagged η) × Traced ω}

theorem step_orderly (orderly : Orderly s.1.held s.2) (occurrence : Occurrence ω η) :
    Orderly (occurrence.traced.run p.traced s).1.held (occurrence.traced.run p.traced s).2 := by
  cases occurrence with
  | operation op => exact run_preserves orderly_preserves op orderly
  | change world handle =>
    have numbers : (s.1.held.map fun h => { h with handle := handle h.handle }).map Tagged.number =
        s.1.held.map Tagged.number := by
      rw [Option.map_map]
      rfl
    refine ⟨?_, orderly.2⟩
    change Disciplined s.2.calls ((s.1.held.map _).map Tagged.number)
    rw [numbers]
    exact orderly.1

theorem run_orderly (occurrences : List (Occurrence ω η)) :
    ∀ {s : Coordinator (Tagged η) × Traced ω}, Orderly s.1.held s.2 →
      let left := Occurrence.runAll p.traced s (occurrences.map Occurrence.traced)
      Orderly left.1.held left.2 := by
  induction occurrences with
  | nil =>
    intro s orderly
    exact orderly
  | cons occurrence rest ih =>
    intro s orderly
    exact ih (step_orderly orderly occurrence)

theorem forget_step (s : Coordinator (Tagged η) × Traced ω) (occurrence : Occurrence ω η) :
    forget (occurrence.traced.run p.traced s) = occurrence.run p (forget s) := by
  cases occurrence with
  | operation op => exact congrArg Prod.snd (erase_run_traced p s.1 s.2 op)
  | change world handle =>
    have handles : (s.1.held.map fun h => ({ h with handle := handle h.handle } : Tagged η)).map
        Tagged.handle = (s.1.held.map Tagged.handle).map handle := by
      rw [Option.map_map, Option.map_map]
      rfl
    simp only [forget, Occurrence.run, Occurrence.traced, untag, handles]

/-- The record makes no difference to a run. -/
theorem forget_run (occurrences : List (Occurrence ω η)) :
    ∀ s : Coordinator (Tagged η) × Traced ω,
      forget (Occurrence.runAll p.traced s (occurrences.map Occurrence.traced)) =
        Occurrence.runAll p (forget s) occurrences := by
  induction occurrences with
  | nil =>
    intro s
    rfl
  | cons occurrence rest ih =>
    intro s
    have first := forget_step (p := p) s occurrence
    have others := ih (occurrence.traced.run p.traced s)
    rw [first] at others
    exact others

/-- Over every run at most one handle is live at any moment, and between operations it is the one
held. A handle is acquired only while none is live, everything else is called on the live one, and
nothing on a handle after its disposal. A start is called on a handle just found or made initialized
that does not run, a stop on one that runs. Only the first subscription, the last one to end,
`start` and `stop` call anything. -/
theorem run_disciplined (p : Provider ω η) (destination : String) (w : ω)
    (occurrences : List (Occurrence ω η)) :
    let s := Occurrence.runAll p.traced ({ destination }, { world := w })
      (occurrences.map Occurrence.traced)
    let calls := s.2.calls
    forget s = Occurrence.runAll p ({ destination }, w) occurrences ∧
    (∀ earlier, earlier <+: calls → ∀ m n, Live earlier m → Live earlier n → m = n) ∧
    (∀ n, Live calls n ↔ ∃ h, s.1.held = some h ∧ h.number = n) ∧
    (∀ earlier call later, calls = earlier ++ call :: later →
      (call.kind = .acquire → ∀ n, ¬ Live earlier n) ∧
      (call.kind ≠ .acquire → Live earlier call.handle) ∧
      (call.kind = .dispose → ∀ other ∈ later, other.handle ≠ call.handle)) ∧
    ∀ op : Operation, ∃ made, (op.run p.traced s.1 s.2).2.2.calls = calls ++ made ∧
      Guarded (s.1.ready p s.2) made ∧ (made ≠ [] → op.Stirs s.1.members) := by
  intro s calls
  have fresh : Orderly (none : Option (Tagged η)) ({ world := w } : Traced ω) :=
    ⟨.nil, fun call member => absurd member List.not_mem_nil⟩
  have disciplined : Disciplined calls (s.1.held.map Tagged.number) :=
    (run_orderly occurrences (s := ({ destination }, { world := w })) fresh).1
  refine ⟨forget_run occurrences _, ?_, ?_, ?_, ?_⟩
  · intro earlier short m n first second
    obtain ⟨found, before⟩ := disciplined.of_prefix short
    exact Option.some.inj ((before.live_iff.mp first).symm.trans (before.live_iff.mp second))
  · intro n
    rw [disciplined.live_iff, Option.map_eq_some_iff]
  · intro earlier call later split
    obtain ⟨found, before, acquires, uses⟩ := disciplined.at_call split
    refine ⟨?_, fun used => before.live_iff.mpr (uses used), disciplined.disposed split⟩
    intro acquired n live
    have there := before.live_iff.mp live
    rw [(acquires acquired).1] at there
    cases there
  · intro op
    obtain ⟨made, course⟩ := course_run p s.1 s.2 op
    exact ⟨made, course.recorded, course.guarded, course.stirs⟩

/-- The disposal of a stale handle fails. The handle is lost and never called again, and the next
subscription into the empty set acquires another one. -/
theorem run_disciplined_after_failed_disposal :
    let invalidate (s : Script) : Script :=
      { s with invalidated := true, failures := [(.dispose, some (.failed "stuck"))] }
    let s := Occurrence.runAll Script.provider.traced ({ destination := "quotes" }, { world := {} })
      ([.operation .start, .change invalidate id, .operation (.subscribe "A"),
        .operation (.unsubscribe "A"), .operation (.subscribe "B")].map Occurrence.traced)
    s.2.calls.map (fun call => (call.kind, call.handle)) =
        [(.acquire, 1), (.dispose, 1), (.acquire, 2), (.start, 2)] ∧
      (∀ n, Live s.2.calls n ↔ n = 2) ∧ s.1.subscribers = ["B"] := by
  intro invalidate s
  obtain ⟨-, -, held, -, -⟩ := run_disciplined Script.provider "quotes" {}
    [.operation .start, .change invalidate id, .operation (.subscribe "A"),
      .operation (.unsubscribe "A"), .operation (.subscribe "B")]
  have number : s.1.held.map Tagged.number = some 2 := by decide
  refine ⟨by decide, fun n => (held n).trans ?_, by decide⟩
  rw [← Option.map_eq_some_iff, show _ = some 2 from number, Option.some.injEq, eq_comm]

end Run

end Switchboard.Coordinator
