import Mathlib.Data.List.Induction
import Switchboard.Proofs.Lifecycle.Discipline

/-!
# Who is subscribed

The subscribers of a coordinator are decided by the calls made to it and by nothing else. What
becomes of the listener, and whether a call reports a failure, makes no difference
(`run_membership`).
-/

namespace Switchboard.Coordinator

variable {ω η : Type}

def Occurrence.operation? : Occurrence ω η → Option Operation
  | operation op => some op
  | change _ _ => none

def Operation.concerns (id : String) : Operation → Bool
  | subscribe other | unsubscribe other => other = id
  | start | stop => false

def Operation.membersAfter (ops : List Operation) (members : Std.ExtTreeSet String) :
    Std.ExtTreeSet String :=
  ops.foldl (fun members op => op.members members) members

theorem step_members (p : Provider ω η) (s : Coordinator η × ω) (occurrence : Occurrence ω η) :
    (occurrence.run p s).1.members =
      Operation.membersAfter occurrence.operation?.toList s.1.members := by
  cases occurrence with
  | operation op => exact run_members p op s.1 s.2
  | change world handle => rfl

theorem runAll_members (p : Provider ω η) (occurrences : List (Occurrence ω η)) :
    ∀ s : Coordinator η × ω, (Occurrence.runAll p s occurrences).1.members =
      Operation.membersAfter (occurrences.filterMap Occurrence.operation?) s.1.members := by
  induction occurrences with
  | nil =>
    intro s
    rfl
  | cons occurrence rest ih =>
    intro s
    have first := step_members p s occurrence
    have others := ih (occurrence.run p s)
    rw [first] at others
    cases occurrence with
    | operation op => exact others
    | change world handle => exact others

theorem mem_members_iff (op : Operation) (members : Std.ExtTreeSet String) (id : String) :
    id ∈ op.members members ↔ if op.concerns id then op = .subscribe id else id ∈ members := by
  cases op with
  | subscribe other =>
    by_cases same : other = id <;> simp [Operation.members, Operation.concerns, same]
  | unsubscribe other =>
    by_cases same : other = id <;> simp [Operation.members, Operation.concerns, same]
  | start | stop => simp [Operation.members, Operation.concerns]

/-- The last call about an id decides whether it is a member. -/
theorem mem_membersAfter_iff (ops : List Operation) (members : Std.ExtTreeSet String)
    (id : String) : id ∈ Operation.membersAfter ops members ↔
      ((ops.filter (·.concerns id)).getLast?).elim (id ∈ members) (· = .subscribe id) := by
  induction ops using List.reverseRecOn with
  | nil => rfl
  | append_singleton ops op ih =>
    have last : id ∈ Operation.membersAfter (ops ++ [op]) members ↔
        id ∈ op.members (Operation.membersAfter ops members) := by
      rw [Operation.membersAfter, List.foldl_append]
      rfl
    rw [last, mem_members_iff, List.filter_append]
    by_cases about : op.concerns id = true
    · simp [about]
    · simpa [about] using ih

theorem mem_subscribers_iff (c : Coordinator η) (id : String) :
    id ∈ c.subscribers ↔ c.isSubscribed id = true :=
  Std.ExtTreeSet.mem_toList.trans Std.ExtTreeSet.contains_iff_mem.symm

theorem subscribers_ascending (c : Coordinator η) : c.subscribers.Pairwise (· < ·) := by
  refine Std.ExtTreeSet.ordered_toList.imp ?_
  intro a b before
  exact compareOfLessAndEq_eq_lt.mp before

theorem subscribers_nodup (c : Coordinator η) : c.subscribers.Nodup :=
  (subscribers_ascending c).imp String.ne_of_lt

/-- Over every run, whatever its calls come to, an id is subscribed if and only if the last call
about it was a `subscribe`; `start` and `stop` leave the subscribers alone. Their number, their list
and the question whether one is among them agree, and the list ascends without repetition. -/
theorem run_membership (p : Provider ω η) (destination : String) (w : ω)
    (occurrences : List (Occurrence ω η)) :
    let s := Occurrence.runAll p ({ destination }, w) occurrences
    let calls := occurrences.filterMap Occurrence.operation?
    (∀ id, s.1.isSubscribed id = true ↔
      (calls.filter (·.concerns id)).getLast? = some (.subscribe id)) ∧
    (∀ op : Operation, op = .start ∨ op = .stop →
      (op.run p s.1 s.2).2.1.subscribers = s.1.subscribers) ∧
    s.1.subscriberCount = s.1.subscribers.length ∧
    (∀ id, id ∈ s.1.subscribers ↔ s.1.isSubscribed id = true) ∧
    s.1.subscribers.Pairwise (· < ·) ∧ s.1.subscribers.Nodup := by
  intro s calls
  refine ⟨?_, ?_, Std.ExtTreeSet.length_toList.symm, mem_subscribers_iff s.1,
    subscribers_ascending s.1, subscribers_nodup s.1⟩
  · intro id
    have members : s.1.members = Operation.membersAfter calls ∅ := runAll_members p occurrences _
    rw [isSubscribed, Std.ExtTreeSet.contains_iff_mem, members, mem_membersAfter_iff]
    cases (calls.filter (·.concerns id)).getLast? <;> simp
  · intro op idle
    have kept : (op.run p s.1 s.2).2.1.members = s.1.members := by
      rw [run_members]
      rcases idle with rfl | rfl <;> rfl
    rw [subscribers, kept, subscribers]

end Switchboard.Coordinator
