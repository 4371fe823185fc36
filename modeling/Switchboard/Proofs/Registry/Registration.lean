import Mathlib.Data.List.Dedup
import Mathlib.Data.List.Induction
import Switchboard.Proofs.Exchange.Rounds

/-!
# Registration

Adapters and exported targets share one set of ids. Whatever calls are made in whatever order, the
first one about an id stands, and each later one fails without a trace
(`first_registration_stands`).
-/

namespace Switchboard

/-- A call that asks for a destination to be registered. -/
inductive Registration (α ε : Type)
  | messaging (adapter : α)
  | remoting (id : String) (target : Target ε) (options : RemotingOptions)

namespace Registration

variable {α ε : Type} [MessagingAdapter α ε]

def id : Registration α ε → String
  | messaging adapter => MessagingAdapter.destination ε adapter
  | remoting id .. => id

def destination : Registration α ε → Destination α ε
  | messaging adapter => .messaging adapter
  | remoting _ target options => .remoting target options

/-- The outcome of the call and the registry that is left. -/
def run (c : Registration α ε) (r : Registry α ε) : Except Failure Unit × Registry α ε :=
  let answer := match c with
    | messaging adapter => r.registerMessaging adapter
    | remoting id target options => r.registerRemoting id target options
  match answer with
  | .ok r => (.ok (), r)
  | .error f => (.error f, r)

/-- The registry that calls fill, the first one first. -/
def runAll (calls : List (Registration α ε)) : Registry α ε :=
  calls.foldl (fun r c => (c.run r).2) {}

/-- One of the calls was about the id and succeeded. -/
def Taken (calls : List (Registration α ε)) (id : String) : Prop :=
  ∃ front c rest, calls = front ++ c :: rest ∧ c.id = id ∧ (c.run (runAll front)).1 = .ok ()

variable {c : Registration α ε} {r : Registry α ε} {calls : List (Registration α ε)} {id : String}

/-! ### One call -/

theorem run_eq (c : Registration α ε) (r : Registry α ε) :
    c.run r = match r.register c.id c.destination with
      | .ok r => (.ok (), r)
      | .error f => (.error f, r) := by
  cases c <;> rfl

theorem run_of_taken (taken : r.get? c.id ≠ none) :
    c.run r = (.error (Failure.broker (.duplicateDestination c.id)), r) := by
  have there : r.destinations.contains c.id = true := by
    rw [Std.ExtTreeMap.contains_eq_isSome_getElem?, Option.isSome_iff_ne_none]
    exact taken
  rw [run_eq, Registry.register, if_pos there]

theorem run_of_free (free : r.get? c.id = none) :
    c.run r = (.ok (), ⟨r.destinations.insert c.id c.destination⟩) := by
  have absent : ¬ r.destinations.contains c.id = true := by
    rw [Std.ExtTreeMap.contains_eq_isSome_getElem?, Option.isSome_iff_ne_none, not_not]
    exact free
  rw [run_eq, Registry.register, if_neg absent]

theorem run_ok_iff : (c.run r).1 = .ok () ↔ r.get? c.id = none := by
  by_cases free : r.get? c.id = none
  · rw [run_of_free free]
    exact iff_of_true rfl free
  · rw [run_of_taken free]
    exact iff_of_false nofun free

/-- What was registered stays, and an id that was free leads to the new destination. -/
theorem get?_run (c : Registration α ε) (r : Registry α ε) (id : String) :
    (c.run r).2.get? id = (r.get? id).or (if c.id = id then some c.destination else none) := by
  by_cases free : r.get? c.id = none
  · rw [run_of_free free]
    simp only [Registry.get?, Std.ExtTreeMap.getElem?_insert, Std.LawfulEqCmp.compare_eq_iff_eq]
    split
    · rename_i same
      subst same
      rw [show r.destinations[c.id]? = none from free, Option.none_or]
    · rw [Option.or_none]
  · rw [run_of_taken free]
    split
    · rename_i same
      subst same
      exact (Option.or_of_isSome (Option.isSome_iff_ne_none.mpr free)).symm
    · rw [Option.or_none]

/-! ### All calls -/

theorem runAll_concat (calls : List (Registration α ε)) (c : Registration α ε) :
    runAll (calls ++ [c]) = (c.run (runAll calls)).2 := by
  simp [runAll]

theorem get?_runAll (calls : List (Registration α ε)) (id : String) :
    (runAll calls).get? id = (calls.find? fun c => c.id = id).map destination := by
  induction calls using List.reverseRecOn with
  | nil => exact Std.ExtTreeMap.getElem?_empty
  | append_singleton calls c ih =>
    rw [runAll_concat, get?_run, ih, List.find?_append, Option.map_or, List.find?_singleton]
    by_cases same : c.id = id <;> simp [same]

theorem get?_runAll_ne_none_iff :
    (runAll calls).get? id ≠ none ↔ ∃ c ∈ calls, c.id = id := by
  rw [get?_runAll, ne_eq, Option.map_eq_none_iff, List.find?_eq_none]
  simp

/-- Of the calls about an id, the first one succeeded. -/
theorem taken_iff : Taken calls id ↔ ∃ c ∈ calls, c.id = id := by
  constructor
  · rintro ⟨front, c, rest, rfl, same, -⟩
    exact ⟨c, List.mem_append_right front List.mem_cons_self, same⟩
  · intro asked
    rw [← get?_runAll_ne_none_iff, get?_runAll, ne_eq, Option.map_eq_none_iff] at asked
    obtain ⟨c, found⟩ := Option.ne_none_iff_exists'.mp asked
    obtain ⟨same, front, rest, split, others⟩ := List.find?_eq_some_iff_append.mp found
    have same : c.id = id := of_decide_eq_true same
    refine ⟨front, c, rest, split, same, ?_⟩
    rw [run_ok_iff, same, get?_runAll, Option.map_eq_none_iff, List.find?_eq_none]
    intro c' before about
    simpa [of_decide_eq_true about] using others c' before

end Registration

/-! ### Views of a registry -/

namespace Registry

variable {α ε : Type} {r : Registry α ε} {id : String}

theorem mem_ids_iff : id ∈ r.ids ↔ r.get? id ≠ none := by
  rw [ids, Std.ExtTreeMap.mem_keys, ← Std.ExtTreeMap.contains_iff_mem,
    Std.ExtTreeMap.contains_eq_isSome_getElem?, Option.isSome_iff_ne_none]
  rfl

theorem ids_ascending (r : Registry α ε) : r.ids.Pairwise (· < ·) := by
  refine Std.ExtTreeMap.ordered_keys.imp ?_
  intro a b before
  exact compareOfLessAndEq_eq_lt.mp before

/-- The adapters are listed in the order of the ids. -/
theorem adapters_eq (r : Registry α ε) :
    r.adapters = r.ids.filterMap fun id => ((r.get? id).bind Destination.adapter?).map (id, ·) := by
  have keys : r.ids = r.destinations.toList.map Prod.fst :=
    Std.ExtTreeMap.map_fst_toList_eq_keys.symm
  rw [adapters, keys, List.filterMap_map]
  refine List.filterMap_congr ?_
  rintro ⟨id, d⟩ listed
  have found : r.get? id = some d := Std.ExtTreeMap.mem_toList_iff_getElem?_eq_some.mp listed
  rw [Function.comp_apply, found]
  rfl

end Registry

namespace Registration

variable {α ε : Type} [MessagingAdapter α ε]

theorem size_runAll (calls : List (Registration α ε)) :
    (runAll calls).size = (calls.map Registration.id).dedup.length := by
  have listed : (runAll calls).ids.Perm (calls.map Registration.id).dedup := by
    rw [List.perm_ext_iff_of_nodup ((runAll calls).ids_ascending.imp String.ne_of_lt)
      (List.nodup_dedup _)]
    intro id
    rw [Registry.mem_ids_iff, get?_runAll_ne_none_iff, List.mem_dedup, List.mem_map]
  rw [← listed.length_eq]
  exact Std.ExtTreeMap.length_keys.symm

/-- Over every sequence of calls, one fails if and only if an earlier one for the same id succeeded,
of whichever kind the two are. The failure names the id, and the registry is left as it was. An id
leads to the destination of the first call about it, and the ids and the adapters are listed once
each in ascending order. -/
theorem first_registration_stands (calls : List (Registration α ε)) :
    (∀ c : Registration α ε,
      ((c.run (runAll calls)).1 = .ok () ↔ ¬ Taken calls c.id) ∧
      ∀ f, (c.run (runAll calls)).1 = .error f →
        f = Failure.broker (.duplicateDestination c.id) ∧ f.status = .alreadyExists ∧
        (c.run (runAll calls)).2 = runAll calls) ∧
    (∀ id, (runAll calls).get? id = (calls.find? fun c => c.id = id).map destination) ∧
    (runAll calls).size = (calls.map Registration.id).dedup.length ∧
    (runAll calls).ids.Pairwise (· < ·) ∧
    (∀ id, id ∈ (runAll calls).ids ↔ ∃ c ∈ calls, c.id = id) ∧
    (runAll calls).adapters = (runAll calls).ids.filterMap fun id =>
      (((runAll calls).get? id).bind Destination.adapter?).map (id, ·) := by
  refine ⟨?_, get?_runAll calls, size_runAll calls, Registry.ids_ascending _, ?_,
    Registry.adapters_eq _⟩
  · intro c
    refine ⟨?_, ?_⟩
    · rw [run_ok_iff, taken_iff, ← get?_runAll_ne_none_iff, not_not]
    · intro f failed
      have taken : (runAll calls).get? c.id ≠ none := by
        intro free
        rw [run_of_free free] at failed
        cases failed
      rw [run_of_taken taken] at failed ⊢
      cases failed
      exact ⟨rfl, rfl, rfl⟩
  · intro id
    rw [Registry.mem_ids_iff, get?_runAll_ne_none_iff]

end Registration

end Switchboard
