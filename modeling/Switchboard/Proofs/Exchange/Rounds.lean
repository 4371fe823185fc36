import Switchboard.Broker
import Switchboard.Proofs.Attempt

/-!
# Rounds over the adapters

Adapters are called one after the other, and each call finds the adapters and the site as the calls
before it left them. A round that all have their turn in misses none of them whatever the calls come
to (`round_onEach`); one that ends early ends with the first failure (`trial_onEachUntil`).
-/

namespace Switchboard

namespace Registry

variable {α ε : Type} {r : Registry α ε} {id : String} {a : α}

theorem mem_adapters : (id, a) ∈ r.adapters ↔ (r.get? id).bind Destination.adapter? = some a := by
  unfold adapters
  rw [List.mem_filterMap]
  constructor
  · rintro ⟨⟨id', d⟩, found, messaging⟩
    obtain ⟨a', there, same⟩ := Option.map_eq_some_iff.mp messaging
    cases same
    rw [Std.ExtTreeMap.mem_toList_iff_getElem?_eq_some] at found
    exact Option.bind_eq_some_iff.mpr ⟨d, found, there⟩
  · intro there
    obtain ⟨d, found, adapter⟩ := Option.bind_eq_some_iff.mp there
    exact ⟨(id, d), Std.ExtTreeMap.mem_toList_iff_getElem?_eq_some.mpr found,
      congrArg (Option.map (id, ·)) adapter⟩

theorem adapters_ascending (r : Registry α ε) : (r.adapters.map (·.1)).Pairwise (· < ·) := by
  unfold adapters
  rw [List.map_filterMap, List.pairwise_filterMap]
  refine Std.ExtTreeMap.ordered_keys_toList.imp ?_
  intro d d' before id there id' there'
  have named {d : String × Destination α ε} {id : String}
      (there : (d.2.adapter?.map (d.1, ·)).map (·.1) = some id) : d.1 = id := by
    obtain ⟨entry, found, rfl⟩ := Option.map_eq_some_iff.mp there
    obtain ⟨a, -, rfl⟩ := Option.map_eq_some_iff.mp found
    rfl
  rw [← named there, ← named there']
  exact compareOfLessAndEq_eq_lt.mp before

end Registry

namespace Exchange

variable {α ε : Type}

def adapter? (x : Exchange α ε) (id : String) : Option α :=
  (x.registry.get? id).bind Destination.adapter?

structure Call where
  id : String
  outcome : Except Failure Unit

/-- The first failure among some calls. -/
def firstFailure : List Call → Except Failure Unit
  | [] => .ok ()
  | call :: rest =>
    match call.outcome with
    | .ok () => firstFailure rest
    | .error f => .error f

/-- From `x`, the adapters with the ids of `calls` are called one after the other, which comes to
the outcomes of `calls` and leads to the last exchange. -/
inductive Calls (op : Attempt (α × Site ε) Unit) : Exchange α ε → List Call → Exchange α ε → Prop
  | nil (x : Exchange α ε) : Calls op x [] x
  | cons {x y : Exchange α ε} {id : String} {a : α} {rest : List Call}
      (found : x.adapter? id = some a) (others : Calls op ((withAdapter id a op).exec x).2 rest y) :
      Calls op x (⟨id, ((withAdapter id a op).exec x).1⟩ :: rest) y

/-- From `x` to `y`, each adapter whose id satisfies `P` is called once, in ascending order of the
ids, whatever becomes of the other calls. -/
structure Round (op : Attempt (α × Site ε) Unit) (P : String → Prop) (x : Exchange α ε)
    (calls : List Call) (y : Exchange α ε) : Prop where
  made : Calls op x calls y
  ascending : (calls.map Call.id).Pairwise (· < ·)
  covers (id : String) : id ∈ calls.map Call.id ↔ P id ∧ (x.adapter? id).isSome

/-- From `x` to `y`, the adapters are called in ascending order of their ids up to the first call
that fails. -/
structure Trial (op : Attempt (α × Site ε) Unit) (x : Exchange α ε) (calls : List Call)
    (y : Exchange α ε) : Prop where
  made : Calls op x calls y
  ascending : (calls.map Call.id).Pairwise (· < ·)
  known (id : String) (called : id ∈ calls.map Call.id) : (x.adapter? id).isSome
  /-- No adapter is passed over on the way. -/
  skips {id other : String} (called : id ∈ calls.map Call.id) (before : other < id)
    (known : (x.adapter? other).isSome) : other ∈ calls.map Call.id
  /-- Nothing follows a failure. -/
  stops (call : Call) (early : call ∈ calls.dropLast) : call.outcome = .ok ()
  completes (succeeded : firstFailure calls = .ok ()) (id : String)
    (known : (x.adapter? id).isSome) : id ∈ calls.map Call.id

variable {op : Attempt (α × Site ε) Unit} {x y : Exchange α ε} {id : String} {a : α}
  {calls : List Call}

theorem messagingIds_ascending (x : Exchange α ε) : x.messagingIds.Pairwise (· < ·) :=
  x.registry.adapters_ascending

theorem mem_messagingIds_iff : id ∈ x.messagingIds ↔ (x.adapter? id).isSome := by
  rw [Option.isSome_iff_exists]
  constructor
  · intro listed
    obtain ⟨⟨_, a⟩, found, rfl⟩ := List.mem_map.mp listed
    exact ⟨a, Registry.mem_adapters.mp found⟩
  · rintro ⟨a, found⟩
    exact List.mem_map.mpr ⟨(id, a), Registry.mem_adapters.mpr found, rfl⟩

/-! ### One call -/

theorem run_onAdapter?_of_free (free : x.adapter? id = none) :
    (onAdapter? id op).run x = (none, x) := by
  have nobody : (x.registry.get? id).bind Destination.adapter? = none := free
  simp [onAdapter?, nobody]

theorem run_onAdapter?_of_adapter (found : x.adapter? id = some a) :
    (onAdapter? id op).run x =
      (some ((withAdapter id a op).exec x).1, ((withAdapter id a op).exec x).2) := by
  have there : (x.registry.get? id).bind Destination.adapter? = some a := found
  simp [onAdapter?, there, Attempt.outcome]

/-- A call changes an adapter, but not which ids have one. -/
theorem isSome_adapter?_withAdapter (op : Attempt (α × Site ε) Unit)
    (found : x.adapter? id = some a) (other : String) :
    (((withAdapter id a op).exec x).2.adapter? other).isSome = (x.adapter? other).isSome := by
  change (((x.registry.destinations.insert id _)[other]?).bind Destination.adapter?).isSome = _
  rw [Std.ExtTreeMap.getElem?_insert]
  simp only [Std.LawfulEqCmp.compare_eq_iff_eq]
  split
  · rename_i same
    rw [← same, found]
    rfl
  · rfl

theorem Calls.delivery (made : Calls op x calls y) : y.delivery = x.delivery := by
  induction made with
  | nil => rfl
  | cons found others ih => exact ih

/-! ### Rounds -/

theorem run_onEach_cons (id : String) (rest : List String) (x : Exchange α ε) :
    (onEach op (id :: rest)).run x =
      let first := (onAdapter? id op).run x
      let others := (onEach op rest).run first.2
      (match first.1 with
        | some (.error f) => .error f
        | _ => others.1, others.2) := by
  rcases outcome : (onAdapter? id op).run x with ⟨result, x'⟩
  rw [onEach]
  simp only [StateT.run_bind, id_bind, outcome]
  rcases result with _ | _ | _ <;> rfl

theorem exec_onEachUntil_cons (id : String) (rest : List String) (x : Exchange α ε) :
    (onEachUntil op (id :: rest)).exec x =
      match (onAdapter? id op).run x with
      | (some (.error f), x) => (.error f, x)
      | (_, x) => (onEachUntil op rest).exec x := by
  rcases outcome : (onAdapter? id op).run x with ⟨result, x'⟩
  rw [onEachUntil]
  simp only [Attempt.exec, ExceptT.run_bind, StateT.run_bind]
  rcases result with _ | _ | _ <;> simp [outcome]

/-- All ids that have an adapter have their turn. -/
theorem calls_onEach (op : Attempt (α × Site ε) Unit) (ids : List String) :
    ∀ x : Exchange α ε, ∃ calls,
    Calls op x calls ((onEach op ids).run x).2 ∧
      ((onEach op ids).run x).1 = firstFailure calls ∧
      calls.map Call.id = ids.filter fun id => (x.adapter? id).isSome := by
  induction ids with
  | nil => exact fun x => ⟨[], .nil x, rfl, rfl⟩
  | cons id rest ih =>
    intro x
    rw [run_onEach_cons]
    cases found : x.adapter? id with
    | none =>
      rw [run_onAdapter?_of_free found, List.filter_cons_of_neg (by simp [found])]
      exact ih x
    | some a =>
      rw [run_onAdapter?_of_adapter found, List.filter_cons_of_pos (by simp [found])]
      obtain ⟨calls, made, outcome, called⟩ := ih ((withAdapter id a op).exec x).2
      refine ⟨⟨id, ((withAdapter id a op).exec x).1⟩ :: calls, .cons found made, ?_, ?_⟩
      · rcases failed : ((withAdapter id a op).exec x).1 with f | ⟨⟨⟩⟩
        · simp [firstFailure]
        · simpa [firstFailure, failed] using outcome
      · rw [List.map_cons, called]
        simp only [isSome_adapter?_withAdapter op found]

theorem round_onEach (op : Attempt (α × Site ε) Unit) {ids : List String}
    (ascending : ids.Pairwise (· < ·)) (x : Exchange α ε) :
    ∃ calls, Round op (· ∈ ids) x calls ((onEach op ids).run x).2 ∧
      ((onEach op ids).run x).1 = firstFailure calls := by
  obtain ⟨calls, made, outcome, called⟩ := calls_onEach op ids x
  refine ⟨calls, ⟨made, ?_, ?_⟩, outcome⟩
  · rw [called]
    exact ascending.filter _
  · intro id
    rw [called, List.mem_filter]

/-- Those ids that have an adapter have their turn, up to the first failure. -/
theorem calls_onEachUntil (op : Attempt (α × Site ε) Unit) (ids : List String) :
    ∀ x : Exchange α ε, ∃ calls,
    Calls op x calls ((onEachUntil op ids).exec x).2 ∧
      ((onEachUntil op ids).exec x).1 = firstFailure calls ∧
      calls.map Call.id <+: ids.filter (fun id => (x.adapter? id).isSome) ∧
      (∀ call ∈ calls.dropLast, call.outcome = .ok ()) ∧
      (firstFailure calls = .ok () →
        calls.map Call.id = ids.filter fun id => (x.adapter? id).isSome) := by
  induction ids with
  | nil => exact fun x => ⟨[], .nil x, rfl, List.prefix_rfl, by simp, fun _ => rfl⟩
  | cons id rest ih =>
    intro x
    rw [exec_onEachUntil_cons]
    cases found : x.adapter? id with
    | none =>
      rw [run_onAdapter?_of_free found, List.filter_cons_of_neg (by simp [found])]
      exact ih x
    | some a =>
      rw [run_onAdapter?_of_adapter found, List.filter_cons_of_pos (by simp [found])]
      rcases outcome : (withAdapter id a op).exec x with ⟨f | ⟨⟨⟩⟩, x'⟩
      · -- the ids after a failure are not called
        refine ⟨[⟨id, .error f⟩], ?_, rfl, ?_, by simp, fun succeeded => by cases succeeded⟩
        · have made : Calls op x [⟨id, ((withAdapter id a op).exec x).1⟩] _ := .cons found (.nil _)
          rwa [outcome] at made
        · exact List.cons_prefix_cons.mpr ⟨rfl, List.nil_prefix⟩
      · obtain ⟨calls, made, failure, front, stops, completes⟩ := ih x'
        have kept (other : String) : (x'.adapter? other).isSome = (x.adapter? other).isSome := by
          rw [← isSome_adapter?_withAdapter op found, outcome]
        simp only [kept] at front completes
        refine ⟨⟨id, .ok ()⟩ :: calls, ?_, failure, ?_, ?_, ?_⟩
        · have first : Calls op x (⟨id, ((withAdapter id a op).exec x).1⟩ :: calls) _ :=
            .cons found (by rwa [outcome])
          rwa [outcome] at first
        · exact List.cons_prefix_cons.mpr ⟨rfl, front⟩
        · intro call early
          cases calls with
          | nil => cases early
          | cons next others =>
            rcases List.mem_cons.mp early with rfl | later
            · rfl
            · exact stops call later
        · intro succeeded
          rw [List.map_cons, completes succeeded]

theorem trial_onEachUntil (op : Attempt (α × Site ε) Unit) (x : Exchange α ε) : ∃ calls,
    Trial op x calls ((onEachUntil op x.messagingIds).exec x).2 ∧
      ((onEachUntil op x.messagingIds).exec x).1 = firstFailure calls := by
  obtain ⟨calls, made, outcome, front, stops, completes⟩ :=
    calls_onEachUntil op x.messagingIds x
  have all : (x.messagingIds.filter fun id => (x.adapter? id).isSome) = x.messagingIds := by
    rw [List.filter_eq_self]
    exact fun id listed => mem_messagingIds_iff.mp listed
  rw [all] at front completes
  have ascending := x.messagingIds_ascending
  refine ⟨calls, ⟨made, ascending.sublist front.sublist, ?_, ?_, stops, ?_⟩, outcome⟩
  · exact fun id called => mem_messagingIds_iff.mp (front.subset called)
  · intro id other called before known
    obtain ⟨rest, split⟩ := front
    have listed := mem_messagingIds_iff.mpr known
    rw [← split] at listed ascending
    rcases List.mem_append.mp listed with first | later
    · exact first
    · have after := (List.pairwise_append.mp ascending).2.2 id called other later
      exact absurd before (String.lt_asymm after)
  · intro succeeded id known
    rw [completes succeeded]
    exact mem_messagingIds_iff.mpr known

end Exchange

end Switchboard
