import Mathlib.Data.List.Perm.Basic
import Switchboard.Broker
import Switchboard.Proofs.Attempt

/-!
# Operations that may be invoked

The options of an exported target are put together from lists of operations to include and to
exclude. `invoke_guarded` reads off the lists which operations may be invoked, in whatever order the
lists came, and says that the target is out of reach of all others.
-/

namespace Switchboard

namespace RemotingOptions

/-- A list of operations that options include or exclude. -/
inductive Clause
  | including (operations : List String)
  | excluding (operations : List String)
deriving DecidableEq

def Clause.apply (o : RemotingOptions) : Clause → RemotingOptions
  | including operations => o.including operations
  | excluding operations => o.excluding operations

/-- The options that clauses add up to, the first one first. -/
def ofClauses (clauses : List Clause) : RemotingOptions :=
  clauses.foldl Clause.apply {}

def Includes (clauses : List Clause) (operation : String) : Prop :=
  ∃ operations, .including operations ∈ clauses ∧ operation ∈ operations

def Excludes (clauses : List Clause) (operation : String) : Prop :=
  ∃ operations, .excluding operations ∈ clauses ∧ operation ∈ operations

/-- No operation is included by name. -/
def Unlimited (clauses : List Clause) : Prop :=
  ∀ operations, .including operations ∈ clauses → operations = []

def Permits (clauses : List Clause) (operation : String) : Prop :=
  ¬ Excludes clauses operation ∧ (Unlimited clauses ∨ Includes clauses operation)

variable {clauses others : List Clause} {operation : String}

/-! ### What clauses add up to -/

theorem mem_included_foldl (clauses : List Clause) (operation : String) : ∀ o : RemotingOptions,
    operation ∈ (clauses.foldl Clause.apply o).included ↔
      operation ∈ o.included ∨ Includes clauses operation := by
  induction clauses with
  | nil => simp [Includes]
  | cons clause rest ih =>
    intro o
    rw [List.foldl_cons, ih]
    cases clause with
    | including operations =>
      simp [Clause.apply, RemotingOptions.including, Includes, or_and_right, exists_or, or_assoc]
    | excluding operations => simp [Clause.apply, RemotingOptions.excluding, Includes]

theorem mem_excluded_foldl (clauses : List Clause) (operation : String) : ∀ o : RemotingOptions,
    operation ∈ (clauses.foldl Clause.apply o).excluded ↔
      operation ∈ o.excluded ∨ Excludes clauses operation := by
  induction clauses with
  | nil => simp [Excludes]
  | cons clause rest ih =>
    intro o
    rw [List.foldl_cons, ih]
    cases clause with
    | including operations => simp [Clause.apply, RemotingOptions.including, Excludes]
    | excluding operations =>
      simp [Clause.apply, RemotingOptions.excluding, Excludes, or_and_right, exists_or, or_assoc]

theorem mem_included_iff : operation ∈ (ofClauses clauses).included ↔ Includes clauses operation :=
  (mem_included_foldl clauses operation {}).trans (or_iff_right Std.ExtTreeSet.not_mem_empty)

theorem mem_excluded_iff : operation ∈ (ofClauses clauses).excluded ↔ Excludes clauses operation :=
  (mem_excluded_foldl clauses operation {}).trans (or_iff_right Std.ExtTreeSet.not_mem_empty)

/-- A list that is empty includes nothing by name, so it limits nothing. -/
theorem isEmpty_included_iff :
    (ofClauses clauses).included.isEmpty = true ↔ Unlimited clauses := by
  rw [Std.ExtTreeSet.isEmpty_iff, Std.ExtTreeSet.eq_empty_iff_forall_not_mem]
  simp only [mem_included_iff, Includes, Unlimited, not_exists, not_and,
    List.eq_nil_iff_forall_not_mem]
  exact ⟨fun free operations there operation => free operation operations there,
    fun free operation operations there => free operations there operation⟩

theorem allows_iff : (ofClauses clauses).allows operation = true ↔ Permits clauses operation := by
  rw [allows, Permits, Bool.and_eq_true, Bool.or_eq_true, Bool.not_eq_true', ← Bool.not_eq_true,
    Std.ExtTreeSet.contains_iff_mem, Std.ExtTreeSet.contains_iff_mem, isEmpty_included_iff,
    mem_included_iff, mem_excluded_iff]

theorem ofClauses_eq_of_perm (same : clauses.Perm others) :
    ofClauses clauses = ofClauses others := by
  have included : (ofClauses clauses).included = (ofClauses others).included := by
    refine Std.ExtTreeSet.ext_mem ?_
    intro operation
    simp only [mem_included_iff, Includes, same.mem_iff]
  have excluded : (ofClauses clauses).excluded = (ofClauses others).excluded := by
    refine Std.ExtTreeSet.ext_mem ?_
    intro operation
    simp only [mem_excluded_iff, Excludes, same.mem_iff]
  exact RemotingOptions.mk.injEq .. ▸ ⟨included, excluded⟩

theorem Excludes.append (excluded : Excludes clauses operation) (later : List Clause) :
    Excludes (clauses ++ later) operation := by
  obtain ⟨operations, there, named⟩ := excluded
  exact ⟨operations, List.mem_append_left later there, named⟩

end RemotingOptions

/-- Each invocation leaves one entry in the calls that the state of the application shows. -/
def Target.Records {ε : Type} (target : Target ε) (calls : ε → List (String × List Json)) : Prop :=
  ∀ operation args s,
    calls ((target operation args).exec s).2 = calls s ++ [(operation, args)]

namespace Exchange

open RemotingOptions

variable {α ε : Type} {x : Exchange α ε} {target : Target ε} {options : RemotingOptions}
  {request : Request} {operation : String} {args : List Json}

theorem exec_invoke_of_allowed (allowed : options.allows operation = true) (destination : String) :
    (invoke target options destination operation args).exec x =
      ((((target operation args).exec x.site.extra).1.mapError
          (·.withNote ("invoking '" ++ operation ++ "' on '" ++ destination ++ "'"))).map .result,
        { x with site :=
          { x.site with extra := ((target operation args).exec x.site.extra).2 } }) := by
  unfold invoke
  rw [if_pos allowed]
  simp only [bind_pure_comp, Attempt.exec_map, Attempt.exec_withNote]
  rfl

theorem exec_invoke_of_refused (refused : ¬ options.allows operation = true)
    (destination : String) :
    (invoke target options destination operation args).exec x =
      (.error (Failure.broker (.operationNotAllowed destination operation)), x) := by
  unfold invoke
  rw [if_neg refused]
  rfl

variable [MessagingAdapter α ε]

theorem exec_dispatch_remoting
    (there : x.registry.get? request.destination = some (.remoting target options))
    (asked : request.body = .invoke operation args) :
    (dispatch request).exec x =
      (invoke target options request.destination operation args).exec x := by
  unfold dispatch
  rw [Attempt.exec_bind, Attempt.exec_get]
  dsimp only
  rw [there, asked]

/-- A request reaches an exported target if and only if the clauses permit its operation: then the
target is called once, with the operation and the arguments of the request, and a failure of its own
comes back with one more note. Otherwise the state of the application is left as it was. Neither the
order of the clauses nor what is included later changes what is excluded. -/
theorem invoke_guarded {clauses : List Clause}
    (there : x.registry.get? request.destination = some (.remoting target (ofClauses clauses)))
    (asked : request.body = .invoke operation args) :
    let left := (dispatch request).exec x
    let call := (target operation args).exec x.site.extra
    (Permits clauses operation →
      left.2 = { x with site := { x.site with extra := call.2 } } ∧
      (∀ calls, target.Records calls →
        calls left.2.site.extra = calls x.site.extra ++ [(operation, args)]) ∧
      (∀ v, call.1 = .ok v → left.1 = .ok (.result v)) ∧
      ∀ f, call.1 = .error f → left.1 = .error ⟨f.cause, f.notes ++
        ["invoking '" ++ operation ++ "' on '" ++ request.destination ++ "'"]⟩) ∧
    (¬ Permits clauses operation → left =
      (.error (Failure.broker (.operationNotAllowed request.destination operation)), x)) ∧
    (∀ others, clauses.Perm others → ofClauses others = ofClauses clauses) ∧
    (Excludes clauses operation →
      ∀ later, (ofClauses (clauses ++ later)).allows operation = false) := by
  intro left call
  have answered : left = _ := exec_dispatch_remoting there asked
  refine ⟨?_, ?_, ?_, ?_⟩
  · intro permitted
    rw [exec_invoke_of_allowed (allows_iff.mpr permitted)] at answered
    have after : left.2 = { x with site := { x.site with extra := call.2 } } :=
      congrArg Prod.snd answered
    refine ⟨after, ?_, ?_, ?_⟩
    · intro calls records
      rw [after]
      exact records operation args x.site.extra
    · intro v succeeded
      have answer : left.1 = (call.1.mapError _).map .result := congrArg Prod.fst answered
      rw [answer, succeeded]
      rfl
    · intro f failed
      have answer : left.1 = (call.1.mapError _).map .result := congrArg Prod.fst answered
      rw [answer, failed]
      rfl
  · intro refused
    exact answered.trans (exec_invoke_of_refused (mt allows_iff.mp refused) request.destination)
  · intro others same
    exact (ofClauses_eq_of_perm same).symm
  · intro excluded later
    rw [← Bool.not_eq_true, allows_iff]
    exact fun permitted => permitted.1 (excluded.append later)

/-- What was excluded first stays so when it is included later, and an empty list includes nothing
more. A failure of the target keeps its own note. -/
theorem invoke_guarded_exclusion_first :
    let clauses : List Clause :=
      [.excluding ["reset"], .including ["sum", "reset"], .including []]
    let target : Target (List (String × List Json)) := fun operation args =>
      ExceptT.mk fun calls =>
        (.error ⟨.generic .timeout "no answer", ["computing"]⟩, calls ++ [(operation, args)])
    let x : Exchange ChannelAdapter (List (String × List Json)) :=
      { site := { hub := Hub.ofCapacity 16, extra := [] }
        registry :=
          ⟨Std.ExtTreeMap.insert ∅ "calc" (Destination.remoting target (ofClauses clauses))⟩ }
    let ask (operation : String) : Request :=
      { client := "A", destination := "calc", body := .invoke operation [.int 2] }
    ((dispatch (ask "sum")).exec x).1 = .error ⟨.generic .timeout "no answer",
      ["computing", "invoking 'sum' on 'calc'"]⟩ ∧
    ((dispatch (ask "sum")).exec x).2.site.extra = [("sum", [.int 2])] ∧
    (dispatch (ask "reset")).exec x =
      (.error (Failure.broker (.operationNotAllowed "calc" "reset")), x) ∧
    (dispatch (ask "null")).exec x =
      (.error (Failure.broker (.operationNotAllowed "calc" "null")), x) := by
  intro clauses target x ask
  have there : x.registry.get? "calc" = some (.remoting target (ofClauses clauses)) := by
    simp [x, Registry.get?]
  have body (operation : String) : (ask operation).body = .invoke operation [.int 2] := rfl
  have sum := invoke_guarded there (body "sum")
  have reset := invoke_guarded there (body "reset")
  have null := invoke_guarded there (body "null")
  obtain ⟨-, recorded, -, failed⟩ := sum.1 (by simp [Permits, Excludes, Includes, clauses])
  refine ⟨failed _ rfl, ?_, ?_, ?_⟩
  · exact recorded (fun calls => calls) fun operation args s => rfl
  · exact reset.2.1 (by simp [Permits, Excludes, clauses])
  · exact null.2.1 (by simp [Permits, Includes, Unlimited, clauses])

end Exchange

end Switchboard
