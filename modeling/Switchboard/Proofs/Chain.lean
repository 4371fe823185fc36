import Switchboard.Chain.Basic
import Switchboard.Proofs.Attempt

/-!
# Chains that keep to themselves

The stages that the broker provides look at requests, responses and failures. As long as the
interceptors and converters given to them leave a part of the state alone, that part is changed by
the endpoint or not at all, and the endpoint answers at most once.
-/

namespace Switchboard

variable {σ κ : Type}

/-- A provided stage that leaves the `view` of the state alone. -/
def Stage.Leaves (view : σ → κ) : Stage σ → Prop
  | interception interceptors => ∀ i ∈ interceptors,
      (∀ request s, view ((i.before request).exec s).2 = view s) ∧
        ∀ request response s, view ((i.after request response).exec s).2 = view s
  | conversion converters => ∀ c ∈ converters, ∀ f s, view ((c.convert f).run s).2 = view s
  | authorization _ => True
  | custom _ => False

/-- What `next` does to the view, `endpoint` did, asked at most once in a state of the same
view. -/
def AnswersOnce (view : σ → κ) (endpoint next : Endpoint σ) : Prop :=
  ∀ request s, view ((next request).exec s).2 = view s ∨
    ∃ request' s', view s' = view s ∧
      view ((next request).exec s).2 = view ((endpoint request').exec s').2

variable {view : σ → κ} {endpoint next : Endpoint σ}

theorem AnswersOnce.self (endpoint : Endpoint σ) : AnswersOnce view endpoint endpoint :=
  fun request s => Or.inr ⟨request, s, rfl, rfl⟩

theorem AnswersOnce.between (once : AnswersOnce view endpoint next) {request : Request} {s s' t : σ}
    (before : view s' = view s) (after : view t = view ((next request).exec s').2) :
    view t = view s ∨ ∃ request' s', view s' = view s ∧
      view t = view ((endpoint request').exec s').2 := by
  rcases once request s' with same | ⟨request', u, reached, answered⟩
  · exact Or.inl (after.trans (same.trans before))
  · exact Or.inr ⟨request', u, reached.trans before, after.trans answered⟩

/-! ### The provided stages -/

theorem beforeAll_eq_foldlM (interceptors : List (Interceptor σ)) (request : Request) :
    Interceptor.beforeAll interceptors request =
      interceptors.foldlM (fun request i => i.before request) request := by
  induction interceptors generalizing request with
  | nil => rfl
  | cons i rest ih =>
    rw [Interceptor.beforeAll, List.foldlM_cons]
    exact congrArg _ (funext ih)

theorem beforeAll_leaves {interceptors : List (Interceptor σ)}
    (leaves : ∀ i ∈ interceptors, ∀ request s, view ((i.before request).exec s).2 = view s) :
    ∀ request s, view ((Interceptor.beforeAll interceptors request).exec s).2 = view s := by
  induction interceptors with
  | nil =>
    intro request s
    rfl
  | cons i rest ih =>
    intro request s
    have first := leaves i List.mem_cons_self request s
    have others := ih fun j there => leaves j (List.mem_cons_of_mem i there)
    rw [Interceptor.beforeAll, Attempt.exec_bind]
    split
    · rename_i changed s' reached
      rw [reached] at first
      exact (others changed s').trans first
    · rename_i f s' reached
      rw [reached] at first
      exact first

theorem afterAll_leaves {interceptors : List (Interceptor σ)} {request : Request}
    (leaves : ∀ i ∈ interceptors, ∀ response s,
      view ((i.after request response).exec s).2 = view s) :
    ∀ response s,
      view ((Interceptor.afterAll request interceptors response).exec s).2 = view s := by
  induction interceptors with
  | nil =>
    intro response s
    rfl
  | cons i rest ih =>
    intro response s
    have others := ih (fun j there => leaves j (List.mem_cons_of_mem i there)) response s
    rw [Interceptor.afterAll, Attempt.exec_bind]
    split
    · rename_i replaced s' reached
      rw [reached] at others
      exact (leaves i List.mem_cons_self replaced s').trans others
    · rename_i f s' reached
      rw [reached] at others
      exact others

theorem apply_leaves {converters : List (Converter σ)}
    (leaves : ∀ c ∈ converters, ∀ f s, view ((c.convert f).run s).2 = view s) (f : Failure)
    (s : σ) : view ((Converter.apply converters f).run s).2 = view s := by
  unfold Converter.apply
  split
  · rfl
  · rename_i c found
    exact leaves c (List.mem_of_find?_eq_some found) f s

theorem intercept_once {interceptors : List (Interceptor σ)}
    (leaves : (Stage.interception interceptors).Leaves view)
    (once : AnswersOnce view endpoint next) :
    AnswersOnce view endpoint (Interceptor.intercept interceptors next) := by
  intro request s
  have before := beforeAll_leaves (fun i there => (leaves i there).1) request s
  have after (request) := afterAll_leaves fun i there => (leaves i there).2 request
  unfold Interceptor.intercept
  rw [Attempt.exec_bind]
  split
  · rename_i processed s' reached
    rw [reached] at before
    rw [Attempt.exec_bind]
    split
    · rename_i response s'' answered
      refine once.between before (?_ : _ = view ((next processed).exec s').2)
      rw [answered]
      exact after processed response s''
    · rename_i f s'' answered
      refine once.between before (?_ : _ = view ((next processed).exec s').2)
      rw [answered]
  · rename_i f s' reached
    rw [reached] at before
    exact Or.inl before

theorem exec_guarded (converters : List (Converter σ)) (next : Endpoint σ) (request : Request)
    (s : σ) : (Converter.guarded converters next request).exec s =
      match (next request).exec s with
      | (.ok response, s) => (.ok response, s)
      | (.error f, s) =>
        let left := (Converter.apply converters f).run s
        (.error left.1, left.2) := by
  unfold Converter.guarded
  rcases answered : (next request).exec s with ⟨_ | _, s'⟩ <;>
    simp [Attempt.exec, Attempt.outcome,
      show StateT.run (ExceptT.run (next request)) s = _ from answered]

/-- What is told of a failure where server-side ones are masked. -/
def Failure.disclosed (f : Failure) : Failure :=
  if f.status.isServerError then f.masked else f

theorem Failure.disclosed_status (f : Failure) : f.disclosed.status = f.status := by
  unfold Failure.disclosed
  split <;> rfl

/-- A failed listener is a failure of the server. Its notes are kept from the client. -/
theorem Failure.disclosed_of_lifecycle (e : LifecycleError) (notes : List String) :
    Failure.disclosed ⟨.lifecycle e, notes⟩ = (Failure.lifecycle e).masked := by
  have serious : e.status.isServerError = true := by
    cases e <;> rfl
  exact if_pos serious

theorem apply_maskServerErrors [Journaled σ] (f : Failure) (s : σ) :
    ((Converter.apply [.maskServerErrors] f).run s).1 = f.disclosed := by
  unfold Converter.apply Failure.disclosed
  cases serious : f.status.isServerError <;> simp [Converter.maskServerErrors, serious]

theorem exec_masked [Journaled σ] (next : Endpoint σ) (request : Request) (s : σ) :
    ((Converter.guarded [.maskServerErrors] next request).exec s).1 =
      ((next request).exec s).1.mapError Failure.disclosed := by
  rw [exec_guarded]
  rcases (next request).exec s with ⟨f | response, s'⟩
  · exact congrArg Except.error (apply_maskServerErrors f s')
  · rfl

theorem exec_authorize [Journaled σ] (rules : AccessRules) (next : Endpoint σ) (request : Request)
    (s : σ) : (rules.authorize next request).exec s =
      match rules.denial? request with
      | none => (next request).exec s
      | some e => (.error (Failure.broker e), Journaled.record
          (((Failure.broker e).report "request denied").within (AccessRules.span request)) s) := by
  unfold AccessRules.authorize
  cases rules.denial? request <;> rfl

theorem guarded_leaves {converters : List (Converter σ)}
    (leaves : (Stage.conversion converters).Leaves view) (next : Endpoint σ) (request : Request)
    (s : σ) :
    view ((Converter.guarded converters next request).exec s).2 =
      view ((next request).exec s).2 := by
  rw [exec_guarded]
  rcases (next request).exec s with ⟨f | response, s'⟩
  · exact apply_leaves leaves f s'
  · rfl

theorem guarded_once {converters : List (Converter σ)}
    (leaves : (Stage.conversion converters).Leaves view)
    (once : AnswersOnce view endpoint next) :
    AnswersOnce view endpoint (Converter.guarded converters next) :=
  fun request s => once.between rfl (guarded_leaves leaves next request s)

theorem authorize_once [Journaled σ] (quiet : ∀ e s, view (Journaled.record e s) = view s)
    (rules : AccessRules) (once : AnswersOnce view endpoint next) :
    AnswersOnce view endpoint (rules.authorize next) := by
  intro request s
  rw [exec_authorize]
  split
  · exact once request s
  · exact Or.inl (quiet _ s)

theorem Chain.execute_append [Journaled σ] (front rest : Chain σ) (endpoint : Endpoint σ) :
    Chain.execute (front ++ rest) endpoint = front.execute (rest.execute endpoint) :=
  List.foldr_append

/-- A request changes the view through the endpoint, once, or not at all. -/
theorem execute_once [Journaled σ] (quiet : ∀ e s, view (Journaled.record e s) = view s)
    {chain : Chain σ} (provided : ∀ stage ∈ chain, stage.Leaves view) (endpoint : Endpoint σ) :
    AnswersOnce view endpoint (chain.execute endpoint) := by
  induction chain with
  | nil => exact AnswersOnce.self endpoint
  | cons stage rest ih =>
    have once := ih fun other there => provided other (List.mem_cons_of_mem stage there)
    have leaves := provided stage List.mem_cons_self
    cases stage with
    | interception interceptors => exact intercept_once leaves once
    | conversion converters => exact guarded_once leaves once
    | authorization rules => exact authorize_once quiet rules once
    | custom handle => exact leaves.elim

end Switchboard
