import Switchboard.Proofs.Chain

/-!
# The calls of an interception stage

Interceptors see a request on its way in, one after the other, and the response on its way out, in
reverse. `intercept_in_order` tells which calls a stage makes, what it hands to each of them, and
after which failure it makes no more.
-/

namespace Switchboard

variable {σ α β ι : Type}

/-- A call that a stage makes, with what it was given and what came of it. Interceptors are known by
their place in the order of registration. -/
inductive StageCall
  | before (place : Nat) (request : Request) (outcome : Except Failure Request)
  | onward (request : Request) (outcome : Except Failure Response)
  | after (place : Nat) (request : Request) (response : Response)
    (outcome : Except Failure Response)

/-- Does what `x` does, and notes the call when it is over. -/
def Attempt.calling (call : Except Failure α → StageCall) (x : Attempt σ α) :
    Attempt (σ × List StageCall) α :=
  ExceptT.mk fun (s, calls) =>
    let (outcome, s) := x.exec s
    (outcome, s, calls ++ [call outcome])

def Interceptor.calling (place : Nat) (i : Interceptor σ) : Interceptor (σ × List StageCall) where
  before request := (i.before request).calling (.before place request)
  after request response := (i.after request response).calling (.after place request response)

def Interceptor.callingAll (interceptors : List (Interceptor σ)) :
    List (Interceptor (σ × List StageCall)) :=
  interceptors.zipIdx.map fun (i, place) => i.calling place

def Endpoint.calling (next : Endpoint σ) : Endpoint (σ × List StageCall) :=
  fun request => (next request).calling (.onward request)

/-- Steps taken one after the other, each with what the one before led to, until one fails. -/
inductive Walk (step : β → ι → Attempt σ β) (call : β → ι → Except Failure β → StageCall) :
    List ι → β → σ → List StageCall → Except Failure β → σ → Prop
  | arrived {b s} : Walk step call [] b s [] (.ok b) s
  | failed {i rest b s f t} (reached : (step b i).exec s = (.error f, t)) :
    Walk step call (i :: rest) b s [call b i (.error f)] (.error f) t
  | passed {i rest b s b' s' calls outcome t} (reached : (step b i).exec s = (.ok b', s'))
      (walk : Walk step call rest b' s' calls outcome t) :
    Walk step call (i :: rest) b s (call b i (.ok b') :: calls) outcome t

/-- What the interceptors make of a request, the one registered first in front. -/
def Inward (interceptors : List (Interceptor σ)) :
    Request → σ → List StageCall → Except Failure Request → σ → Prop :=
  Walk (fun request i => i.1.before request) (fun request i => .before i.2 request)
    interceptors.zipIdx

/-- What the interceptors make of the response to `processed`, the one registered last in front. -/
def Outward (interceptors : List (Interceptor σ)) (processed : Request) :
    Response → σ → List StageCall → Except Failure Response → σ → Prop :=
  Walk (fun response i => i.1.after processed response)
    (fun response i => .after i.2 processed response) interceptors.zipIdx.reverse

/-- The calls of an interception stage in front of `next`, how it ends, and the state it leaves. -/
inductive Course (interceptors : List (Interceptor σ)) (next : Endpoint σ) (request : Request)
    (s : σ) : List StageCall → Except Failure Response → σ → Prop
  | refused {calls f t} (inward : Inward interceptors request s calls (.error f) t) :
    Course interceptors next request s calls (.error f) t
  | unanswered {calls processed s' f t}
      (inward : Inward interceptors request s calls (.ok processed) s')
      (failed : (next processed).exec s' = (.error f, t)) :
    Course interceptors next request s (calls ++ [.onward processed (.error f)]) (.error f) t
  | answered {calls processed s' response s'' calls' outcome t}
      (inward : Inward interceptors request s calls (.ok processed) s')
      (answered : (next processed).exec s' = (.ok response, s''))
      (outward : Outward interceptors processed response s'' calls' outcome t) :
    Course interceptors next request s
      (calls ++ .onward processed (.ok response) :: calls') outcome t

/-! ### Walks -/

theorem Attempt.exec_calling (call : Except Failure α → StageCall) (x : Attempt σ α) (s : σ)
    (calls : List StageCall) : (x.calling call).exec (s, calls) =
      ((x.exec s).1, (x.exec s).2, calls ++ [call (x.exec s).1]) :=
  rfl

section

variable {step : β → ι → Attempt σ β} {call : β → ι → Except Failure β → StageCall}

theorem exists_walk (is : List ι) (b : β) (s : σ) :
    ∃ calls outcome t, Walk step call is b s calls outcome t := by
  induction is generalizing b s with
  | nil => exact ⟨_, _, _, .arrived⟩
  | cons i rest ih =>
    rcases reached : (step b i).exec s with ⟨f | b', s'⟩
    · exact ⟨_, _, _, .failed reached⟩
    · obtain ⟨calls, outcome, t, walk⟩ := ih b' s'
      exact ⟨_, _, _, .passed reached walk⟩

/-- A walk is what a sequence of attempts does, whether or not the calls are noted. -/
theorem Walk.exec {is : List ι} {b : β} {s : σ} {calls : List StageCall}
    {outcome : Except Failure β} {t : σ} (walk : Walk step call is b s calls outcome t)
    (earlier : List StageCall) :
    (is.foldlM step b).exec s = (outcome, t) ∧
      (is.foldlM (fun b i => (step b i).calling (call b i)) b).exec (s, earlier) =
        (outcome, t, earlier ++ calls) := by
  induction walk generalizing earlier with
  | arrived => exact ⟨rfl, by rw [List.append_nil]; rfl⟩
  | failed reached =>
    simp only [List.foldlM_cons, Attempt.exec_bind, Attempt.exec_calling, reached]
    trivial
  | @passed i _ b _ b' _ _ _ _ reached _ ih =>
    simp only [List.foldlM_cons, Attempt.exec_bind, Attempt.exec_calling, reached]
    obtain ⟨left, noted⟩ := ih (earlier ++ [call b i (.ok b')])
    rw [List.append_assoc, List.singleton_append] at noted
    exact ⟨left, noted⟩

end

theorem foldlM_fst (f : β → ι → Attempt σ β) (is : List (ι × Nat)) (b : β) :
    is.foldlM (fun b i => f b i.1) b = (is.map Prod.fst).foldlM f b :=
  List.foldlM_map.symm

/-! ### The stage -/

section

variable {interceptors : List (Interceptor σ)} {next : Endpoint σ} {request : Request} {s t : σ}
  {calls : List StageCall}

theorem afterAll_eq_foldlM (request : Request) (interceptors : List (Interceptor σ))
    (response : Response) : Interceptor.afterAll request interceptors response =
      interceptors.reverse.foldlM (fun response i => i.after request response) response := by
  induction interceptors with
  | nil => rfl
  | cons i rest ih =>
    rw [Interceptor.afterAll, ih, List.reverse_cons, List.foldlM_append]
    simp only [List.foldlM_cons, List.foldlM_nil, bind_pure]

theorem exec_inward {outcome : Except Failure Request}
    (inward : Inward interceptors request s calls outcome t) :
    (Interceptor.beforeAll interceptors request).exec s = (outcome, t) ∧
      (Interceptor.beforeAll (Interceptor.callingAll interceptors) request).exec (s, []) =
        (outcome, t, calls) := by
  obtain ⟨left, noted⟩ := inward.exec []
  have unplaced := foldlM_fst (fun request (i : Interceptor σ) => i.before request)
    interceptors.zipIdx request
  rw [List.zipIdx_map_fst] at unplaced
  rw [beforeAll_eq_foldlM, beforeAll_eq_foldlM, ← unplaced, Interceptor.callingAll,
    List.foldlM_map]
  exact ⟨left, noted⟩

theorem exec_outward {processed : Request} {response : Response}
    {outcome : Except Failure Response}
    (outward : Outward interceptors processed response s calls outcome t)
    (earlier : List StageCall) :
    (Interceptor.afterAll processed interceptors response).exec s = (outcome, t) ∧
      (Interceptor.afterAll processed (Interceptor.callingAll interceptors) response).exec
        (s, earlier) = (outcome, t, earlier ++ calls) := by
  obtain ⟨left, noted⟩ := outward.exec earlier
  have unplaced := foldlM_fst (fun response (i : Interceptor σ) => i.after processed response)
    interceptors.zipIdx.reverse response
  rw [List.map_reverse, List.zipIdx_map_fst] at unplaced
  rw [afterAll_eq_foldlM, afterAll_eq_foldlM, ← unplaced, Interceptor.callingAll,
    ← List.map_reverse, List.foldlM_map]
  exact ⟨left, noted⟩

theorem exists_course (interceptors : List (Interceptor σ)) (next : Endpoint σ) (request : Request)
    (s : σ) : ∃ calls outcome t, Course interceptors next request s calls outcome t := by
  obtain ⟨calls, way, s', inward⟩ : ∃ calls way s', Inward interceptors request s calls way s' :=
    exists_walk interceptors.zipIdx request s
  rcases way with f | processed
  · exact ⟨_, _, _, .refused inward⟩
  · rcases reached : (next processed).exec s' with ⟨f | response, s''⟩
    · exact ⟨_, _, _, .unanswered inward reached⟩
    · obtain ⟨calls', outcome, t, outward⟩ :
          ∃ calls' outcome t, Outward interceptors processed response s'' calls' outcome t :=
        exists_walk interceptors.zipIdx.reverse response s''
      exact ⟨_, _, _, .answered inward reached outward⟩

theorem Course.exec {outcome : Except Failure Response}
    (course : Course interceptors next request s calls outcome t) :
    (Interceptor.intercept interceptors next request).exec s = (outcome, t) ∧
      (Interceptor.intercept (Interceptor.callingAll interceptors) next.calling request).exec
        (s, []) = (outcome, t, calls) := by
  simp only [Interceptor.intercept, Attempt.exec_bind]
  cases course with
  | refused inward =>
    obtain ⟨left, noted⟩ := exec_inward inward
    rw [left, noted]
    exact ⟨rfl, rfl⟩
  | unanswered inward failed =>
    obtain ⟨left, noted⟩ := exec_inward inward
    simp only [left, noted, Endpoint.calling, Attempt.exec_calling, failed]
    trivial
  | @answered calls processed _ response _ _ _ _ inward answered outward =>
    obtain ⟨left, noted⟩ := exec_inward inward
    obtain ⟨left', noted'⟩ :=
      exec_outward outward (calls ++ [.onward processed (.ok response)])
    simp only [left, noted, Endpoint.calling, Attempt.exec_calling, answered]
    rw [List.append_assoc, List.singleton_append] at noted'
    exact ⟨left', noted'⟩

/-- The calls are made as `Course` says, and no others: each interceptor sees the request as the one
registered before it left it, until one of them fails; the request is passed on once, as all of
them left it; and each one sees that request and the response as the one registered after it left
it, until one of them fails. A failure ends the course. Noting the calls changes nothing. -/
theorem intercept_in_order (interceptors : List (Interceptor σ)) (next : Endpoint σ)
    (request : Request) (s : σ) :
    let noted := (Interceptor.intercept (Interceptor.callingAll interceptors) next.calling
      request).exec (s, [])
    (∀ calls outcome t, noted = (outcome, t, calls) ↔
      Course interceptors next request s calls outcome t) ∧
    (Interceptor.intercept interceptors next request).exec s = (noted.1, noted.2.1) := by
  obtain ⟨calls, outcome, t, course⟩ := exists_course interceptors next request s
  obtain ⟨left, noted⟩ := course.exec
  rw [left, noted]
  refine ⟨?_, rfl⟩
  intro calls' outcome' t'
  constructor
  · intro same
    cases same
    exact course
  · intro course'
    exact noted.symm.trans course'.exec.2

end

end Switchboard
