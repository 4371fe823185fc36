import Switchboard.Proofs.Chain
import Switchboard.Scripted.Stage

/-!
# The way of a request

A request enters stage after stage, in the order of the chain, until one of them keeps it, and what
comes back passes the same stages the other way round. `Link.execute_in_order` says so of chains of
the provided stages and of those that trace or refuse requests.
-/

namespace Switchboard

variable {σ : Type}

/-- A stage whose dealings with the rest of the chain are known. -/
inductive Link (σ : Type)
  | interception (interceptors : List (Interceptor σ))
  | conversion (converters : List (Converter σ))
  | authorization (rules : AccessRules)
  | tracing (name : String)
  | refusing (f : Failure)

/-- A part of the state that is written with marks, and not by the journal. -/
structure Tape (σ : Type) [Journaled σ] where
  read : σ → List String
  mark : String → σ → σ
  read_mark : ∀ m s, read (mark m s) = read s ++ [m]
  read_record : ∀ e s, read (Journaled.record e s) = read s

/-- The endpoint has a say in the run at one point, or at none. What is given is the request that
it is asked there and the state at that point, or why the request does not get there. -/
inductive Consults (run : Endpoint σ → Except Failure Response × σ) :
    Except Failure Request × σ → Prop
  | asked {request : Request} {s : σ}
      (back : Except Failure Response × σ → Except Failure Response × σ)
      (once : ∀ next, run next = back ((next request).exec s)) : Consults run (.ok request, s)
  | never {f : Failure} {s : σ} (answer : Except Failure Response × σ)
      (fixed : ∀ next, run next = answer) : Consults run (.error f, s)

variable [Journaled σ]

namespace Link

def stage (tape : Tape σ) : Link σ → Stage σ
  | interception interceptors => .interception interceptors
  | conversion converters => .conversion converters
  | authorization rules => .authorization rules
  | tracing name => .marking tape.mark name
  | refusing f => .refusing f

/-- The way in: the request as the stage passes it on, or why it does not. -/
def enter (tape : Tape σ) : Link σ → Request → Attempt σ Request
  | interception interceptors, request => Interceptor.beforeAll interceptors request
  | conversion _, request => pure request
  | authorization rules, request => ExceptT.mk do
    match rules.denial? request with
    | none => return .ok request
    | some e =>
      let f := Failure.broker e
      log ((f.report "request denied").within (AccessRules.span request))
      return .error f
  | tracing name, request => do
    modify (tape.mark (name ++ " in"))
    return request
  | refusing f, _ => throw f

/-- The way out of a stage that passed on `request`. -/
def leave (tape : Tape σ) (request : Request) :
    Link σ → Except Failure Response → StateM σ (Except Failure Response)
  | interception interceptors, .ok response =>
    (Interceptor.afterAll request interceptors response).outcome
  | conversion converters, .error f => return .error (← Converter.apply converters f)
  | tracing name, returned => do
    modify (tape.mark (name ++ if returned.isOk then " out" else " err"))
    return returned
  | _, returned => return returned

def enterAll (tape : Tape σ) (links : List (Link σ)) (request : Request) : Attempt σ Request :=
  links.foldlM (fun request link => link.enter tape request) request

/-- The stage passes the request on: it does not refuse it, its rules allow it, and none of its
interceptors that the request gets to fails. -/
def Passes (request : Request) (s : σ) : Link σ → Prop
  | interception interceptors => ∀ front i rest changed s', interceptors = front ++ i :: rest →
    (Interceptor.beforeAll front request).exec s = (.ok changed, s') →
    ((i.before changed).exec s').1.isOk
  | conversion _ => True
  | authorization rules => rules.denial? request = none
  | tracing _ => True
  | refusing _ => False

def chain (tape : Tape σ) (links : List (Link σ)) : Chain σ :=
  links.map (stage tape)

/-- The name under which the stage leaves marks, if it does. -/
def trace? : Link σ → Option String
  | tracing name => some name
  | _ => none

/-- The interceptors and converters of the stage do not write on the tape. -/
def Leaves (tape : Tape σ) : Link σ → Prop
  | interception interceptors => (Stage.interception interceptors).Leaves tape.read
  | conversion converters => (Stage.conversion converters).Leaves tape.read
  | _ => True

/-- The tracing stages that a request gets to, and whether the chain behind each of them
succeeds. -/
def traced (tape : Tape σ) (endpoint : Endpoint σ) :
    List (Link σ) → Request → σ → List (String × Bool)
  | [], _, _ => []
  | link :: rest, request, s =>
    match (link.enter tape request).exec s with
    | (.ok passed, s') =>
      let answer := (((chain tape rest).execute endpoint passed).exec s').1
      link.trace?.toList.map (·, answer.isOk) ++ traced tape endpoint rest passed s'
    | (.error _, _) => []

def entryMark (visit : String × Bool) : String :=
  visit.1 ++ " in"

def exitMark (visit : String × Bool) : String :=
  visit.1 ++ if visit.2 then " out" else " err"

end Link

/-- The endpoint, with a mark for each request that it is asked. -/
def Tape.noting (tape : Tape σ) (endpoint : Endpoint σ) : Endpoint σ := fun request => do
  modify (tape.mark "dispatch")
  endpoint request

namespace Link

variable {tape : Tape σ}

/-! ### One stage -/

theorem exec_marking (mark : String → σ → σ) (name : String) (next : Endpoint σ)
    (request : Request) (s : σ) :
    ((Stage.marking mark name).around next request).exec s =
      let returned := (next request).exec (mark (name ++ " in") s)
      (returned.1, mark (name ++ if returned.1.isOk then " out" else " err") returned.2) := by
  simp only [Stage.marking, Stage.around]
  rcases answered : (next request).exec (mark (name ++ " in") s) with ⟨_ | _, s'⟩ <;>
    simp [Attempt.exec, Attempt.outcome, Except.isOk, Except.toBool,
      show StateT.run (ExceptT.run (next request)) (mark (name ++ " in") s) = _ from answered]

theorem exec_enter_authorization (rules : AccessRules) (request : Request) (s : σ) :
    (enter tape (.authorization rules) request).exec s =
      match rules.denial? request with
      | none => (.ok request, s)
      | some e => (.error (Failure.broker e), Journaled.record
          (((Failure.broker e).report "request denied").within (AccessRules.span request)) s) := by
  simp only [enter]
  cases rules.denial? request <;> rfl

/-- What a stage does: the way in, the rest of the chain if that leads there, and the way out. -/
theorem exec_around (link : Link σ) (next : Endpoint σ) (request : Request) (s : σ) :
    ((link.stage tape).around next request).exec s =
      match (link.enter tape request).exec s with
      | (.ok passed, s') =>
        let returned := (next passed).exec s'
        (link.leave tape passed returned.1).run returned.2
      | (.error f, s') => (.error f, s') := by
  cases link with
  | interception interceptors =>
    show (Interceptor.intercept interceptors next request).exec s =
      match (Interceptor.beforeAll interceptors request).exec s with
      | (.ok passed, s') => _
      | (.error f, s') => (.error f, s')
    unfold Interceptor.intercept
    rw [Attempt.exec_bind]
    rcases (Interceptor.beforeAll interceptors request).exec s with ⟨f | passed, s'⟩
    · rfl
    · simp only [Attempt.exec_bind]
      rcases (next passed).exec s' with ⟨f | response, s''⟩ <;> rfl
  | conversion converters =>
    show (Converter.guarded converters next request).exec s = _
    rw [exec_guarded]
    show _ = ((Link.conversion converters).leave tape request ((next request).exec s).1).run
      ((next request).exec s).2
    rcases (next request).exec s with ⟨f | response, s'⟩ <;> rfl
  | authorization rules =>
    show (rules.authorize next request).exec s = _
    rw [exec_authorize, exec_enter_authorization]
    rcases rules.denial? request with _ | e <;> rfl
  | tracing name => exact exec_marking tape.mark name next request s
  | refusing f => rfl

/-! ### The whole chain -/

theorem chain_cons (link : Link σ) (rest : List (Link σ)) (endpoint : Endpoint σ) :
    (chain tape (link :: rest)).execute endpoint =
      (link.stage tape).around ((chain tape rest).execute endpoint) :=
  rfl

theorem exec_enterAll_cons (link : Link σ) (rest : List (Link σ)) (request : Request) (s : σ) :
    (enterAll tape (link :: rest) request).exec s =
      match (link.enter tape request).exec s with
      | (.ok passed, s') => (enterAll tape rest passed).exec s'
      | (.error f, s') => (.error f, s') := by
  rw [enterAll, List.foldlM_cons, Attempt.exec_bind]
  rcases (link.enter tape request).exec s with ⟨_ | _, s'⟩ <;> rfl

theorem isOk_enter_iff (link : Link σ) (request : Request) (s : σ) :
    ((link.enter tape request).exec s).1.isOk ↔ link.Passes request s := by
  cases link with
  | interception interceptors =>
    simp only [enter, Passes, beforeAll_eq_foldlM]
    exact Attempt.isOk_foldlM_iff _ interceptors request s
  | conversion converters => exact iff_of_true rfl trivial
  | authorization rules =>
    rw [exec_enter_authorization, Passes]
    rcases rules.denial? request with _ | e
    · exact iff_of_true rfl rfl
    · exact iff_of_false Bool.false_ne_true (Option.some_ne_none e)
  | tracing name => exact iff_of_true rfl trivial
  | refusing f => exact iff_of_false Bool.false_ne_true id

/-- A request gets through unless a stage that it gets to keeps it. -/
theorem isOk_enterAll_iff (links : List (Link σ)) (request : Request) (s : σ) :
    ((enterAll tape links request).exec s).1.isOk ↔
      ∀ front link rest passed s', links = front ++ link :: rest →
        (enterAll tape front request).exec s = (.ok passed, s') → link.Passes passed s' := by
  refine (Attempt.isOk_foldlM_iff _ links request s).trans ?_
  simp only [isOk_enter_iff]
  rfl

/-- The endpoint is asked exactly where the way in through all stages leads. -/
theorem execute_consults (links : List (Link σ)) (request : Request) (s : σ) :
    Consults (fun next => ((chain tape links).execute next request).exec s)
      ((enterAll tape links request).exec s) := by
  induction links generalizing request s with
  | nil => exact .asked id fun next => rfl
  | cons link rest ih =>
    simp only [chain_cons, exec_around, exec_enterAll_cons]
    rcases (link.enter tape request).exec s with ⟨f | passed, s'⟩
    · exact .never (.error f, s') fun next => rfl
    · -- What stands behind `link` is asked at the point where it passes the request on.
      have behind := ih passed s'
      dsimp only
      generalize (enterAll tape rest passed).exec s' = reached at behind ⊢
      cases behind with
      | asked back once =>
        refine .asked (fun answered => (link.leave tape passed (back answered).1).run
          (back answered).2) fun next => ?_
        rw [once next]
      | never answer fixed =>
        refine .never ((link.leave tape passed answer.1).run answer.2) fun next => ?_
        rw [fixed next]

/-! ### The marks -/

theorem read_enter {link : Link σ} (leaves : link.Leaves tape) (request : Request) (s : σ)
    (ok : Bool) :
    tape.read ((link.enter tape request).exec s).2 =
      tape.read s ++ (link.trace?.toList.map (·, ok)).map entryMark := by
  cases link with
  | interception interceptors =>
    have kept := beforeAll_leaves (fun i there => (leaves i there).1) request s
    exact kept.trans (List.append_nil _).symm
  | conversion converters => exact (List.append_nil _).symm
  | authorization rules =>
    rw [exec_enter_authorization]
    rcases rules.denial? request with _ | e
    · exact (List.append_nil _).symm
    · exact (tape.read_record _ s).trans (List.append_nil _).symm
  | tracing name => exact tape.read_mark _ s
  | refusing f => exact (List.append_nil _).symm

theorem trace?_of_kept {link : Link σ} {request : Request} {s s' : σ} {f : Failure}
    (kept : (link.enter tape request).exec s = (.error f, s')) : link.trace? = none := by
  cases link with
  | tracing name => cases kept
  | _ => rfl

theorem read_leave {link : Link σ} (leaves : link.Leaves tape) (passed : Request)
    (returned : Except Failure Response) (s : σ) :
    tape.read ((link.leave tape passed returned).run s).2 =
      tape.read s ++ (link.trace?.toList.map (·, returned.isOk)).map exitMark := by
  cases link with
  | interception interceptors =>
    rcases returned with f | response
    · exact (List.append_nil _).symm
    · have kept : tape.read ((Interceptor.afterAll passed interceptors response).exec s).2 =
          tape.read s := afterAll_leaves (fun i there => (leaves i there).2 passed) response s
      exact kept.trans (List.append_nil _).symm
  | conversion converters =>
    rcases returned with f | response
    · exact (apply_leaves leaves f s).trans (List.append_nil _).symm
    · exact (List.append_nil _).symm
  | authorization rules => exact (List.append_nil _).symm
  | tracing name => exact tape.read_mark _ s
  | refusing f => exact (List.append_nil _).symm

theorem read_execute {links : List (Link σ)} (leaves : ∀ link ∈ links, link.Leaves tape)
    {endpoint : Endpoint σ}
    (quiet : ∀ request s, tape.read ((endpoint request).exec s).2 = tape.read s)
    (request : Request) (s : σ) :
    tape.read (((chain tape links).execute (tape.noting endpoint) request).exec s).2 =
      tape.read s ++ (traced tape (tape.noting endpoint) links request s).map entryMark ++
        (if ((enterAll tape links request).exec s).1.isOk then ["dispatch"] else []) ++
        ((traced tape (tape.noting endpoint) links request s).map exitMark).reverse := by
  induction links generalizing request s with
  | nil =>
    show tape.read ((endpoint request).exec (tape.mark "dispatch" s)).2 =
      tape.read s ++ [] ++ ["dispatch"] ++ []
    rw [quiet, tape.read_mark, List.append_nil, List.append_nil]
  | cons link rest ih =>
    have here := leaves link List.mem_cons_self
    have behind := ih fun other there => leaves other (List.mem_cons_of_mem link there)
    simp only [chain_cons, exec_around, exec_enterAll_cons, traced]
    rcases way : (link.enter tape request).exec s with ⟨f | passed, s'⟩
    · have entered := read_enter here request s true
      rw [way, trace?_of_kept way] at entered
      show tape.read s' = tape.read s ++ [] ++ [] ++ []
      simpa using entered
    · -- The marks of `link` are the first on the way in and the last on the way out.
      dsimp only
      rw [read_leave here, behind]
      generalize (((chain tape rest).execute (tape.noting endpoint) passed).exec s').1.isOk = ok
      have entered := read_enter here request s ok
      rw [way] at entered
      rw [entered]
      cases link.trace? <;> simp

/-- A chain run in front of another one is run with that one as its endpoint, and with the next
stage as its endpoint if it is run in front of a stage. Such an endpoint is asked once, with the
request as the stages of the chain passed it on one after another, or not at all. It is asked unless
a stage that the request gets to keeps it. Where nobody else writes on the tape, there are on the
way in the marks of the tracing stages that the request gets to, in their order. On the way out
these come in reverse, and each tells whether the chain behind its stage succeeded. -/
theorem execute_in_order (tape : Tape σ) :
    (∀ (front rest : Chain σ) (endpoint : Endpoint σ),
      Chain.execute (front ++ rest) endpoint = front.execute (rest.execute endpoint)) ∧
    (∀ (front : List (Link σ)) (stage : Stage σ) (rest : Chain σ) (endpoint : Endpoint σ),
      Chain.execute (chain tape front ++ stage :: rest) endpoint =
        (chain tape front).execute (stage.around (rest.execute endpoint))) ∧
    (∀ (links : List (Link σ)) (request : Request) (s : σ),
      Consults (fun next => ((chain tape links).execute next request).exec s)
        ((enterAll tape links request).exec s) ∧
      (((enterAll tape links request).exec s).1.isOk ↔
        ∀ front link rest passed s', links = front ++ link :: rest →
          (enterAll tape front request).exec s = (.ok passed, s') → link.Passes passed s')) ∧
    ∀ (links : List (Link σ)) (endpoint : Endpoint σ) (request : Request) (s : σ),
      (∀ link ∈ links, link.Leaves tape) →
      (∀ request s, tape.read ((endpoint request).exec s).2 = tape.read s) →
      tape.read (((chain tape links).execute (tape.noting endpoint) request).exec s).2 =
        tape.read s ++ (traced tape (tape.noting endpoint) links request s).map entryMark ++
          (if ((enterAll tape links request).exec s).1.isOk then ["dispatch"] else []) ++
          ((traced tape (tape.noting endpoint) links request s).map exitMark).reverse := by
  refine ⟨Chain.execute_append, ?_, ?_, ?_⟩
  · intro front stage rest endpoint
    exact Chain.execute_append (chain tape front) (stage :: rest) endpoint
  · intro links request s
    exact ⟨execute_consults links request s, isOk_enterAll_iff links request s⟩
  · intro links endpoint request s leaves quiet
    exact read_execute leaves quiet request s

end Link

def Bench.tape : Tape Bench where
  read := Bench.trace
  mark := Marks.mark
  read_mark _ _ := rfl
  read_record _ _ := rfl

namespace Link

/-- A request that is refused between two tracing stages, and one that gets through. -/
theorem execute_in_order_refused :
    let ack : Endpoint Bench := fun _ => pure .ack
    let ask : Request := { client := "A", destination := "quotes", body := .subscribe }
    let refusing : List (Link Bench) :=
      [.tracing "a", .interception [{}], .tracing "b", .refusing (.broker (.unauthorized "quotes")),
        .tracing "c"]
    let masking : List (Link Bench) :=
      [.tracing "a", .conversion [.maskServerErrors], .tracing "b"]
    let marks (links : List (Link Bench)) : List String :=
      (((chain Bench.tape links).execute (Bench.tape.noting ack) ask).exec {}).2.trace
    marks refusing = ["a in", "b in", "b err", "a err"] ∧
      marks masking = ["a in", "b in", "dispatch", "b out", "a out"] := by
  intro ack ask refusing masking marks
  obtain ⟨-, -, -, tells⟩ := execute_in_order Bench.tape
  have spare : ∀ link ∈ refusing, link.Leaves Bench.tape := by
    simp [refusing, Leaves, Stage.Leaves]
    exact ⟨fun _ _ => rfl, fun _ _ _ => rfl⟩
  have spare' : ∀ link ∈ masking, link.Leaves Bench.tape := by
    simp [masking, Leaves, Stage.Leaves]
    exact fun _ _ => rfl
  constructor
  · refine (tells refusing ack ask {} spare fun _ _ => rfl).trans ?_
    decide
  · refine (tells masking ack ask {} spare' fun _ _ => rfl).trans ?_
    decide

end Link

end Switchboard
