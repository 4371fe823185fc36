import Switchboard.Proofs.Lifecycle.Trace

/-!
# The course of an operation

Which calls an operation makes, in which order and on what, and what it makes of their outcomes
(`course_run`). An operation gives up at the first call that fails; only `stop` still disposes of a
listener that it could not halt.
-/

namespace Switchboard

variable {ω η : Type}

def ResourceCall.report (destination : String) (e : ResourceError) : ResourceCall → LifecycleError
  | acquire => .initialization destination e
  | start => .transition destination .start e
  | stop => .transition destination .stop e
  | dispose => .transition destination .dispose e

namespace Call

/-- The handle held after the call failed and nothing else was done. -/
def left (call : Call) : Option Nat :=
  match call.kind with
  | .acquire | .dispose => none
  | .start | .stop => some call.handle

def yields (call : Call) : Option Nat :=
  if call.kind = .acquire ∧ call.failure = none then some call.handle else none

end Call

namespace Coordinator

/-- How an operation comes to an end. If it `tears` the listener down, it goes on after a failed
halt, and `left` is the number of the handle it leaves. -/
inductive Concluded (destination : String) (tears : Prop) {α : Type} :
    List Call → Except LifecycleError α → Option Nat → Prop
  | done {made a left} (sound : ∀ call ∈ made, call.failure = none) :
      Concluded destination tears made (.ok a) left
  | failed {front last e} (sound : ∀ call ∈ front, call.failure = none)
      (failure : last.failure = some e) (final : ¬ (last.kind = .stop ∧ tears)) :
      Concluded destination tears (front ++ [last]) (.error (last.kind.report destination e))
        last.left
  | torn {halt last e} (tearing : tears) (halts : halt.kind = .stop)
      (failure : halt.failure = some e) (disposes : last.kind = .dispose)
      (same : last.handle = halt.handle) :
      Concluded destination tears [halt, last] (.error (halt.kind.report destination e)) none

/-- The handle that is ready to be started after `made`, if `ready` was before. -/
def readyAfter (ready : Option Nat) : List Call → Option Nat
  | [] => ready
  | call :: rest => readyAfter call.yields rest

/-- A start is called on the handle that is ready, if it does not run, and a stop on one that
runs. -/
def Guarded (ready : Option Nat) : List Call → Prop
  | [] => True
  | call :: rest =>
    (call.kind = .start → call.running = false ∧ ready = some call.handle) ∧
      (call.kind = .stop → call.running = true) ∧ Guarded call.yields rest

/-- The handle that is found initialized. -/
def ready (p : Provider ω η) (c : Coordinator (Tagged η)) (t : Traced ω) : Option Nat :=
  (c.held.filter fun h => p.isInitialized h.handle t.world).map Tagged.number

/-- The operation finds nobody, leaves nobody, or is about the listener itself. -/
def Operation.Stirs (members : Std.ExtTreeSet String) : Operation → Prop
  | subscribe _ => members = ∅
  | unsubscribe id => id ∈ members ∧ members.erase id = ∅
  | start | stop => True

/-- What an operation does: the calls it made, in which manner, and how it ended. -/
structure Course (p : Provider ω η) (op : Operation) (c : Coordinator (Tagged η)) (t : Traced ω)
    (made : List Call) : Prop where
  recorded : (op.run p.traced c t).2.2.calls = t.calls ++ made
  concluded : Concluded c.destination (op = .stop) made (op.run p.traced c t).1
    ((op.run p.traced c t).2.1.held.map Tagged.number)
  guarded : Guarded (c.ready p t) made
  stirs : made ≠ [] → op.Stirs c.members

/-! ### Calls one after the other -/

section Calls

variable {ready : Option Nat} {rest : List Call} {destination : String} {tears : Prop}
  {α : Type} {outcome : Except LifecycleError α} {left : Option Nat}

theorem guarded_append (front : List Call) (before : Guarded ready front)
    (after : Guarded (readyAfter ready front) rest) :
    Guarded ready (front ++ rest) := by
  induction front generalizing ready with
  | nil => exact after
  | cons call front ih =>
    obtain ⟨starts, stops, others⟩ := before
    exact ⟨starts, stops, ih others after⟩

theorem Concluded.append (front : List Call) (sound : ∀ call ∈ front, call.failure = none)
    (concluded : Concluded destination False rest outcome left) :
    Concluded destination False (front ++ rest) outcome left := by
  have together {others : List Call} (others_sound : ∀ call ∈ others, call.failure = none) :
      ∀ call ∈ front ++ others, call.failure = none := by
    intro call member
    rcases List.mem_append.mp member with early | late
    · exact sound call early
    · exact others_sound call late
  cases concluded with
  | done others => exact .done (together others)
  | failed others failure final =>
    rw [← List.append_assoc]
    exact .failed (together others) failure final
  | torn tearing => exact tearing.elim

theorem Concluded.steady (gentle : ¬ tears)
    (concluded : Concluded destination False rest outcome left) :
    Concluded destination tears rest outcome left := by
  cases concluded with
  | done sound => exact .done sound
  | failed sound failure final => exact .failed sound failure fun both => gentle both.2
  | torn tearing => exact tearing.elim

theorem Concluded.single (call : Call) {e : ResourceError} (failure : call.failure = some e)
    (final : ¬ (call.kind = .stop ∧ tears)) :
    Concluded destination tears [call] (.error (call.kind.report destination e) : Except _ α)
      call.left := by
  have before : ∀ other ∈ ([] : List Call), other.failure = none := by simp
  exact .failed before failure final

theorem Concluded.nothing {a : α} : Concluded destination tears [] (.ok a) left :=
  .done fun _ member => absurd member List.not_mem_nil

theorem Concluded.called {a : α} (call : Call) (sound : call.failure = none) :
    Concluded destination tears [call] (.ok a) left := by
  refine .done ?_
  intro other member
  rw [List.mem_singleton.mp member]
  exact sound

theorem Concluded.map {β : Type} (f : α → β)
    (concluded : Concluded destination tears rest outcome left) :
    Concluded destination tears rest (outcome.map f) left := by
  cases concluded with
  | done sound => exact .done sound
  | failed sound failure final => exact .failed sound failure final
  | torn tearing halts failure disposes same => exact .torn tearing halts failure disposes same

theorem Concluded.sound {a : α} (concluded : Concluded destination tears rest (.ok a) left) :
    ∀ call ∈ rest, call.failure = none := by
  cases concluded with
  | done sound => exact sound

end Calls

/-! ### The parts of an operation -/

section Parts

variable (p : Provider ω η) (c : Coordinator (Tagged η)) (t : Traced ω)

/-- A part of an operation that is not a teardown and gives `α`. -/
structure Part (c : Coordinator (Tagged η)) (t : Traced ω) (ready : Option Nat) (made : List Call)
    {α : Type} (r : Except LifecycleError α × Coordinator (Tagged η) × Traced ω) : Prop where
  recorded : r.2.2.calls = t.calls ++ made
  concluded : Concluded c.destination False made r.1 (r.2.1.held.map Tagged.number)
  guarded : Guarded ready made

theorem part_replace : ∃ made, Part c t none made (c.replace p.traced t) ∧
    ∀ h, (c.replace p.traced t).1 = .ok h → readyAfter none made = some h.number := by
  rcases acquired : p.acquire t.world with ⟨e | h, w⟩
  all_goals simp only [replace, Provider.traced, acquired, Except.map]
  · refine ⟨_, ⟨rfl, Concluded.single _ rfl And.right, ?_⟩, ?_⟩
    · simp [Guarded]
    · intro h impossible
      cases impossible
  · refine ⟨_, ⟨rfl, Concluded.called _ rfl, ?_⟩, ?_⟩
    · simp [Guarded]
    · intro h same
      cases same
      rfl

theorem part_ensure : ∃ made, Part c t (c.ready p t) made (c.ensure p.traced t) ∧
    ∀ h, (c.ensure p.traced t).1 = .ok h → readyAfter (c.ready p t) made = some h.number := by
  unfold ensure
  split
  · rename_i free
    have nothing : c.ready p t = none := by simp [ready, free]
    rw [nothing]
    exact part_replace p c t
  · rename_i h held
    split
    · rename_i initialized
      have found : c.ready p t = some h.number := by
        have current : p.isInitialized h.handle t.world = true := initialized
        rw [ready, held, Option.filter_some, if_pos current, Option.map_some]
      refine ⟨[], ⟨(List.append_nil _).symm, Concluded.nothing, trivial⟩, ?_⟩
      intro g same
      cases same
      exact found
    · rcases disposed : p.dispose h.handle t.world with ⟨e | _, w⟩
      all_goals simp only [Provider.traced, disposed]
      · refine ⟨_, ⟨rfl, Concluded.single (p.call .dispose h t (.error e)) rfl And.right, ?_⟩, ?_⟩
        · simp [Guarded, Provider.call]
        · intro g impossible
          cases impossible
      · -- The stale handle is gone; what follows is the making of a new one.
        let call := p.call .dispose h t (.ok ())
        let u : Traced ω := { t with world := w, calls := t.calls ++ [call] }
        obtain ⟨made, part, yields⟩ := part_replace p c u
        refine ⟨call :: made, ⟨?_, ?_, ?_⟩, ?_⟩
        · exact part.recorded.trans (List.append_assoc _ _ _)
        · refine Concluded.append [call] ?_ part.concluded
          intro other member
          rw [List.mem_singleton.mp member]
          rfl
        · refine guarded_append [call] ?_ part.guarded
          simp [Guarded, call, Provider.call]
        · exact yields

theorem part_run (h : Tagged η) :
    ∃ made, Part c t (some h.number) made (c.run p.traced h t) := by
  unfold run
  split
  · exact ⟨[], (List.append_nil _).symm, Concluded.nothing, trivial⟩
  · rename_i idle
    have idle : p.isRunning h.handle t.world = false := Bool.eq_false_iff.mpr idle
    rcases started : p.start h.handle t.world with ⟨e | _, g, w⟩
    all_goals simp only [Provider.traced, started]
    · refine ⟨_, rfl, Concluded.single (p.call .start h t (.error e)) rfl And.right, ?_⟩
      simp [Guarded, Provider.call, idle]
    · refine ⟨_, rfl, Concluded.called (p.call .start h t (.ok ())) rfl, ?_⟩
      simp [Guarded, Provider.call, idle]

theorem part_halt (ready : Option Nat) : ∃ made, Part c t ready made (c.halt p.traced t) := by
  unfold halt
  split
  · exact ⟨[], (List.append_nil _).symm, Concluded.nothing, trivial⟩
  · rename_i h held
    split
    · rename_i running
      have running : p.isRunning h.handle t.world = true := running
      rcases stopped : p.stop h.handle t.world with ⟨e | _, g, w⟩
      all_goals simp only [Provider.traced, stopped]
      · refine ⟨_, rfl, Concluded.single (p.call .stop h t (.error e)) rfl And.right, ?_⟩
        simp [Guarded, Provider.call, running]
      · refine ⟨_, rfl, Concluded.called (p.call .stop h t (.ok ())) rfl, ?_⟩
        simp [Guarded, Provider.call, running]
    · exact ⟨[], (List.append_nil _).symm, Concluded.nothing, trivial⟩

end Parts

/-! ### Whole operations -/

section Stop

variable {p : Provider ω η} {c : Coordinator η} {w : ω} {h : η}

theorem stop_of_idle (held : c.held = some h) (idle : p.isRunning h w = false) : c.stop p w =
    ((p.dispose h w).1.mapError (c.failure .dispose), { c with held := none },
      (p.dispose h w).2) := by
  unfold stop
  simp only [held, idle, Bool.false_eq_true, if_false]
  rcases disposed : p.dispose h w with ⟨_ | _, v⟩ <;> simp only [disposed] <;> rfl

theorem stop_of_running (held : c.held = some h) (running : p.isRunning h w = true) :
    let halted := p.stop h w
    let gone := p.dispose halted.2.1 halted.2.2
    c.stop p w = ((halted.1.mapError (c.failure .stop)).bind
        fun () => gone.1.mapError (c.failure .dispose), { c with held := none }, gone.2) := by
  dsimp only
  unfold stop
  simp only [held, running, if_true]
  rcases p.stop h w with ⟨_ | _, g, v⟩ <;>
    rcases disposed : p.dispose g v with ⟨_ | _, u⟩ <;>
    simp only [disposed] <;> rfl

end Stop

section Operations

variable (p : Provider ω η) (c : Coordinator (Tagged η)) (t : Traced ω)

theorem course_subscribe (id : String) : ∃ made, Course p (.subscribe id) c t made := by
  by_cases first : c.members = ∅
  · have empty : c.members.isEmpty = true := Std.ExtTreeSet.isEmpty_iff.mpr first
    obtain ⟨made, part, yields⟩ := part_ensure p { c with members := c.members.insert id } t
    have clients := ensure_clients p.traced { c with members := c.members.insert id } t
    rcases ensured : ({ c with members := c.members.insert id } : Coordinator _).ensure p.traced t
      with ⟨e | h, d, u⟩
    all_goals rw [ensured] at part yields clients
    · have called : (Operation.subscribe id).run p.traced c t = (.error e, d, u) := by
        simp only [Operation.run, subscribe, empty, if_true, ensured]
      refine ⟨made, ?_, ?_, part.guarded, fun _ => first⟩
      · rw [called]
        exact part.recorded
      · rw [called]
        exact (part.concluded.map fun _ => ()).steady Operation.noConfusion
    · have called : (Operation.subscribe id).run p.traced c t = d.run p.traced h u := by
        simp only [Operation.run, subscribe, empty, if_true, ensured]
      obtain ⟨more, started⟩ := part_run p d u h
      refine ⟨made ++ more, ?_, ?_, ?_, fun _ => first⟩
      · rw [called, started.recorded, ← List.append_assoc, ← part.recorded]
      · have concluded := started.concluded
        rw [clients.1] at concluded
        rw [called]
        exact (Concluded.append made part.concluded.sound concluded).steady Operation.noConfusion
      · exact guarded_append made part.guarded (yields h rfl ▸ started.guarded)
  · have called : (Operation.subscribe id).run p.traced c t =
        (.ok (), { c with members := c.members.insert id }, t) := by
      simp [Operation.run, subscribe, first]
    refine ⟨[], ?_, ?_, trivial, fun some => absurd rfl some⟩
    · rw [called, List.append_nil]
    · rw [called]
      exact Concluded.nothing

theorem course_unsubscribe (id : String) : ∃ made, Course p (.unsubscribe id) c t made := by
  let gone : Coordinator (Tagged η) := { c with members := c.members.erase id }
  by_cases last : id ∈ c.members ∧ c.members.erase id = ∅
  · have called : (Operation.unsubscribe id).run p.traced c t = gone.halt p.traced t := by
      simp [Operation.run, unsubscribe, gone, last]
    obtain ⟨made, part⟩ := part_halt p gone t (c.ready p t)
    refine ⟨made, ?_, ?_, part.guarded, fun _ => last⟩
    · rw [called]
      exact part.recorded
    · rw [called]
      exact part.concluded.steady Operation.noConfusion
  · have quiet : ((Operation.unsubscribe id).run p.traced c t).1 = .ok () ∧
        ((Operation.unsubscribe id).run p.traced c t).2.2 = t := by
      simp only [Operation.run, unsubscribe]
      split
      · rename_i member
        split
        · rename_i empty
          exact absurd ⟨member, Std.ExtTreeSet.isEmpty_iff.mp empty⟩ last
        · exact ⟨rfl, rfl⟩
      · exact ⟨rfl, rfl⟩
    refine ⟨[], ?_, ?_, trivial, fun some => absurd rfl some⟩
    · rw [quiet.2, List.append_nil]
    · rw [quiet.1]
      exact Concluded.nothing

theorem course_start : ∃ made, Course p .start c t made := by
  obtain ⟨made, part, -⟩ := part_ensure p c t
  have called := start_left p.traced c t
  have concluded := part.concluded
  refine ⟨made, ?_, ?_, part.guarded, fun _ => trivial⟩
  · exact (congrArg (fun left => left.2.calls) called).trans part.recorded
  · refine Concluded.steady Operation.noConfusion ?_
    change Concluded c.destination False made (c.start p.traced t).1
      ((c.start p.traced t).2.1.held.map Tagged.number)
    rw [called]
    unfold start
    generalize (c.ensure p.traced t).2.1.held.map Tagged.number = left at concluded ⊢
    generalize c.ensure p.traced t = result at concluded
    have forgotten := concluded.map fun _ => ()
    rcases result with ⟨e | h, d, u⟩ <;> exact forgotten

theorem course_stop : ∃ made, Course p .stop c t made := by
  cases held : c.held with
  | none =>
    have called : Operation.stop.run p.traced c t = (.ok (), c, t) := by
      simp [Operation.run, stop, held]
    refine ⟨[], ?_, ?_, trivial, fun some => absurd rfl some⟩
    · rw [called, List.append_nil]
    · rw [called]
      exact Concluded.nothing
  | some h =>
    cases running : p.isRunning h.handle t.world with
    | false =>
      rcases disposed : p.dispose h.handle t.world with ⟨outcome, w⟩
      let last := p.call .dispose h t outcome
      have gone : p.traced.dispose h t =
          (outcome, { t with world := w, calls := t.calls ++ [last] }) := by
        simp [Provider.traced, disposed, last]
      have called := stop_of_idle (p := p.traced) held running
      rw [gone] at called
      refine ⟨[last], ?_, ?_, ?_, fun _ => trivial⟩
      · exact congrArg (fun left => left.2.2.calls) called
      · rw [Operation.run, called]
        cases outcome with
        | error e => exact Concluded.single last rfl (by simp [last, Provider.call])
        | ok => exact Concluded.called _ rfl
      · simp [Guarded, last, Provider.call]
    | true =>
      rcases stopped : p.stop h.handle t.world with ⟨halted, g, v⟩
      rcases disposed : p.dispose g v with ⟨outcome, w⟩
      let halt := p.call .stop h t halted
      let u : Traced ω := { t with world := v, calls := t.calls ++ [halt] }
      let last := p.call .dispose { h with handle := g } u outcome
      have idle : p.traced.stop h t = (halted, { h with handle := g }, u) := by
        simp [Provider.traced, stopped, u, halt]
      have gone : p.traced.dispose { h with handle := g } u =
          (outcome, { u with world := w, calls := u.calls ++ [last] }) := by
        simp [Provider.traced, disposed, last, u]
      have called := stop_of_running (p := p.traced) held running
      simp only [idle, gone] at called
      refine ⟨[halt, last], ?_, ?_, ?_, fun _ => trivial⟩
      · have recorded := congrArg (fun left => left.2.2.calls) called
        exact recorded.trans (List.append_assoc _ _ _)
      · rw [Operation.run, called]
        cases halted with
        | error e => exact .torn rfl rfl rfl rfl rfl
        | ok =>
          cases outcome with
          | error e =>
            have halts : ∀ call ∈ [halt], call.failure = none := by
              simp [halt, Provider.call, Call.failureOf]
            have final : ¬ (last.kind = .stop ∧ Operation.stop = .stop) := by
              simp [last, Provider.call]
            exact .failed halts rfl final
          | ok => exact .done (by simp [halt, last, Provider.call, Call.failureOf])
      · simp [Guarded, halt, last, Provider.call, running]

/-- What any operation does, whatever its calls come to. -/
theorem course_run (op : Operation) : ∃ made, Course p op c t made := by
  cases op with
  | subscribe id => exact course_subscribe p c t id
  | unsubscribe id => exact course_unsubscribe p c t id
  | start => exact course_start p c t
  | stop => exact course_stop p c t

end Operations

end Coordinator

end Switchboard
