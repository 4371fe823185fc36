import Switchboard.Proofs.Delivery
import Switchboard.Proofs.Exchange.Forwarding
import Switchboard.Proofs.Lifecycle.Course

/-!
# An exchange that was shut down

Stopping an adapter never fails and leaves it without a listener. Once the hub is shut down besides,
no adapter gets a listener again: no operation of an adapter touches the hub any more, and no task
finds anything to forward.
-/

namespace Switchboard

/-! ### One adapter -/

namespace ChannelAdapter

variable {a : ChannelAdapter} {h : Hub}

theorem stop_ok (a : ChannelAdapter) (h : Hub) :
    (Coordinator.Operation.stop.run a.provider a.coordinator h).1 = .ok () := by
  change (Coordinator.stop a.provider a.coordinator h).1 = .ok ()
  cases held : a.coordinator.held with
  | none =>
    unfold Coordinator.stop
    rw [held]
  | some l =>
    cases running : a.provider.isRunning l h with
    | false =>
      rw [Coordinator.stop_of_idle held running]
      rfl
    | true =>
      rw [Coordinator.stop_of_running held running]
      rfl

theorem held_of_stopped (a : ChannelAdapter) (h : Hub) :
    (a.coordinated .stop h).1.coordinator.held = none :=
  Coordinator.held_of_stop a.provider a.coordinator h

/-- After a shutdown no listener can be made, so there is nothing to start or to stop. -/
theorem coordinated_of_down (down : h.Down) (idle : a.coordinator.held = none)
    (op : Coordinator.Operation) :
    (a.coordinated op h).1.coordinator.held = none ∧ (a.coordinated op h).2 = h := by
  have keeps : a.provider.Preserves fun handle h' => handle = none ∧ h' = h := by
    refine ⟨?_, ?_, ?_, ?_⟩
    · rintro w ⟨-, rfl⟩
      obtain ⟨reason, refused⟩ := down.openChannel a.channel
      simp [provider, Listener.provider, refused, Except.toOption]
    all_goals
      rintro l w ⟨there, -⟩
      cases there
  exact Coordinator.run_preserves keeps op ⟨idle, rfl⟩

theorem exec_start_of_down {ε : Type} {s : Site ε} (down : s.hub.Down)
    (idle : a.coordinator.held = none) : ∃ f, (start.exec (a, s)).1 = .error f := by
  obtain ⟨reason, refused⟩ := down.openChannel a.channel
  have failed : (Coordinator.start a.provider a.coordinator s.hub).1 =
      .error (.initialization a.destination (.unavailable reason)) := by
    simp [Coordinator.start, Coordinator.ensure, Coordinator.replace, idle, provider,
      Listener.provider, refused, destination]
  simp [start, Attempt.exec, failed]

end ChannelAdapter

/-! ### All of them -/

namespace Exchange

variable {ε : Type}

namespace Core

/-- The hub is shut down and no adapter has a listener. -/
structure Closed (k : Core ε) : Prop where
  down : k.hub.Down
  idle {id a} (there : k.adapter? id = some a) : a.coordinator.held = none

variable {k : Core ε} {id : String} {a : ChannelAdapter} {h : Hub}

theorem Closed.operate (closed : k.Closed) (op : Coordinator.Operation) (id : String) :
    (k.operate op id).Closed := by
  cases there : k.adapter? id with
  | none =>
    rw [operate_of_free there]
    exact closed
  | some a =>
    obtain ⟨idle, same⟩ := ChannelAdapter.coordinated_of_down closed.down (closed.idle there) op
    rw [operate_of_adapter there]
    refine ⟨same.symm ▸ closed.down, ?_⟩
    intro other b found
    rw [adapter?_setAdapter] at found
    split at found
    · cases found
      exact idle
    · exact closed.idle found

theorem Closed.operateAll (closed : k.Closed) (op : Coordinator.Operation) (ids : List String) :
    (k.operateAll op ids).Closed :=
  operateAll_induction ids (fun closed id => closed.operate op id) closed

theorem Closed.withDelivery (closed : k.Closed) (d : Delivery) :
    ({ k with delivery := d } : Core ε).Closed :=
  ⟨closed.down, closed.idle⟩

theorem Closed.similar (closed : k.Closed) (similar : k.hub.Similar h) :
    ({ k with hub := h } : Core ε).Closed :=
  ⟨closed.down.similar similar, closed.idle⟩

theorem Closed.stable : Stable (Closed (ε := ε)) where
  hub closed similar := closed.similar similar
  look closed there held := by
    rw [closed.idle there] at held
    cases held
  mark closed there held := by
    rw [closed.idle there] at held
    cases held
  tables {k d} closed _ := closed.withDelivery d
  depart {k} closed client :=
    (closed.withDelivery (k.delivery.disconnect client).2).operateAll _ _

theorem Closed.dispatch (closed : k.Closed) (request : Request) : (k.dispatch request).Closed := by
  unfold Core.dispatch
  split
  · split
    · exact (closed.withDelivery _).operate _ _
    · exact closed
  · exact (closed.withDelivery _).operate _ _
  · exact closed.similar (Hub.similar_publish _ _ _)
  · exact closed

/-- Stopping leaves the adapters that were stopped without listeners, and gives none to the
others. -/
theorem idle_of_stopAll (ids : List String) : ∀ {k : Core ε},
    (∀ {id a}, k.adapter? id = some a → id ∈ ids ∨ a.coordinator.held = none) →
      ∀ {id a}, (k.operateAll .stop ids).adapter? id = some a → a.coordinator.held = none := by
  induction ids with
  | nil =>
    intro k covered id a there
    exact (covered there).resolve_left List.not_mem_nil
  | cons first rest ih =>
    intro k covered
    refine ih (k := k.operate .stop first) ?_
    intro id a there
    cases found : k.adapter? first with
    | none =>
      rw [operate_of_free found] at there
      refine (covered there).imp_left fun member => (List.mem_cons.mp member).resolve_left ?_
      rintro rfl
      rw [found] at there
      cases there
    | some b =>
      rw [operate_of_adapter found, adapter?_setAdapter] at there
      split at there
      · cases there
        exact Or.inr (ChannelAdapter.held_of_stopped b k.hub)
      · rename_i differs
        refine (covered there).imp_left fun member => (List.mem_cons.mp member).resolve_left ?_
        exact Ne.symm differs

theorem dispatch_quiet (k : Core ε) (request : Request) :
    k.delivery.Quiet (k.dispatch request).delivery := by
  unfold Core.dispatch
  split
  · split
    · rw [delivery_operate]
      exact .of_same rfl rfl
    · exact .refl _
  · rw [delivery_operate]
    exact .of_same rfl rfl
  · exact .refl _
  · exact .refl _

theorem depart_quiet (k : Core ε) (client : String) :
    k.delivery.Quiet (k.depart client).delivery := by
  rw [depart, delivery_operateAll]
  exact .of_same rfl rfl

end Core

variable {x : Exchange ChannelAdapter ε}

theorem onEach_stop_ok (ids : List String) (x : Exchange ChannelAdapter ε) :
    ((onEach MessagingAdapter.stop ids).run x).1 = .ok () :=
  onEach_succeeds (P := fun _ => True) ChannelAdapter.stop_performs (fun _ _ => trivial)
    (fun _ _ => ChannelAdapter.stop_ok _ _) ids trivial

theorem start_refused (closed : x.core.Closed) {id : String} {a : ChannelAdapter}
    (there : x.core.adapter? id = some a) (rest : List String) :
    ∃ f, ((onEachUntil MessagingAdapter.start (id :: rest)).exec x).1 = .error f := by
  obtain ⟨f, failed⟩ := ChannelAdapter.exec_start_of_down (s := x.site) closed.down
    (closed.idle there)
  have found : (x.registry.get? id).bind Destination.adapter? = some a := there
  have first : ((onAdapter? id MessagingAdapter.start).run x).1 = some (.error f) := by
    have refused : ((withAdapter id a MessagingAdapter.start).exec x).1 = .error f := failed
    simpa [onAdapter?, found, Attempt.outcome] using refused
  rw [exec_onEachUntil_cons]
  rcases reached : (onAdapter? id MessagingAdapter.start).run x with ⟨outcome, x'⟩
  rw [reached] at first
  cases first
  exact ⟨f, rfl⟩

theorem listener?_of_closed (closed : x.core.Closed) (task : Nat) :
    Forwards.listener? task x = none := by
  cases found : Forwards.listener? task x with
  | none => rfl
  | some l =>
    obtain ⟨id, a, there, held, -⟩ := core_setListener found
    rw [closed.idle there] at held
    cases held

theorem delivery_advance (closed : x.core.Closed) :
    (Forwarding.advance x).delivery = x.delivery := by
  unfold Forwarding.advance Forwarding.step?
  cases ready : (Forwards.hub x).nextReady? with
  | none => rfl
  | some first =>
    obtain ⟨task, h⟩ := first
    have nobody : Forwards.listener? task (Forwards.setHub h x) = none :=
      listener?_of_closed (x := x) closed task
    simp only [nobody]
    rfl

theorem flush_of_closed (closed : x.core.Closed) (task n : Nat) :
    Forwarding.flush task n x = x := by
  unfold Forwarding.flush
  rw [listener?_of_closed closed]

end Exchange

end Switchboard
