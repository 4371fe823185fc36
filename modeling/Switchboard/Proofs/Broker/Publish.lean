import Switchboard.Proofs.Broker.Orderly

/-!
# A publish arrives

A message that is accepted while no task has anything to do is answered with the number of its
receivers. Once the tasks have nothing to do again, which they always come to, each client that
takes messages has received it once for each running destination on the channel that it was routed
to (`publish_arrives`).
-/

namespace Switchboard

/-! ### Summing over the settings -/

/-- A sum over the values of a partial function that each give one element or none. -/
theorem sum_filterMap_ite {α β γ : Type} {f : β → Option α} {v : α → Multiset γ} {p : β → Bool}
    {w : β → γ} (cs : List β)
    (each : ∀ c ∈ cs, ∃ a, f c = some a ∧ v a = if p c then {w c} else 0) :
    (((cs.filterMap f : List α) : Multiset α).map v).sum = ((cs.filter p).map w : List γ) := by
  induction cs with
  | nil => rfl
  | cons c rest ih =>
    have ih := ih fun c later => each c (List.mem_cons_of_mem _ later)
    obtain ⟨a, found, gives⟩ := each c List.mem_cons_self
    rw [List.filterMap_cons_some found, ← Multiset.cons_coe, Multiset.map_cons, Multiset.sum_cons,
      ih, gives]
    by_cases chosen : p c = true
    · rw [if_pos chosen, List.filter_cons_of_pos chosen, List.map_cons, ← Multiset.cons_coe,
        Multiset.singleton_add]
    · rw [if_neg chosen, List.filter_cons_of_neg chosen, zero_add]

theorem Exchange.Core.Aligned.mem_routesOf {ε : Type} {k : Exchange.Core ε} (aligned : k.Aligned)
    (id client : String) : client ∈ k.delivery.routesOf id ↔ client ∈ k.members id := by
  rw [aligned.routesOf]
  exact Std.ExtTreeSet.mem_toList

namespace Deployment

variable {ε : Type}

/-- No task of a listener has anything to do. -/
def Idle (d : Deployment ε) : Prop :=
  d.broker.exchange.core.Idle

instance (d : Deployment ε) : Decidable d.Idle :=
  inferInstanceAs (Decidable d.broker.exchange.core.Idle)

def isRunning (d : Deployment ε) (id : String) : Bool :=
  (d.broker.exchange.core.adapter? id).any fun a =>
    a.state d.broker.exchange.site.hub = .running

/-- The destinations of the settings that run on `channel`. -/
def serving (d : Deployment ε) (settings : Settings) (channel : String) : List DestinationConfig :=
  settings.destinations.filter fun c => c.effectiveChannel = channel ∧ d.isRunning c.id

/-- The move is the work of a task. -/
def Move.Forwards : Move → Prop
  | forward | flush _ _ => True
  | _ => False

variable {d : Deployment ε} {channels : String → Option String} {move : Move}

/-! ### What tasks carry -/

theorem step_carried (orderly : d.Orderly channels) (forwards : move.Forwards) :
    d.broker.exchange.core.Carried (d.step move).broker.exchange.core := by
  have core := orderly.core
  cases move with
  | forward => exact (Exchange.turn_advance core.audited core.staffed).carried core
  | flush task messages =>
    change d.broker.exchange.core.Carried (Forwarding.flush task messages d.broker.exchange).core
    rcases Exchange.flush_drains core.audited core.staffed task messages with
      same | ⟨id, sub, outcome, reads, drains⟩
    · rw [same]
      exact .refl _
    · exact drains.carried core
  | _ => exact forwards.elim

theorem run_carried (schedule : List Move) (forwards : ∀ move ∈ schedule, move.Forwards) :
    ∀ {d : Deployment ε}, d.Orderly channels →
      d.broker.exchange.core.Carried (d.run schedule).broker.exchange.core := by
  induction schedule with
  | nil =>
    intro d orderly
    exact .refl _
  | cons move rest ih =>
    intro d orderly
    have first := step_carried orderly (forwards move List.mem_cons_self)
    have later := ih (fun other member => forwards other (List.mem_cons_of_mem move member))
      (step_orderly orderly move)
    exact first.trans later

/-- The tasks come to have nothing to do. -/
theorem becomes_idle (orderly : d.Orderly channels) :
    ∃ turns, (d.run (List.replicate turns .forward)).Idle := by
  -- what is left to do decides how many turns it takes
  induction left : d.broker.exchange.core.hub.ready.length + d.broker.exchange.core.load
    using Nat.strong_induction_on generalizing d with
  | _ left ih =>
    by_cases nobody : d.broker.exchange.core.hub.ready = []
    · exact ⟨0, Exchange.Core.idle_of_staffed orderly.core.staffed nobody⟩
    · have turn := Exchange.turn_advance orderly.core.audited orderly.core.staffed
      have less := turn.lighter orderly.core nobody
      obtain ⟨turns, idle⟩ := ih _ (left ▸ less) (step_orderly orderly .forward) rfl
      exact ⟨turns + 1, idle⟩

/-! ### What a publish comes to -/

section Built

variable {settings : Settings} {journal : Journal} {b : Broker ChannelAdapter Unit}
  {d : Deployment Unit}

theorem adapters_of_audited (built : Assembly.build settings journal = .ok b)
    {k : Exchange.Core Unit} {g : Guests} (audited : k.Audited settings.channel? g) :
    k.adapters = (settings.destinations.filterMap fun c => k.adapter? c.id : List _) := by
  rw [Exchange.Core.adapters_eq_of_ids (Assembly.get?_of_build built).1, List.filterMap_map]
  · rfl
  · intro id a there
    obtain ⟨c, asked, named, -⟩ := setting_of_audited audited there
    exact List.mem_map.mpr ⟨c, asked, named⟩

/-- A channel is received by the running destinations bound to its name and by guests. -/
theorem receiverCount_eq_serving (built : Assembly.build settings journal = .ok b)
    (orderly : d.Orderly settings.channel?) (channel : String) :
    d.broker.exchange.site.hub.receiverCount channel = (d.serving settings channel).length +
      (d.broker.exchange.site.hub.names[channel]?).elim 0 d.guests.receivers := by
  have counted := orderly.core.audited.sound.receiverCount_eq channel
  rw [adapters_of_audited built orderly.core.audited] at counted
  have running : ((settings.destinations.filterMap fun c =>
      d.broker.exchange.core.adapter? c.id).countP
      fun a => a.channel = channel ∧ a.state d.broker.exchange.site.hub = .running) =
        (d.serving settings channel).length := by
    rw [serving, ← List.countP_eq_length_filter]
    refine List.countP_filterMap.trans (List.countP_congr ?_)
    intro c asked
    obtain ⟨a, there, bound⟩ := adapter_of_audited built orderly.core.audited asked
    simp [isRunning, there, bound]
  exact counted.trans (congrArg (· + _) running)

theorem due_serving (built : Assembly.build settings journal = .ok b)
    (orderly : d.Orderly settings.channel?) (idle : d.Idle) (channel client : String)
    (m : Message) :
    ({ d.broker.exchange.core with
      hub := (d.broker.exchange.site.hub.publish channel m).2 } : Exchange.Core Unit).due client =
        (((d.serving settings channel).filter fun c => client ∈ d.routed c.id).map
          fun c => m.sentTo c.id : List Message) := by
  have due :=
    Exchange.Core.due_publish orderly.core.audited orderly.core.staffed idle channel client m
  rw [show d.broker.exchange.core.hub = d.broker.exchange.site.hub from rfl,
    adapters_of_audited built orderly.core.audited] at due
  rw [due, serving, List.filter_filter]
  refine sum_filterMap_ite settings.destinations ?_
  intro c asked
  obtain ⟨a, there, bound⟩ := adapter_of_audited built orderly.core.audited asked
  have named : a.destination = c.id := orderly.core.staffed.named there
  have routed : client ∈ d.routed c.id ↔ client ∈ a.coordinator.members := by
    rw [← Exchange.Core.members_of_adapter there]
    exact orderly.core.aligned.mem_routesOf c.id client
  refine ⟨a, there, ?_⟩
  simp [isRunning, there, bound, named, routed, and_comm]

/-- Over every run of the broker that settings describe: a message that is accepted for a
destination while no task has anything to do is answered with the number of running destinations on
the same channel and the subscriptions that guests have to the channel registered under its name.
Whatever turns the tasks then take, they come to have nothing to do again; and once they do, each
client that takes messages has received exactly one for each of these destinations that it was
routed to, under the name of that destination and otherwise as it was published. No other mailbox
changed. -/
theorem publish_arrives (built : Assembly.build settings journal = .ok b) (moves : List Move)
    {request : Request} {m : Message} {response : Response} (idle : (run moves ⟨b, {}⟩).Idle)
    (publishes : request.body = .publish m)
    (answered : ((run moves ⟨b, {}⟩).broker.handle request).1 = .ok response) :
    let d := run moves ⟨b, {}⟩
    ∃ c ∈ settings.destinations, c.id = request.destination ∧
      let reached := d.serving settings c.effectiveChannel
      response = .published (reached.length +
        (d.broker.exchange.site.hub.names[c.effectiveChannel]?).elim 0 d.guests.receivers) ∧
      ∀ schedule : List Move, (∀ move ∈ schedule, move.Forwards) →
        let e := (d.step (.handle request)).run schedule
        (∃ turns, (e.run (List.replicate turns .forward)).Idle) ∧
        (e.Idle →
          let before := d.broker.exchange.delivery
          let after := e.broker.exchange.delivery
          (∀ client mailbox, before.Opens client mailbox → after.Opens client mailbox ∧
            ∃ new, after.pending mailbox = before.pending mailbox ++ new ∧
              new.Perm ((reached.filter fun c' => client ∈ d.routed c'.id).map
                fun c' => m.sentTo c'.id)) ∧
          ∀ mailbox, (∀ client, ¬ before.Opens client mailbox) →
            after.pending mailbox = before.pending mailbox) := by
  intro d
  obtain ⟨⟨rules, chain⟩, -⟩ := run_audited built moves
  have orderly := run_orderly built moves
  obtain ⟨a, there, answer, left⟩ := Broker.publish_ok chain publishes answered
  obtain ⟨c, asked, named, channel⟩ :=
    setting_of_audited orderly.core.audited (Exchange.adapter?_of_get? there)
  refine ⟨c, asked, named, ?_, ?_⟩
  · rw [answer, Hub.reached_publish, channel, receiverCount_eq_serving built orderly]
  · intro schedule forwards e
    have started : (d.step (.handle request)).Orderly settings.channel? := step_orderly orderly _
    refine ⟨becomes_idle (run_keeps_orderly schedule started), ?_⟩
    intro rested before after
    have carried := run_carried schedule forwards started
    rw [show (d.step (.handle request)).broker.exchange.core = _ from left] at carried
    refine ⟨?_, fun mailbox shut => (carried.spared shut).2⟩
    intro client mailbox opens
    obtain ⟨opens', new, gained, owed⟩ := carried.received opens
    refine ⟨opens', new, gained, ?_⟩
    rw [Exchange.Core.due_of_idle rested, add_zero, due_serving built orderly idle, ← channel]
      at owed
    exact Multiset.coe_eq_coe.mp owed

/-- Two destinations share a channel with a guest. A client of both finds the message twice, under
their names; a client that takes no more messages finds nothing, although it is still routed. -/
theorem publish_arrives_on_shared_channel :
    let settings : Settings := { destinations := [{ id := "quotes", channel := some "ticks" },
      { id := "trades", channel := some "ticks" }] }
    let m : Message := { id := ⟨7⟩, destination := "elsewhere", body := [1], timestamp := 0 }
    let subscribe (client destination : String) : Move :=
      .handle { client, destination, body := .subscribe }
    let setup := [.connect "A", .connect "B", subscribe "A" "quotes", subscribe "A" "trades",
      subscribe "B" "trades", .closeMailbox 1, .guest (.subscribe "ticks"), .forward, .forward]
    let request : Request := { client := "C", destination := "quotes", body := .publish m }
    let schedule := [.forward, .flush 1 1, .forward]
    ∃ b, Assembly.build settings = .ok b ∧
      let d : Deployment Unit := run setup ⟨b, {}⟩
      let e := (d.step (.handle request)).run schedule
      d.Idle ∧ (d.broker.handle request).1 = .ok (.published 3) ∧ e.Idle ∧
        d.routed "trades" = ["A", "B"] ∧
        (∃ new, e.broker.exchange.delivery.pending 0 =
            d.broker.exchange.delivery.pending 0 ++ new ∧
          new.Perm [m.sentTo "quotes", m.sentTo "trades"]) ∧
        e.broker.exchange.delivery.pending 1 = d.broker.exchange.delivery.pending 1 := by
  intro settings m subscribe setup request schedule
  let receivers (answer : Except Failure Response) : Option Nat :=
    match answer with
    | .ok (.published n) => some n
    | _ => none
  have outcome : ((Assembly.build settings).toOption.any fun b =>
      let d : Deployment Unit := run setup ⟨b, {}⟩
      let e := (d.step (.handle request)).run schedule
      let x := d.broker.exchange.delivery
      decide (d.Idle ∧ receivers (d.broker.handle request).1 = some 3 ∧ e.Idle ∧
        d.routed "trades" = ["A", "B"] ∧ x.outboxes["A"]? = some 0 ∧ x.accepts 0 = true ∧
        x.accepts 1 = false ∧ ((d.serving settings "ticks").filter fun c =>
          "A" ∈ d.routed c.id).map (·.id) = ["quotes", "trades"])) = true := by
    decide +kernel
  obtain ⟨b, there, all⟩ := (Option.any_eq_true _ _).mp outcome
  have built := Assembly.build_of_toOption there
  have forwards : ∀ move ∈ schedule, move.Forwards := by simp [schedule, Move.Forwards]
  have publishes : request.body = .publish m := rfl
  have asked : request.destination = "quotes" := rfl
  obtain ⟨idle, answered, rested, routed, outbox, takes, refuses, reached⟩ := of_decide_eq_true all
  have answered : ((run setup ⟨b, {}⟩).broker.handle request).1 = .ok (.published 3) := by
    generalize ((run setup ⟨b, {}⟩).broker.handle request).1 = answer at answered
    rcases answer with _ | _ | n | _
    all_goals cases answered
    rfl
  -- from here on the runs are not to be computed again
  clear_value setup schedule request
  obtain ⟨c, listed, named, -, arrives⟩ := publish_arrives built setup idle publishes answered
  obtain ⟨received, spared⟩ := (arrives schedule forwards).2 rested
  have channel : c.effectiveChannel = "ticks" := by
    rcases List.mem_pair.mp listed with rfl | rfl <;> rfl
  obtain ⟨-, new, gained, copies⟩ := received "A" 0 ⟨outbox, takes⟩
  have copies : new.Perm (["quotes", "trades"].map m.sentTo) := by
    rw [← reached, List.map_map]
    exact channel ▸ copies
  refine ⟨b, built, idle, answered, rested, routed, ⟨new, gained, copies⟩, spared 1 ?_⟩
  intro client opens
  cases opens.accepts.symm.trans refuses

end Built

end Deployment

end Switchboard
