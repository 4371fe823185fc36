import Switchboard.Proofs.Delivery
import Switchboard.Proofs.Exchange.Rounds

/-!
# Failing adapters

Whichever adapters fail, and at whatever, a broker stops all of them, and a client that leaves is
unsubscribed from all that it was routed to. Only a start ends with the first failure
(`failures_contained`).
-/

namespace Switchboard

/-! ### Who departs -/

namespace Delivery

/-- The client has an outbox, but its mailbox takes no more messages. -/
def isGone (d : Delivery) (client : String) : Bool :=
  d.outboxes[client]?.any fun mailbox => !d.accepts mailbox

/-- Offering a message of `destination` to `clients` comes to `departures`: those of them depart
that are gone, each with all the destinations that it was routed to. -/
structure Departs (d : Delivery) (destination : String) (clients : List String)
    (departures : List Departure) : Prop where
  clients : departures.map Departure.client = clients.filter d.isGone
  noticed {departure : Departure} (departed : departure ∈ departures) :
    departure.noticed = destination
  ascending {departure : Departure} (departed : departure ∈ departures) :
    departure.destinations.Pairwise (· < ·)
  routes {departure : Departure} (departed : departure ∈ departures) (id : String) :
    id ∈ departure.destinations ↔ d.isRouted id departure.client = true

variable {d : Delivery} {client other : String}

theorem isGone_congr {d' : Delivery} (outbox : d'.outboxes[client]? = d.outboxes[client]?)
    (accepts : ∀ mailbox, d'.accepts mailbox = d.accepts mailbox) :
    d'.isGone client = d.isGone client := by
  unfold isGone
  simp only [outbox, accepts]

/-- What is offered to one client changes neither whether another is gone nor its routes. -/
theorem offer_spares (differs : client ≠ other) (destination : String) (m : Message) :
    (d.offer destination m client).2.isGone other = d.isGone other ∧
      ∀ id, (d.offer destination m client).2.isRouted id other = d.isRouted id other := by
  have outcome := offered_offer d destination m client
  generalize d.offer destination m client = result at outcome
  cases outcome with
  | absent free => exact ⟨rfl, fun _ => rfl⟩
  | @received mailbox pending outbox found =>
    have takes : d.accepts mailbox = true := by rw [accepts, found]
    exact ⟨isGone_congr rfl (accepts_insert takes), fun _ => rfl⟩
  | departed outbox shut =>
    refine ⟨isGone_congr ?_ fun _ => rfl, ?_⟩
    · simp only [disconnect, takeRoutes, Std.ExtTreeMap.getElem?_erase,
        Std.LawfulEqCmp.compare_eq_iff_eq, if_neg differs]
    · intro id
      rw [Bool.eq_iff_iff]
      exact (isRouted_disconnect d client id other).trans (and_iff_right differs)

theorem departs_of_nobody {destination : String} {clients : List String}
    (nobody : clients.filter d.isGone = []) : d.Departs destination clients [] := by
  refine ⟨nobody.symm, ?_, ?_, ?_⟩ <;> intro departure departed <;> cases departed

theorem departs_offer (d : Delivery) (destination : String) (m : Message) (client : String) :
    d.Departs destination [client] (d.offer destination m client).1.toList := by
  have outcome := offered_offer d destination m client
  generalize d.offer destination m client = result at outcome
  cases outcome with
  | absent free =>
    have stays : d.isGone client = false := by simp [isGone, free]
    exact departs_of_nobody (by simp [stays])
  | received outbox found =>
    have stays : d.isGone client = false := by simp [isGone, accepts, outbox, found]
    exact departs_of_nobody (by simp [stays])
  | departed outbox shut =>
    have gone : d.isGone client = true := by simp [isGone, outbox, shut]
    refine ⟨by simp [gone], ?_, ?_, ?_⟩ <;> intro departure departed <;>
      cases Option.mem_toList.mp departed
    · rfl
    · exact disconnect_ascending d client
    · intro id
      rw [mem_disconnect, isRouted_iff]

theorem departs_offerAll (destination : String) (m : Message) {clients : List String}
    (distinct : clients.Nodup) :
    ∀ d : Delivery, d.Departs destination clients (offerAll destination m clients d).1 := by
  induction clients with
  | nil => exact fun d => departs_of_nobody rfl
  | cons client rest ih =>
    intro d
    obtain ⟨apart, distinct⟩ := List.nodup_cons.mp distinct
    have first := departs_offer d destination m client
    have others := ih distinct (d.offer destination m client).2
    -- what the first client leaves behind is of no concern to the others
    have spared {other} (member : other ∈ rest) :=
      offer_spares (d := d) (fun same : client = other => apart (same ▸ member)) destination m
    have left : rest.filter (d.offer destination m client).2.isGone = rest.filter d.isGone :=
      List.filter_congr fun other member => (spared member).1
    rw [offerAll]
    refine ⟨?_, ?_, ?_, ?_⟩
    · rw [List.map_append, first.clients, others.clients, left, ← List.filter_append]
      rfl
    all_goals
      intro departure departed
      rcases List.mem_append.mp departed with early | late
    · exact first.noticed early
    · exact others.noticed late
    · exact first.ascending early
    · exact others.ascending late
    · exact first.routes early
    · intro id
      have listed := List.mem_map_of_mem (f := Departure.client) late
      rw [others.clients] at listed
      rw [others.routes late, (spared (List.mem_filter.mp listed).1).2]

theorem departs_deliver (d : Delivery) (destination : String) (m : Message) :
    d.Departs destination (d.routesOf destination) (d.deliver destination m).1 :=
  departs_offerAll destination m ((routesOf_ascending d destination).imp String.ne_of_lt) d

end Delivery

/-! ### Releases -/

namespace Exchange

variable {α ε : Type}

/-- The exchange after the outbox and the routes of a client are dropped, before any adapter is
told. -/
def dropped (client : String) (x : Exchange α ε) : Exchange α ε :=
  let (destinations, delivery) := x.delivery.disconnect client
  Journaled.record (event .debug "client disconnected" [("client_id", .text client),
    ("subscriptions", .number destinations.length)]) { x with delivery }

/-- What is left of the failure of a release. -/
def reported (client : String) (outcome : Except Failure Unit) (x : Exchange α ε) : Exchange α ε :=
  match outcome with
  | .ok () => x
  | .error f =>
    Journaled.record (event .warn "unsubscribing departed client failed"
      [("client_id", .text client), ("error", .rendered f.message)]) x

variable [MessagingAdapter α ε]

/-- From `x` to `y`, one departed client after the other is unsubscribed from all adapters that it
was routed to. What fails is logged, and no more. -/
inductive Releases : Exchange α ε → List Departure → Exchange α ε → Prop
  | nil (x : Exchange α ε) : Releases x [] x
  | cons {x y z : Exchange α ε} {departure : Departure} {rest : List Departure} {calls : List Call}
      (round : Round (MessagingAdapter.unsubscribe departure.client) (· ∈ departure.destinations)
        (Journaled.record departure.event x) calls y)
      (others : Releases (reported departure.client (firstFailure calls) y) rest z) :
      Releases x (departure :: rest) z

theorem Releases.delivery {x y : Exchange α ε} {departures : List Departure}
    (released : Releases x departures y) : y.delivery = x.delivery := by
  induction released with
  | nil => rfl
  | cons round others ih =>
    rw [ih]
    refine Eq.trans ?_ round.made.delivery
    unfold reported
    split <;> rfl

theorem run_release (departure : Departure) (x : Exchange α ε) :
    ((release departure).run x).2 =
      let left := (onEach (MessagingAdapter.unsubscribe departure.client)
        departure.destinations).run (Journaled.record departure.event x)
      reported departure.client left.1 left.2 := by
  rcases outcome : (onEach (MessagingAdapter.unsubscribe departure.client)
    departure.destinations).run (Journaled.record departure.event x) with ⟨result, y⟩
  rw [release]
  simp only [StateT.run_bind, run_log, id_bind, outcome]
  rcases result with _ | _ <;> rfl

theorem releases (departures : List Departure)
    (ascending : ∀ departure ∈ departures, departure.destinations.Pairwise (· < ·)) :
    ∀ x : Exchange α ε,
      Releases x departures (departures.foldl (fun x d => ((release d).run x).2) x) := by
  induction departures with
  | nil => exact fun x => .nil x
  | cons departure rest ih =>
    intro x
    obtain ⟨first, others⟩ := List.forall_mem_cons.mp ascending
    obtain ⟨calls, round, outcome⟩ := round_onEach
      (MessagingAdapter.unsubscribe departure.client) first
      (Journaled.record departure.event x)
    refine .cons round ?_
    rw [List.foldl_cons, run_release, ← outcome]
    exact ih others _

theorem releases_deliver (destination : String) (m : Message) (x : Exchange α ε) :
    let left := x.delivery.deliver destination m
    Releases { x with delivery := left.2 } left.1 (deliver destination m x) :=
  releases _ (fun _ departed =>
    (Delivery.departs_deliver x.delivery destination m).ascending departed) _

end Exchange

/-! ### The broker -/

namespace Broker

open Exchange

variable {α ε : Type} [MessagingAdapter α ε] (b : Broker α ε)

theorem trial_start : ∃ calls y, Trial MessagingAdapter.start b.exchange calls y ∧
    b.start = (firstFailure calls, { b with
      exchange := match firstFailure calls with
        | .ok () => Journaled.record (event .info "message broker started"
            [("destinations", .number y.registry.size)]) y
        | .error _ => y }) := by
  obtain ⟨calls, trial, outcome⟩ := trial_onEachUntil MessagingAdapter.start b.exchange
  refine ⟨calls, _, trial, ?_⟩
  rw [← outcome]
  rcases started : (onEachUntil MessagingAdapter.start b.exchange.messagingIds).exec b.exchange
    with ⟨_ | _, x⟩ <;>
  simp [start, act, Attempt.outcome,
    show StateT.run (ExceptT.run (onEachUntil _ _)) _ = _ from started]

theorem round_stop : ∃ calls y, Round MessagingAdapter.stop (fun _ => True) b.exchange calls y ∧
    b.stop = (firstFailure calls, { b with
      exchange := Journaled.record (event .info "message broker stopped") y }) := by
  obtain ⟨calls, round, outcome⟩ := round_onEach MessagingAdapter.stop
    b.exchange.messagingIds_ascending b.exchange
  refine ⟨calls, _, ⟨round.made, round.ascending, ?_⟩, ?_⟩
  · intro id
    rw [round.covers, mem_messagingIds_iff, and_self, true_and]
  · rw [← outcome]
    rfl

theorem round_disconnect (client : String) : ∃ calls y,
    Round (MessagingAdapter.unsubscribe client)
      (fun id => b.exchange.delivery.isRouted id client = true)
      (dropped client b.exchange) calls y ∧
    b.disconnect client = (firstFailure calls, { b with exchange := y }) := by
  obtain ⟨calls, round, outcome⟩ := round_onEach (MessagingAdapter.unsubscribe client)
    (Delivery.disconnect_ascending b.exchange.delivery client) (dropped client b.exchange)
  refine ⟨calls, _, ⟨round.made, round.ascending, ?_⟩, ?_⟩
  · intro id
    rw [round.covers, Delivery.mem_disconnect, Delivery.isRouted_iff]
  · rw [← outcome]
    rfl

/-- A start tries the adapters in ascending order of their ids up to the first failure. A stop calls
all of them in that order, and a client that disconnects or departs is unsubscribed from all that it
was routed to, whichever of them fail. Each of these gives the first failure, and a delivery none.
-/
theorem failures_contained :
    (∃ calls y, Trial MessagingAdapter.start b.exchange calls y ∧
      b.start = (firstFailure calls, { b with
        exchange := match firstFailure calls with
          | .ok () => Journaled.record (event .info "message broker started"
              [("destinations", .number y.registry.size)]) y
          | .error _ => y })) ∧
    (∃ calls y, Round MessagingAdapter.stop (fun _ => True) b.exchange calls y ∧
      b.stop = (firstFailure calls, { b with
        exchange := Journaled.record (event .info "message broker stopped") y })) ∧
    (∀ client, ∃ calls y,
      Round (MessagingAdapter.unsubscribe client)
        (fun id => b.exchange.delivery.isRouted id client = true)
        (dropped client b.exchange) calls y ∧
      b.disconnect client = (firstFailure calls, { b with exchange := y })) ∧
    ∀ destination m, ∃ departures delivery,
      b.exchange.delivery.deliver destination m = (departures, delivery) ∧
      b.exchange.delivery.Departs destination (b.exchange.delivery.routesOf destination)
        departures ∧
      Releases { b.exchange with delivery } departures (deliver destination m b.exchange) ∧
      (deliver destination m b.exchange).delivery = delivery := by
  refine ⟨b.trial_start, b.round_stop, b.round_disconnect, ?_⟩
  intro destination m
  have released := releases_deliver destination m b.exchange
  exact ⟨_, _, rfl, Delivery.departs_deliver b.exchange.delivery destination m, released,
    released.delivery⟩

end Broker

end Switchboard
