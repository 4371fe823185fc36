import Switchboard.Proofs.Broker.Accounts

/-!
# Requests that are refused

The chain, the registry and the dispatcher may each refuse a request. In a broker that settings
describe, the settings and the outboxes decide who does and why (`Settings.refusal?`), and nothing
was changed by then. Where nobody refuses, only a listener can fail (`handle_refuses`).
-/

namespace Switchboard

namespace Settings

variable (settings : Settings)

/-- The roles that protect a destination. One without any is open to everybody. -/
def rolesOf (id : String) : List String :=
  (settings.destination? id).elim [] DestinationConfig.roles

/-- Why the chain refuses a request. -/
def denial? (request : Request) : Option BrokerError :=
  if settings.rolesOf request.destination = [] then none
  else match request.principal with
    | none => some (.unauthorized request.destination)
    | some p =>
      if ∀ role ∈ settings.rolesOf request.destination, role ∉ p.roles then
        some (.permissionDenied request.destination p.name)
      else none

/-- Why a request is refused that came through the chain. -/
def rejection? (delivery : Delivery) (request : Request) : Option BrokerError :=
  if settings.destination? request.destination = none then
    some (.destinationNotFound request.destination)
  else if request.kind = .invoke then
    some (.unsupportedRequest request.destination .invoke)
  else if request.kind = .subscribe ∧ delivery.isConnected request.client = false then
    some (.clientNotConnected request.client)
  else none

/-- Why a request is refused, if it is: what the chain says comes first. -/
def refusal? (delivery : Delivery) (request : Request) : Option BrokerError :=
  (settings.denial? request).or (settings.rejection? delivery request)

end Settings

variable {settings : Settings} {request : Request}

/-- The chain refuses what the settings say. -/
theorem AccessRules.denial?_eq {rules : AccessRules}
    (roles : ∀ id, rules.roles[id]? = (settings.destination? id).bind DestinationConfig.accepted?) :
    rules.denial? request = settings.denial? request := by
  unfold AccessRules.denial? Settings.denial?
  rw [roles, Settings.rolesOf]
  cases settings.destination? request.destination with
  | none => rfl
  | some c =>
    rw [Option.bind_some, Option.elim_some]
    by_cases bare : c.roles = []
    · rw [DestinationConfig.accepted?, if_pos bare, if_pos bare]
    · rw [DestinationConfig.accepted?, if_neg bare, if_neg bare]
      cases request.principal with
      | none => rfl
      | some p =>
        have strange : (∀ role ∈ c.roles, role ∉ p.roles) ↔ ¬ c.roles.any p.hasRole = true := by
          simp [Principal.hasRole]
        simp only [strange, ite_not]

/-! ### The registry and the dispatcher -/

namespace Exchange

variable {ε : Type} {x : Exchange ChannelAdapter ε} {g : Guests} {e : BrokerError} {f : Failure}

theorem get?_eq_none_iff (audited : x.core.Audited settings.channel? g) {id : String} :
    x.registry.get? id = none ↔ settings.destination? id = none := by
  have bound := audited.bound id
  rw [Core.adapter?, show x.core.registry = x.registry from rfl, Settings.channel?] at bound
  cases found : x.registry.get? id with
  | none =>
    rw [found] at bound
    exact iff_of_true rfl (Option.map_eq_none_iff.mp bound.symm)
  | some d =>
    obtain ⟨a, rfl⟩ := audited.messaging found
    rw [found] at bound
    refine iff_of_false (Option.some_ne_none _) ?_
    intro unknown
    rw [unknown] at bound
    cases bound

theorem failure_of_withAdapter {op : Attempt (ChannelAdapter × Site ε) Unit} {id : String}
    {a : ChannelAdapter} {response : Response} (relays : ChannelAdapter.Relays op)
    (failed : ((withAdapter id a op).exec x).1.map (fun () => response) = .error f) :
    ∃ e note, f = (Failure.lifecycle e).withNote note := by
  cases outcome : (op.exec (a, x.site)).1 with
  | error f' =>
    rw [show ((withAdapter id a op).exec x).1 = _ from outcome] at failed
    cases failed
    exact relays outcome
  | ok _ =>
    rw [show ((withAdapter id a op).exec x).1 = _ from outcome] at failed
    cases failed

/-- A request is rejected before anything was changed, or it fails with a listener or not at all. -/
theorem dispatch_answers (audited : x.core.Audited settings.channel? g) (request : Request) :
    (∃ e, settings.rejection? x.delivery request = some e ∧
      (dispatch request).exec x = (.error (Failure.broker e), x)) ∨
    settings.rejection? x.delivery request = none ∧
      ∀ f, ((dispatch request).exec x).1 = .error f →
        ∃ e note, f = (Failure.lifecycle e).withNote note := by
  rw [exec_dispatch]
  unfold Settings.rejection?
  cases found : x.registry.get? request.destination with
  | none => exact Or.inl ⟨_, if_pos ((get?_eq_none_iff audited).mp found), rfl⟩
  | some d =>
    obtain ⟨a, rfl⟩ := audited.messaging found
    have known : settings.destination? request.destination ≠ none := by
      rw [ne_eq, ← get?_eq_none_iff audited, found]
      exact Option.some_ne_none _
    rw [if_neg known, Request.kind]
    cases request.body with
    | invoke operation args => exact Or.inl ⟨_, rfl, rfl⟩
    | subscribe =>
      dsimp only
      rw [exec_subscribe]
      cases connected : x.delivery.isConnected request.client with
      | false => exact Or.inl ⟨_, rfl, rfl⟩
      | true =>
        refine Or.inr ⟨rfl, ?_⟩
        intro f failed
        exact failure_of_withAdapter (ChannelAdapter.subscribe_relays request.client) failed
    | unsubscribe =>
      refine Or.inr ⟨rfl, ?_⟩
      intro f failed
      dsimp only at failed
      rw [exec_unsubscribe] at failed
      exact failure_of_withAdapter (ChannelAdapter.unsubscribe_relays request.client) failed
    | publish m =>
      refine Or.inr ⟨rfl, ?_⟩
      intro f failed
      obtain ⟨receivers, succeeded⟩ := publish_ok found m
      cases succeeded.symm.trans failed

end Exchange

/-! ### The broker -/

namespace Broker

variable {ε : Type} {x : Exchange ChannelAdapter ε} {rules : AccessRules} {g : Guests}
  {e : BrokerError} {f : Failure}

theorem authorize_refused
    (denial : rules.denial? request = settings.denial? request)
    (audited : x.core.Audited settings.channel? g)
    (refused : settings.refusal? x.delivery request = some e) :
    ((rules.authorize Exchange.dispatch request).exec x).1 = .error (Failure.broker e) ∧
      ((rules.authorize Exchange.dispatch request).exec x).2.core = x.core := by
  rw [exec_authorize, denial]
  rcases Option.or_eq_some_iff.mp refused with denied | ⟨allowed, rejected⟩
  · rw [denied]
    exact ⟨rfl, rfl⟩
  · rw [allowed]
    rcases Exchange.dispatch_answers audited request with ⟨e', same, answered⟩ | ⟨accepted, -⟩
    · cases rejected.symm.trans same
      rw [answered]
      exact ⟨rfl, rfl⟩
    · cases rejected.symm.trans accepted

theorem failure_of_accepted
    (denial : rules.denial? request = settings.denial? request)
    (audited : x.core.Audited settings.channel? g)
    (accepted : settings.refusal? x.delivery request = none)
    (failed : ((rules.authorize Exchange.dispatch request).exec x).1 = .error f) :
    ∃ e note, f = (Failure.lifecycle e).withNote note := by
  obtain ⟨allowed, unrejected⟩ := Option.or_eq_none_iff.mp accepted
  rw [exec_authorize, denial, allowed] at failed
  rcases Exchange.dispatch_answers audited request with ⟨e, rejected, -⟩ | ⟨-, relayed⟩
  · cases rejected.symm.trans unrejected
  · exact relayed f failed

end Broker

theorem Failure.disclosed_lifecycle (e : LifecycleError) (note : String) :
    ((Failure.lifecycle e).withNote note).disclosed = (Failure.lifecycle e).masked :=
  disclosed_of_lifecycle e [note]

namespace Deployment

/-- Over every run of the broker that settings describe, a request is refused for the first reason
there is, and the hub, the outboxes, the routes and the adapters are left as they were. Without a
reason it is not refused: if it fails, then because a listener does. -/
theorem handle_refuses {settings : Settings} {journal : Journal} {b : Broker ChannelAdapter Unit}
    (built : Assembly.build settings journal = .ok b) (moves : List Move) (request : Request) :
    let broker := (run moves ⟨b, {}⟩).broker
    let left := broker.handle request
    (∀ e, settings.refusal? broker.exchange.delivery request = some e →
      left.1 = .error (Failure.broker e).disclosed ∧
        (Failure.broker e).disclosed.status = e.status ∧
        left.2.exchange.core = broker.exchange.core) ∧
    (settings.refusal? broker.exchange.delivery request = none → ∀ f, left.1 = .error f →
      (∃ e, f = (Failure.lifecycle e).masked) ∧ ∀ e : BrokerError, f.status ≠ e.status) := by
  intro broker left
  obtain ⟨-, audited⟩ := run_audited built moves
  obtain ⟨rules, masked, roles⟩ := Assembly.chain_of_build built
  have chain : broker.chain = [.conversion [.maskServerErrors], .authorization rules] :=
    (run_chain moves ⟨b, {}⟩).trans masked
  have denial : rules.denial? request = settings.denial? request := AccessRules.denial?_eq roles
  have outcome : left.1 = _ := Broker.outcome_handle chain request
  refine ⟨?_, ?_⟩
  · intro e refused
    obtain ⟨failed, kept⟩ := Broker.authorize_refused denial audited refused
    rw [failed] at outcome
    exact ⟨outcome, Failure.disclosed_status _, (Broker.core_handle_eq chain request).trans kept⟩
  · intro accepted f failed
    rw [failed] at outcome
    cases reached : ((rules.authorize Exchange.dispatch request).exec broker.exchange).1 with
    | ok response =>
      rw [reached] at outcome
      cases outcome
    | error f' =>
      obtain ⟨e, note, rfl⟩ := Broker.failure_of_accepted denial audited accepted reached
      rw [reached, Except.mapError, Failure.disclosed_lifecycle] at outcome
      cases outcome
      refine ⟨⟨e, rfl⟩, ?_⟩
      intro e'
      exact (status_of_refusal (Or.inl rfl) e).symm

/-- One reason hides the next: clients without an outbox ask a destination that accepts traders. -/
theorem handle_refuses_in_order :
    let settings : Settings :=
      { destinations := [{ id := "quotes" }, { id := "orders", roles := ["trader"] }] }
    let moves := [.connect "A",
      .handle { client := "A", destination := "quotes", body := .subscribe }]
    let ask (destination : String) (principal : Option Principal) (body : RequestBody) : Request :=
      { client := "B", destination, principal, body }
    let refused : List (Request × BrokerError) :=
      [(ask "orders" none .subscribe, .unauthorized "orders"),
        (ask "orders" (some { name := "eve" }) (.invoke "buy" []),
          .permissionDenied "orders" "eve"),
        (ask "prices" none (.invoke "buy" []), .destinationNotFound "prices"),
        (ask "orders" (some { name := "bob", roles := ["trader"] }) (.invoke "buy" []),
          .unsupportedRequest "orders" .invoke),
        (ask "quotes" none .subscribe, .clientNotConnected "B")]
    ∃ b, Assembly.build settings = .ok b ∧
      let broker := (run moves ⟨b, {}⟩).broker
      ∀ r ∈ refused, (broker.handle r.1).1 = .error (Failure.broker r.2).disclosed ∧
        (broker.handle r.1).2.exchange.core = broker.exchange.core := by
  intro settings moves ask refused
  let reasons (b : Broker ChannelAdapter Unit) :=
    refused.map fun r => settings.refusal? (run moves ⟨b, {}⟩).broker.exchange.delivery r.1
  have outcome : (Assembly.build settings).toOption.map reasons =
      some (refused.map fun r => some r.2) := by decide +kernel
  obtain ⟨b, there, same⟩ := Option.map_eq_some_iff.mp outcome
  have built := Assembly.build_of_toOption there
  refine ⟨b, built, ?_⟩
  intro broker r member
  have refused : settings.refusal? broker.exchange.delivery r.1 = some r.2 :=
    List.map_inj_left.mp same r member
  obtain ⟨failed, -, kept⟩ := (handle_refuses built moves r.1).1 r.2 refused
  exact ⟨failed, kept⟩

end Deployment

end Switchboard
