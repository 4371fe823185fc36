import Switchboard.Proofs.Broker.Running

/-!
# The accounts of a broker in use

Over every run of the broker that settings describe, also after a shutdown, the hub counts what the
adapters and the guests hold, and each destination of the settings is bound to its channel
(`run_audited`). A request that is answered was answered by the exchange itself (`handle_ok`).
-/

namespace Switchboard

def Settings.channel? (settings : Settings) (id : String) : Option String :=
  (settings.destination? id).map DestinationConfig.effectiveChannel

/-! ### Requests that are answered -/

namespace Broker

variable {ε : Type} {b : Broker ChannelAdapter ε} {rules : AccessRules} {request : Request}
  {response : Response}

theorem handle_ok (chain : b.chain = [.conversion [.maskServerErrors], .authorization rules])
    (answered : (b.handle request).1 = .ok response) :
    (Exchange.dispatch request).exec b.exchange =
      (.ok response, (b.handle request).2.exchange) := by
  have guarded := handle_guarded chain request
  rw [answered, exec_guarded, exec_authorize] at guarded
  cases denial : rules.denial? request with
  | some e =>
    rw [denial] at guarded
    cases guarded
  | none =>
    rcases reached : (Exchange.dispatch request).exec b.exchange with ⟨f | r, x⟩
    · rw [denial, reached] at guarded
      cases guarded
    · rw [denial, reached] at guarded
      exact guarded

/-- An accepted message was published by the adapter of the destination that the request names,
under the name of that destination. -/
theorem publish_ok {m : Message}
    (chain : b.chain = [.conversion [.maskServerErrors], .authorization rules])
    (publishes : request.body = .publish m) (answered : (b.handle request).1 = .ok response) :
    ∃ a, b.exchange.registry.get? request.destination = some (.messaging a) ∧
      let published := b.exchange.site.hub.publish a.channel (m.sentTo a.destination)
      response = .published published.1 ∧
        (b.handle request).2.exchange.core = { b.exchange.core with hub := published.2 } := by
  have dispatched := handle_ok chain answered
  rw [Exchange.exec_dispatch, publishes] at dispatched
  split at dispatched
  · cases dispatched
  · rename_i other
    cases other
  · rename_i other
    cases other
  · rename_i a m' found same
    cases same
    refine ⟨a, found, ?_⟩
    have left := Exchange.core_publish found m
    have outcome := congrArg Prod.fst dispatched
    rw [dispatched] at left
    rw [Exchange.exec_publish] at outcome
    exact ⟨(Except.ok.inj outcome).symm, left⟩
  · rename_i other
    cases other
  · cases dispatched

end Broker

/-! ### The accounts over a run -/

namespace Deployment

variable {ε : Type} {d : Deployment ε} {channels : String → Option String}

theorem step_audited (provided : ∀ stage ∈ d.broker.chain, stage.Leaves Exchange.core)
    (audited : d.broker.exchange.core.Audited channels d.guests) (move : Move) :
    (d.step move).broker.exchange.core.Audited channels (d.step move).guests := by
  cases move with
  | stop =>
    change d.broker.stop.2.exchange.core.Audited channels d.guests
    rw [Broker.core_stop]
    exact audited.operateAll _ _
  | guest move => exact audited.guests move
  | _ =>
    exact step_keeps Exchange.Core.Audited.stable provided trivial audited
      (fun _ => audited.withDelivery _) audited.dispatch (fun ids => audited.operateAll .start ids)

theorem run_keeps_audited (moves : List Move) : ∀ {d : Deployment ε},
    (∀ stage ∈ d.broker.chain, stage.Leaves Exchange.core) →
      d.broker.exchange.core.Audited channels d.guests →
        (d.run moves).broker.exchange.core.Audited channels (d.run moves).guests := by
  induction moves with
  | nil =>
    intro d provided audited
    exact audited
  | cons move rest ih =>
    intro d provided audited
    exact ih (by rwa [chain_step]) (step_audited provided audited move)

/-- Whatever is done to the broker that `settings` describe, its destinations stay the ones of the
settings, bound to their channels, and the hub counts what they and the guests hold. -/
theorem run_audited {settings : Settings} {journal : Journal} {b : Broker ChannelAdapter Unit}
    (built : Assembly.build settings journal = .ok b) (moves : List Move) :
    let d := run moves ⟨b, {}⟩
    (∃ rules, d.broker.chain = [.conversion [.maskServerErrors], .authorization rules]) ∧
      d.broker.exchange.core.Audited settings.channel? d.guests := by
  intro d
  have got := (Assembly.get?_of_build built).2
  obtain ⟨p, site, rfl, hub, extended⟩ := Assembly.ofRegistry_of_build built
  have healthy := healthy_of_extends hub extended
  refine ⟨⟨p.rules, run_chain moves _⟩, ?_⟩
  have fresh := healthy.served.accounted.audited
  refine run_keeps_audited moves healthy.aligned.provided ⟨fresh.sound, fresh.messaging, ?_⟩
  intro id
  have registered : p.registry.get? id = _ := got id
  rw [Exchange.Core.adapter?, show Exchange.Core.registry _ = p.registry from rfl, registered,
    Settings.channel?]
  cases settings.destination? id <;> rfl

theorem adapter_of_audited {settings : Settings} {journal : Journal}
    {b : Broker ChannelAdapter Unit} (built : Assembly.build settings journal = .ok b)
    {k : Exchange.Core Unit} {g : Guests} (audited : k.Audited settings.channel? g)
    {c : DestinationConfig} (asked : c ∈ settings.destinations) :
    ∃ a, k.adapter? c.id = some a ∧ a.channel = c.effectiveChannel := by
  have named : settings.destination? c.id = some c :=
    Assembly.Plan.find?_of_distinct (Assembly.get?_of_build built).1 asked
  have bound := audited.bound c.id
  rw [Settings.channel?, named] at bound
  exact Option.map_eq_some_iff.mp bound

theorem setting_of_audited {settings : Settings} {k : Exchange.Core Unit} {g : Guests}
    (audited : k.Audited settings.channel? g) {id : String} {a : ChannelAdapter}
    (there : k.adapter? id = some a) :
    ∃ c ∈ settings.destinations, c.id = id ∧ c.effectiveChannel = a.channel := by
  have bound := audited.bound id
  rw [there] at bound
  obtain ⟨c, found, channel⟩ := Option.map_eq_some_iff.mp bound.symm
  have named : c.id = id := by simpa using List.find?_some found
  exact ⟨c, List.mem_of_find?_eq_some found, named, channel⟩

end Deployment

end Switchboard
