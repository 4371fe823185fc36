import Switchboard.Proofs.Broker.Refusal
import Switchboard.Proofs.Chain.Masking

/-!
# What the chain leaves in the log

Masking keeps the details of a failure from the client, so the log is the only place where they can
be read. The chain of a broker that settings describe logs each request that it denies and each one
that fails on the server's side, once, and nothing else (`build_audits`).
-/

namespace Switchboard

theorem Failure.message_eq (f : Failure) :
    f.message = ": ".intercalate (f.notes.reverse ++ [f.cause.message]) := by
  obtain ⟨cause, notes⟩ := f
  unfold Failure.message
  induction notes using List.reverseRecOn with
  | nil => exact String.intercalate_singleton.symm
  | append_singleton notes note ih =>
    have more : notes.reverse ++ [cause.message] ≠ [] := by simp
    rw [List.foldl_append, List.foldl_cons, List.foldl_nil, List.reverse_concat, List.cons_append,
      String.intercalate_cons_of_ne_nil more]
    exact congrArg (note ++ ": " ++ ·) ih

/-- The event tells of `f` as loudly as its status asks for, with the latest note first. -/
structure Event.Reports (event : Event) (f : Failure) : Prop where
  level : event.level = f.status.level
  text : event.fields.lookup "error" =
    some (.rendered (": ".intercalate (f.notes.reverse ++ [f.cause.message])))

theorem Failure.report_reports (f : Failure) (message : String) :
    (f.report message).Reports f :=
  ⟨rfl, by rw [← f.message_eq]; rfl⟩

theorem Event.Reports.within {event : Event} {f : Failure} (reports : event.Reports f)
    (span : Span) : (event.within span).Reports f :=
  ⟨reports.level, reports.text⟩

/-- What becomes of a request in front of an endpoint, and the one event that the chain adds to what
the endpoint left behind, if there is any. The failure that is reported is not yet masked. -/
structure Chain.Audits {σ : Type} [Journaled σ] (denial? : Request → Option BrokerError)
    (chain : Chain σ) : Prop where
  denied (endpoint : Endpoint σ) (request : Request) (s : σ) (e : BrokerError) :
    denial? request = some e →
    ∃ event : Event, event.message = "request denied" ∧ event.Reports (Failure.broker e) ∧
      event.spans = [⟨"authorize", [("client_id", .rendered request.client),
        ("operation", .text request.kind.name)]⟩] ∧
      (chain.execute endpoint request).exec s =
        (.error (Failure.broker e), Journaled.record event s)
  failed (endpoint : Endpoint σ) (request : Request) (s t : σ) (f : Failure) :
    denial? request = none → (endpoint request).exec s = (.error f, t) →
    f.status.isServerError →
    ∃ event : Event, event.message = "request failed" ∧ event.Reports f ∧ event.spans = [] ∧
      (chain.execute endpoint request).exec s = (.error f.masked, Journaled.record event t)
  quiet (endpoint : Endpoint σ) (request : Request) (s : σ) :
    denial? request = none →
    (∀ f, ((endpoint request).exec s).1 = .error f → f.status.isClientError) →
    (chain.execute endpoint request).exec s = (endpoint request).exec s

section

variable {σ : Type} [Journaled σ] {f : Failure}

theorem run_apply_of_server (server : f.status.isServerError) (s : σ) :
    (Converter.apply [.maskServerErrors] f).run s =
      (f.masked, Journaled.record (f.report "request failed") s) := by
  simp [Converter.apply, Converter.maskServerErrors, server]

theorem run_apply_of_client (client : f.status.isClientError) (s : σ) :
    (Converter.apply [.maskServerErrors] f).run s = (f, s) := by
  simp [Converter.apply, Converter.maskServerErrors, Status.isServerError, client]

end

namespace AccessRules

variable {σ : Type} [Journaled σ] {rules : AccessRules} {request : Request} {e : BrokerError}

/-- Whoever is denied is at fault, so a denial is not masked. -/
theorem isClientError_of_denial (denial : rules.denial? request = some e) :
    (Failure.broker e).status.isClientError := by
  unfold denial? at denial
  split at denial
  · cases denial
  · split at denial
    · cases denial
      rfl
    · split at denial
      · cases denial
      · cases denial
        rfl

theorem audits (rules : AccessRules) :
    (Chain.masking [.authorization rules] : Chain σ).Audits rules.denial? := by
  have unfolds (endpoint : Endpoint σ) (request : Request) (s : σ) :=
    exec_guarded [.maskServerErrors] (rules.authorize endpoint) request s
  constructor
  · intro endpoint request s e denial
    have reports := (Failure.broker e).report_reports "request denied"
    refine ⟨_, rfl, reports.within (span request), rfl, (unfolds endpoint request s).trans ?_⟩
    simp only [exec_authorize, denial, run_apply_of_client (isClientError_of_denial denial)]
  · intro endpoint request s t f allowed failed server
    have reports := f.report_reports "request failed"
    refine ⟨_, rfl, reports, rfl, (unfolds endpoint request s).trans ?_⟩
    simp only [exec_authorize, allowed, failed, run_apply_of_server server]
  · intro endpoint request s allowed client
    refine (unfolds endpoint request s).trans ?_
    simp only [exec_authorize, allowed]
    rcases ended : (endpoint request).exec s with ⟨f | response, t⟩
    · have atFault := client f (congrArg Prod.fst ended)
      simp only [run_apply_of_client atFault]
    · rfl

end AccessRules

namespace Assembly

/-- The chain logs a request that it denies, in a span that names the client and the kind of the
request, and one that fails on the server's side, once each, and no other: whatever the rules, the
endpoint and its state are. The rules of an assembled broker deny what its settings say. -/
theorem build_audits :
    (∀ (σ : Type) [Journaled σ] (rules : AccessRules),
      (Chain.masking [.authorization rules] : Chain σ).Audits rules.denial?) ∧
    ∀ (settings : Settings) (journal : Journal) (b : Broker ChannelAdapter Unit),
      build settings journal = .ok b → b.chain.Audits settings.denial? := by
  refine ⟨fun σ _ rules => rules.audits, ?_⟩
  intro settings journal b built
  obtain ⟨rules, masked, roles⟩ := chain_of_build built
  have same : rules.denial? = settings.denial? := funext fun _ => AccessRules.denial?_eq roles
  rw [masked, ← same]
  exact rules.audits

/-- A listener fails under two notes: the log has both of them, the client neither. Nobody who may
not trade gets that far. -/
theorem build_audits_orders :
    let settings : Settings := { destinations := [{ id := "orders", roles := ["trader"] }] }
    let f : Failure := ⟨.lifecycle (.initialization "orders" (.failed "no feed")),
      ["opening 'orders'", "subscribing client 'A'"]⟩
    let failing : Endpoint (Exchange ChannelAdapter Unit) := fun _ => throw f
    let ask (roles : List String) : Request :=
      { client := "A", destination := "orders", principal := some ⟨"eve", roles⟩,
        body := .subscribe }
    ∃ b, build settings = .ok b ∧
      (∃ event : Event, event.message = "request denied" ∧ event.level = .warn ∧
        (b.chain.execute failing (ask ["viewer"])).exec b.exchange =
          (.error (Failure.broker (.permissionDenied "orders" "eve")),
            Journaled.record event b.exchange)) ∧
      ∃ event : Event, event.message = "request failed" ∧ event.level = .error ∧
        event.fields.lookup "error" = some (.rendered
          ("subscribing client 'A': opening 'orders': " ++
            "failed to initialize listener for destination 'orders': resource failure: no feed")) ∧
        (b.chain.execute failing (ask ["trader"])).exec b.exchange =
          (.error ⟨.generic .resourceInitFailed
              "Destination 'orders' is temporarily unavailable", []⟩,
            Journaled.record event b.exchange) := by
  intro settings f failing ask
  have there : (build settings).toOption.isSome := by decide +kernel
  obtain ⟨b, there⟩ := Option.isSome_iff_exists.mp there
  have built := build_of_toOption there
  have audits := build_audits.2 settings [] b built
  refine ⟨b, built, ?_, ?_⟩
  · obtain ⟨event, message, reports, -, left⟩ :=
      audits.denied failing (ask ["viewer"]) b.exchange _ (by rfl)
    exact ⟨event, message, reports.level, left⟩
  · obtain ⟨event, message, reports, -, left⟩ :=
      audits.failed failing (ask ["trader"]) b.exchange _ f (by rfl) rfl rfl
    exact ⟨event, message, reports.level, reports.text.trans (by decide), left⟩

end Assembly

end Switchboard
