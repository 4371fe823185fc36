import Switchboard.Proofs.Chain

/-!
# What masking keeps back

Behind a stage that masks server-side errors, a client learns the status and the client message of
such an error and nothing else. `masking_confines` says so of whole runs: two runs whose listeners
fail for different reasons give the same failure.
-/

namespace Switchboard

/-- Two errors of one kind about one destination. The resource, the step and what went wrong may
differ. -/
def LifecycleError.SameSubject : LifecycleError → LifecycleError → Prop
  | initialization d _, initialization d' _ => d = d'
  | transition d _ _, transition d' _ _ => d = d'
  | _, _ => False

/-- The cause is of a type that the broker defines. -/
def Cause.isOwn : Cause → Bool
  | foreign _ => false
  | _ => true

/-- The chain behind a stage that only masks server-side errors. -/
def Chain.masking {σ : Type} [Journaled σ] (rest : Chain σ) : Chain σ :=
  .conversion [.maskServerErrors] :: rest

namespace Failure

theorem disclosed_of_server {f : Failure} (server : f.status.isServerError) :
    f.disclosed = f.masked :=
  if_pos server

theorem disclosed_of_client {f : Failure} (client : f.status.isClientError) : f.disclosed = f :=
  if_neg (by simp [Status.isServerError, client])

/-- The broker's own internal errors keep their text back. -/
theorem clientMessage_of_internal {f : Failure} (own : f.cause.isOwn)
    (internal : f.status = .internal) : f.clientMessage = "Internal server error" := by
  obtain ⟨cause, notes⟩ := f
  cases cause with
  | generic status message => exact if_pos internal
  | resource e => cases e <;> cases internal
  | lifecycle e => cases e <;> cases internal
  | broker e => cases e <;> cases internal
  | foreign e => cases own

theorem masked_masked {f : Failure} (own : f.cause.isOwn) : f.masked.masked = f.masked := by
  have text : f.masked.clientMessage = f.clientMessage := by
    by_cases internal : f.status = .internal
    · rw [clientMessage_of_internal own internal]
      exact if_pos internal
    · exact if_neg internal
  rw [masked, text]
  rfl

theorem disclosed_disclosed {f : Failure} (own : f.cause.isOwn) :
    f.disclosed.disclosed = f.disclosed := by
  by_cases serious : f.status.isServerError = true
  · have again : f.masked.status.isServerError := serious
    rw [disclosed_of_server serious, disclosed_of_server again, masked_masked own]
  · have kept : f.disclosed = f := if_neg serious
    rw [kept, kept]

end Failure

/-- Masking leaves nothing of what sets errors of one kind apart. -/
theorem LifecycleError.SameSubject.masked_eq {e e' : LifecycleError} (same : e.SameSubject e') :
    (Failure.lifecycle e).masked = (Failure.lifecycle e').masked := by
  cases e with
  | initialization d source =>
    cases e' with
    | initialization d' source' =>
      obtain rfl : d = d' := same
      rfl
    | transition => exact same.elim
  | transition d step source =>
    cases e' with
    | initialization => exact same.elim
    | transition d' step' source' =>
      obtain rfl : d = d' := same
      rfl

section

variable {σ τ : Type} [Journaled σ] [Journaled τ]

theorem exec_masking (rest : Chain σ) (endpoint : Endpoint σ) (request : Request) (s : σ) :
    ((rest.masking.execute endpoint request).exec s).1 =
      ((rest.execute endpoint request).exec s).1.mapError Failure.disclosed :=
  exec_masked (rest.execute endpoint) request s

/-- Two runs behind which listeners fail give the same failure if the errors agree in kind and
destination, whatever the resources reported, which steps failed and which notes were taken. Any
failure of the server turns into its client message under its status, without notes, and a failure
of the client comes back as it is. What the broker's own errors come to is not masked further. -/
theorem masking_confines :
    (∀ (rest : Chain σ) (rest' : Chain τ) (endpoint : Endpoint σ) (endpoint' : Endpoint τ)
        (request request' : Request) (s : σ) (s' : τ) (e e' : LifecycleError)
        (notes notes' : List String), e.SameSubject e' →
      ((rest.execute endpoint request).exec s).1 = .error ⟨.lifecycle e, notes⟩ →
      ((rest'.execute endpoint' request').exec s').1 = .error ⟨.lifecycle e', notes'⟩ →
      ∃ f, ((rest.masking.execute endpoint request).exec s).1 = .error f ∧
        ((rest'.masking.execute endpoint' request').exec s').1 = .error f) ∧
    (∀ (rest : Chain σ) (endpoint : Endpoint σ) (request : Request) (s : σ) (f : Failure),
      ((rest.execute endpoint request).exec s).1 = .error f →
      ∃ told, ((rest.masking.execute endpoint request).exec s).1 = .error told ∧
        (f.status.isServerError → told.status = f.status ∧ told.notes = [] ∧
          told.message = f.clientMessage) ∧
        (f.status.isClientError → told = f) ∧
        (f.cause.isOwn →
          ((rest.masking.masking.execute endpoint request).exec s).1 = .error told)) := by
  refine ⟨?_, ?_⟩
  · intro rest rest' endpoint endpoint' request request' s s' e e' notes notes' same failed failed'
    refine ⟨(Failure.lifecycle e).masked, ?_, ?_⟩
    · rw [exec_masking, failed]
      exact congrArg Except.error (Failure.disclosed_of_lifecycle e notes)
    · rw [exec_masking, failed', same.masked_eq]
      exact congrArg Except.error (Failure.disclosed_of_lifecycle e' notes')
  · intro rest endpoint request s f failed
    refine ⟨f.disclosed, ?_, ?_, ?_, ?_⟩
    · rw [exec_masking, failed]
      rfl
    · intro server
      rw [Failure.disclosed_of_server server]
      exact ⟨rfl, rfl, rfl⟩
    · exact Failure.disclosed_of_client
    · intro own
      rw [exec_masking, exec_masking, failed]
      exact congrArg Except.error (Failure.disclosed_disclosed own)

end

/-- A refused connection and a broken listener look alike, and the notes are gone. -/
theorem masking_confines_broken_listener :
    let failing (f : Failure) : Endpoint Journal := fun _ => throw f
    let chain : Chain Journal := [.authorization {}]
    let ask : Request := { client := "A", destination := "quotes", body := .subscribe }
    let refused : Failure :=
      ⟨.lifecycle (.transition "quotes" .start (.unavailable "tcp://10.0.0.7:61616")), ["dispatch"]⟩
    let broken : Failure :=
      ⟨.lifecycle (.transition "quotes" .dispose (.failed "broken pipe")), []⟩
    (∃ f, ((chain.masking.execute (failing refused) ask).exec []).1 = .error f ∧
      ((chain.masking.execute (failing broken) ask).exec []).1 = .error f) ∧
    ∃ told, ((chain.masking.execute (failing refused) ask).exec []).1 = .error told ∧
      told.notes = [] ∧ told.message = "Destination 'quotes' is temporarily unavailable" ∧
      ((chain.masking.masking.execute (failing refused) ask).exec []).1 = .error told := by
  intro failing chain ask refused broken
  have alike := (@masking_confines Journal Journal _ _).1 chain chain (failing refused)
    (failing broken) ask ask [] []
    (.transition "quotes" .start (.unavailable "tcp://10.0.0.7:61616"))
    (.transition "quotes" .dispose (.failed "broken pipe")) ["dispatch"] [] rfl rfl rfl
  obtain ⟨told, outcome, server, -, twice⟩ :=
    (@masking_confines Journal Journal _ _).2 chain (failing refused) ask [] refused rfl
  obtain ⟨-, bare, text⟩ := server (by decide)
  exact ⟨alike, told, outcome, bare, text, twice rfl⟩

end Switchboard
