import Switchboard.Chain.Authorization
import Switchboard.Chain.Conversion

/-!
# The request chain

A request passes through the stages of a chain in order and is answered by the endpoint behind
them. Each stage decides whether to pass it on and sees what comes back.
-/

namespace Switchboard

inductive Stage (σ : Type)
  | interception (interceptors : List (Interceptor σ))
  | conversion (converters : List (Converter σ))
  | authorization (rules : AccessRules)
  /-- A stage of the embedding application. It is given the rest of the chain. -/
  | custom (handle : Endpoint σ → Endpoint σ)

namespace Stage

variable {σ : Type}

/-- Answers a request in front of the rest of the chain. -/
def around [Journaled σ] : Stage σ → Endpoint σ → Endpoint σ
  | interception interceptors => Interceptor.intercept interceptors
  | conversion converters => Converter.guarded converters
  | authorization rules => rules.authorize
  | custom handle => handle

end Stage

/-- Stages in the order in which a request meets them. -/
abbrev Chain (σ : Type) := List (Stage σ)

/-- Answers a request through the chain. -/
def Chain.execute {σ : Type} [Journaled σ] (chain : Chain σ) (endpoint : Endpoint σ) : Endpoint σ :=
  List.foldr Stage.around endpoint chain

end Switchboard
