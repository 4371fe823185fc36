import Switchboard.Failure.Basic
import Switchboard.Request.Basic

/-!
# Interception

Interceptors look at a request on its way in, which they may change or refuse, and at the response
on its way out, which they may replace or turn into a failure. On the way out they come in reverse
order.
-/

namespace Switchboard

/-- Where a request is answered. -/
abbrev Endpoint (σ : Type) := Request → Attempt σ Response

structure Interceptor (σ : Type) where
  before : Request → Attempt σ Request := pure
  after : Request → Response → Attempt σ Response := fun _ response => pure response

namespace Interceptor

variable {σ : Type}

/-- The request as all interceptors left it. -/
def beforeAll : List (Interceptor σ) → Request → Attempt σ Request
  | [], request => pure request
  | i :: rest, request => do beforeAll rest (← i.before request)

/-- The response after all interceptors, the last one first. -/
def afterAll (request : Request) : List (Interceptor σ) → Response → Attempt σ Response
  | [], response => pure response
  | i :: rest, response => do i.after request (← afterAll request rest response)

/-- Answers a request through the interceptors. -/
def intercept (interceptors : List (Interceptor σ)) (next : Endpoint σ) : Endpoint σ :=
  fun request => do
    let processed ← beforeAll interceptors request
    let response ← next processed
    afterAll processed interceptors response

end Interceptor

end Switchboard
