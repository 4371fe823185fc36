import Switchboard.Chain.Interception

/-!
# Conversion of failures

A failure that comes back from later stages is handed to the first converter that handles it. The
masking converter keeps the details of server-side failures from clients: they go to the log, and
the client gets the status and the client message alone.
-/

namespace Switchboard

structure Converter (σ : Type) where
  handles : Failure → Bool
  convert : Failure → StateM σ Failure

/-- What a client may see of a server-side failure. -/
def Failure.masked (f : Failure) : Failure :=
  ⟨.generic f.status f.clientMessage, []⟩

namespace Converter

variable {σ : Type}

/-- Logs server-side failures and masks them. -/
def maskServerErrors [Journaled σ] : Converter σ where
  handles f := f.status.isServerError
  convert f := do
    log (f.report "request failed")
    return f.masked

/-- The failure as the first converter that handles it leaves it. -/
def apply (converters : List (Converter σ)) (f : Failure) : StateM σ Failure :=
  match converters.find? (·.handles f) with
  | none => pure f
  | some c => c.convert f

/-- Answers a request and converts its failure. -/
def guarded (converters : List (Converter σ)) (next : Endpoint σ) : Endpoint σ :=
  fun request => ExceptT.mk do
    match ← (next request).outcome with
    | .ok response => return .ok response
    | .error f => return .error (← apply converters f)

end Converter

end Switchboard
