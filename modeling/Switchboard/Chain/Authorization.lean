import Switchboard.Chain.Interception
import Std.Data.ExtTreeMap

/-!
# Authorization

A destination with a rule is protected: only a principal with one of its roles gets through. A
destination without a rule is open to everybody.
-/

namespace Switchboard

/-- The roles that each protected destination accepts. -/
structure AccessRules where
  roles : Std.ExtTreeMap String (List String) := ∅

namespace AccessRules

/-- Protects `destination`, or adds to the roles it accepts. -/
def require (rules : AccessRules) (destination : String) (roles : List String) : AccessRules :=
  ⟨rules.roles.insert destination (rules.roles[destination]?.getD [] ++ roles)⟩

def isProtected (rules : AccessRules) (destination : String) : Bool :=
  rules.roles.contains destination

/-- Why a request is refused, if it is. -/
def denial? (rules : AccessRules) (request : Request) : Option BrokerError :=
  match rules.roles[request.destination]? with
  | none => none
  | some accepted =>
    match request.principal with
    | none => some (.unauthorized request.destination)
    | some principal =>
      if accepted.any principal.hasRole then none
      else some (.permissionDenied request.destination principal.name)

/-- The span in which a refusal is logged. -/
def span (request : Request) : Span :=
  ⟨"authorize", [("client_id", .rendered request.client), ("operation", .text request.kind.name)]⟩

/-- Answers a request unless the rules refuse it. -/
def authorize {σ : Type} [Journaled σ] (rules : AccessRules) (next : Endpoint σ) : Endpoint σ :=
  fun request =>
    match rules.denial? request with
    | none => next request
    | some e => ExceptT.mk do
      let f := Failure.broker e
      log ((f.report "request denied").within (span request))
      return .error f

end AccessRules

end Switchboard
