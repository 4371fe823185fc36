import Mathlib.Data.List.Induction
import Switchboard.Proofs.Chain

/-!
# Who gets through

Rules are given one requirement after another. `authorize_exact` reads off the list of requirements
who gets through: it does not matter in which order they came or how the roles were spread over
them.
-/

namespace Switchboard

/-- A destination and roles that it accepts from now on. -/
structure Requirement where
  destination : String
  roles : List String

namespace AccessRules

/-- The rules that requirements add up to, the first one first. -/
def requireAll (requirements : List Requirement) : AccessRules :=
  requirements.foldl (fun rules r => rules.require r.destination r.roles) {}

def Protects (requirements : List Requirement) (destination : String) : Prop :=
  ∃ r ∈ requirements, r.destination = destination

/-- Some requirement gives the role for the destination. -/
def Grants (requirements : List Requirement) (destination role : String) : Prop :=
  ∃ r ∈ requirements, r.destination = destination ∧ role ∈ r.roles

/-- The destination of the request is open, or its principal has a role given for it. -/
def Admits (requirements : List Requirement) (request : Request) : Prop :=
  ¬Protects requirements request.destination ∨
    ∃ p ∈ request.principal, ∃ role ∈ p.roles, Grants requirements request.destination role

instance (requirements : List Requirement) (destination : String) :
    Decidable (Protects requirements destination) :=
  inferInstanceAs (Decidable (∃ r ∈ requirements, r.destination = destination))

instance (requirements : List Requirement) (destination role : String) :
    Decidable (Grants requirements destination role) :=
  inferInstanceAs (Decidable (∃ r ∈ requirements, r.destination = destination ∧ role ∈ r.roles))

instance (requirements : List Requirement) (request : Request) :
    Decidable (Admits requirements request) :=
  inferInstanceAs (Decidable (¬Protects requirements request.destination ∨
    ∃ p ∈ request.principal, ∃ role ∈ p.roles, Grants requirements request.destination role))

/-- Two lists of requirements that give the same roles for the same destinations. Neither the order
of the requirements counts nor how often a role is given. -/
structure SameRights (requirements others : List Requirement) : Prop where
  protects : ∀ d, Protects requirements d ↔ Protects others d
  grants : ∀ d role, Grants requirements d role ↔ Grants others d role

/-- What a request without the right to its destination is told. -/
def refusal (request : Request) : BrokerError :=
  match request.principal with
  | none => .unauthorized request.destination
  | some p => .permissionDenied request.destination p.name

variable {requirements others : List Requirement} {request : Request}

/-! ### The roles of a destination -/

theorem require_roles (rules : AccessRules) (destination d : String) (roles : List String) :
    (rules.require destination roles).roles[d]? =
      if destination = d then some (rules.roles[d]?.getD [] ++ roles) else rules.roles[d]? := by
  by_cases here : destination = d
  · subst here
    simp [require]
  · simp [require, Std.ExtTreeMap.getElem?_insert, here]

theorem requireAll_concat (requirements : List Requirement) (r : Requirement) :
    requireAll (requirements ++ [r]) = (requireAll requirements).require r.destination r.roles := by
  simp [requireAll]

theorem protects_concat {r : Requirement} {d : String} :
    Protects (requirements ++ [r]) d ↔ Protects requirements d ∨ r.destination = d := by
  simp [Protects, or_and_right, exists_or]

theorem grants_concat {r : Requirement} {d role : String} :
    Grants (requirements ++ [r]) d role ↔
      Grants requirements d role ∨ r.destination = d ∧ role ∈ r.roles := by
  simp [Grants, or_and_right, exists_or]

theorem mem_getD_roles (requirements : List Requirement) (d role : String) :
    role ∈ (requireAll requirements).roles[d]?.getD [] ↔ Grants requirements d role := by
  induction requirements using List.reverseRecOn with
  | nil => simp [requireAll, Grants]
  | append_singleton earlier r ih =>
    rw [requireAll_concat, require_roles, grants_concat, ← ih]
    by_cases here : r.destination = d
    · simp [here]
    · simp [here]

theorem roles_eq_none_iff (requirements : List Requirement) (d : String) :
    (requireAll requirements).roles[d]? = none ↔ ¬Protects requirements d := by
  induction requirements using List.reverseRecOn with
  | nil => simp [requireAll, Protects]
  | append_singleton earlier r ih =>
    rw [requireAll_concat, require_roles, protects_concat]
    by_cases here : r.destination = d
    · simp [here]
    · simp [here, ih]

/-! ### The decision -/

theorem denial?_eq_none_iff :
    (requireAll requirements).denial? request = none ↔ Admits requirements request := by
  have named := roles_eq_none_iff requirements request.destination
  have given := mem_getD_roles requirements request.destination
  unfold denial? Admits
  rcases stored : (requireAll requirements).roles[request.destination]? with _ | accepted
  · simp [named.mp stored]
  · rw [stored] at named given
    have shut : Protects requirements request.destination := by simpa using named
    rcases request.principal with _ | p
    · simp [shut]
    · simp [shut, Principal.hasRole, ← given, and_comm]

theorem denial?_eq_none_or (rules : AccessRules) (request : Request) :
    rules.denial? request = none ∨ rules.denial? request = some (refusal request) := by
  unfold denial? refusal
  rcases rules.roles[request.destination]? with _ | accepted
  · exact Or.inl rfl
  · rcases request.principal with _ | p
    · exact Or.inr rfl
    · rcases held : accepted.any p.hasRole
      · simp [held]
      · simp [held]

theorem denial?_of_not_admits (refused : ¬Admits requirements request) :
    (requireAll requirements).denial? request = some (refusal request) := by
  rcases denial?_eq_none_or (requireAll requirements) request with passed | denied
  · exact absurd (denial?_eq_none_iff.mp passed) refused
  · exact denied

theorem SameRights.admits_iff (same : SameRights requirements others) :
    Admits requirements request ↔ Admits others request := by
  simp only [Admits, same.protects, same.grants]

theorem SameRights.denial?_eq (same : SameRights requirements others) :
    (requireAll requirements).denial? request = (requireAll others).denial? request := by
  by_cases admitted : Admits requirements request
  · have admitted' := same.admits_iff.mp admitted
    rw [denial?_eq_none_iff.mpr admitted, denial?_eq_none_iff.mpr admitted']
  · have refused := mt same.admits_iff.mpr admitted
    rw [denial?_of_not_admits admitted, denial?_of_not_admits refused]

theorem Admits.of_more_roles {p q : Principal} (more : p.roles ⊆ q.roles)
    (admitted : Admits requirements { request with principal := some p }) :
    Admits requirements { request with principal := some q } := by
  rcases admitted with unprotected | ⟨holder, same, role, held, granted⟩
  · exact Or.inl unprotected
  · obtain rfl : p = holder := Option.some.inj same
    exact Or.inr ⟨q, rfl, role, more held, granted⟩

theorem not_admits_of_no_roles (shut : Protects requirements request.destination)
    (bare : ∀ role, ¬Grants requirements request.destination role) :
    ¬Admits requirements request := by
  rintro (unprotected | ⟨p, -, role, -, granted⟩)
  · exact unprotected shut
  · exact bare role granted

/-! ### The stage -/

section

variable {σ : Type} [Journaled σ]

theorem authorize_of_admits (admitted : Admits requirements request) (next : Endpoint σ) :
    (requireAll requirements).authorize next request = next request := by
  rw [authorize, denial?_eq_none_iff.mpr admitted]

theorem exec_authorize_of_not_admits (refused : ¬Admits requirements request) (next : Endpoint σ)
    (s : σ) :
    ((requireAll requirements).authorize next request).exec s =
      (.error (Failure.broker (refusal request)), Journaled.record
        (((Failure.broker (refusal request)).report "request denied").within
          (span request)) s) := by
  rw [exec_authorize, denial?_of_not_admits refused]

/-- What the endpoint would make of other requests does not show. -/
theorem authorize_congr {next next' : Endpoint σ}
    (agree : ∀ request, Admits requirements request → next request = next' request) :
    (requireAll requirements).authorize next = (requireAll requirements).authorize next' := by
  funext request
  by_cases admitted : Admits requirements request
  · rw [authorize_of_admits admitted, authorize_of_admits admitted, agree request admitted]
  · unfold authorize
    rw [denial?_of_not_admits admitted]

/-- A request is handed on as it is if its destination is open or its principal has one of the
roles given for it, and is refused otherwise, whatever stands behind the stage. Only the roles given
for each destination matter. More roles do no harm, and without any role given for it a protected
destination is out of reach. The endpoint behind the stage sees no other requests, whatever stages
come before. -/
theorem authorize_exact :
    (∀ (requirements : List Requirement) (request : Request) (next : Endpoint σ),
      (Admits requirements request →
        (requireAll requirements).authorize next request = next request) ∧
      (¬Admits requirements request → ∀ s,
        ((requireAll requirements).authorize next request).exec s =
          (.error (Failure.broker (refusal request)), Journaled.record
            (((Failure.broker (refusal request)).report "request denied").within
              (span request)) s))) ∧
    (∀ requirements others : List Requirement, SameRights requirements others →
      ∀ next : Endpoint σ,
        (requireAll requirements).authorize next = (requireAll others).authorize next) ∧
    (∀ (requirements : List Requirement) (request : Request) (p q : Principal),
      p.roles ⊆ q.roles →
      (requireAll requirements).denial? { request with principal := some p } = none →
      (requireAll requirements).denial? { request with principal := some q } = none) ∧
    (∀ (requirements : List Requirement) (request : Request),
      Protects requirements request.destination →
      (∀ role, ¬Grants requirements request.destination role) →
      (requireAll requirements).denial? request = some (refusal request)) ∧
    ∀ (requirements : List Requirement) (front : Chain σ) (endpoint endpoint' : Endpoint σ),
      (∀ request, Admits requirements request → endpoint request = endpoint' request) →
      Chain.execute (front ++ [.authorization (requireAll requirements)]) endpoint =
        Chain.execute (front ++ [.authorization (requireAll requirements)]) endpoint' := by
  refine ⟨?_, ?_, ?_, ?_, ?_⟩
  · intro requirements request next
    exact ⟨fun admitted => authorize_of_admits admitted next,
      fun refused => exec_authorize_of_not_admits refused next⟩
  · intro requirements others same next
    funext request
    rw [authorize, authorize, same.denial?_eq]
  · intro requirements request p q more passed
    have admitted := denial?_eq_none_iff.mp passed
    exact denial?_eq_none_iff.mpr (admitted.of_more_roles more)
  · intro requirements request shut bare
    exact denial?_of_not_admits (not_admits_of_no_roles shut bare)
  · intro requirements front endpoint endpoint' agree
    rw [Chain.execute_append, Chain.execute_append]
    exact congrArg front.execute (authorize_congr agree)

end

/-- A role given twice, or in one requirement with another, is given all the same. A request that
was redirected to a protected destination is judged by the rules of that one. -/
theorem authorize_exact_orders :
    let requirements : List Requirement :=
      [⟨"orders", ["trader"]⟩, ⟨"audit", []⟩, ⟨"orders", ["ops"]⟩]
    let others : List Requirement := [⟨"audit", []⟩, ⟨"orders", ["ops", "trader", "ops"]⟩]
    let eve : Principal := ⟨"eve", ["ops"]⟩
    let lead : Principal := ⟨"lead", ["viewer", "ops"]⟩
    let ask : Request :=
      { client := "A", destination := "orders", principal := some eve, body := .subscribe }
    let redirected : Interceptor Journal :=
      { before := fun request => pure { request with destination := "orders" } }
    let ack : Endpoint Journal := fun _ => pure .ack
    let named : Endpoint Journal := fun request =>
      if request.principal.isSome ∨ request.destination ≠ "orders" then pure .ack
      else throw (.broker (.unauthorized "orders"))
    (requireAll requirements).authorize ack ask = pure .ack ∧
    (((requireAll requirements).authorize ack { ask with principal := none }).exec []).1 =
      .error (Failure.broker (.unauthorized "orders")) ∧
    (requireAll requirements).authorize ack = (requireAll others).authorize ack ∧
    (requireAll requirements).denial? { ask with principal := some lead } = none ∧
    (requireAll requirements).denial? { ask with destination := "audit" } =
      some (.permissionDenied "audit" "eve") ∧
    Chain.execute ([.interception [redirected]] ++ [.authorization (requireAll requirements)]) ack =
      Chain.execute ([.interception [redirected]] ++ [.authorization (requireAll requirements)])
        named := by
  intro requirements others eve lead ask redirected ack named
  obtain ⟨decides, depends, grows, shut, behind⟩ := @authorize_exact Journal _
  have same : SameRights requirements others := by
    constructor
    · intro d
      simp [Protects, requirements, others]
      tauto
    · intro d role
      simp [Grants, requirements, others]
      tauto
  have eager : ∀ request, Admits requirements request → ack request = named request := by
    intro request admitted
    refine (if_pos ?_).symm
    rcases admitted with unprotected | ⟨p, there, -⟩
    · refine Or.inr fun here => unprotected ?_
      rw [here]
      decide
    · exact Or.inl (Option.isSome_iff_exists.mpr ⟨p, there⟩)
  have passed := denial?_eq_none_iff.mpr (show Admits requirements ask by decide)
  refine ⟨(decides requirements ask ack).1 (by decide), ?_, ?_, ?_, ?_, ?_⟩
  · rw [(decides requirements { ask with principal := none } ack).2 (by decide)]
    rfl
  · exact depends requirements others same ack
  · exact grows requirements ask eve lead (by decide) passed
  · exact shut requirements { ask with destination := "audit" } (by decide)
      (by simp [Grants, requirements])
  · exact behind requirements [.interception [redirected]] ack named eager

end AccessRules

end Switchboard
