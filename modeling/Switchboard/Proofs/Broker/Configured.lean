import Switchboard.Proofs.Broker.Audit
import Switchboard.Proofs.Chain.Authorization
import Switchboard.Proofs.Registry.Registration
import Switchboard.Proofs.Settings

/-!
# What settings ask for and what they get

A broker can be assembled from all settings whose destinations have different ids, whatever else is
wrong with them, and from no others. It has one messaging destination for each one in the settings,
which is open to those that the settings name (`build_configures`).
-/

namespace Switchboard

/-- The destination is open, or the principal of the request has one of its roles. -/
def DestinationConfig.Admits (c : DestinationConfig) (request : Request) : Prop :=
  c.roles = [] ∨ ∃ p ∈ request.principal, ∃ role ∈ c.roles, role ∈ p.roles

namespace Assembly

namespace Plan

/-- What is told of a destination whose id was taken. -/
def refusal (id : String) : Failure :=
  ⟨.broker (.duplicateDestination id), ["configuring destination '" ++ id ++ "'"]⟩

variable {p : Plan} {c : DestinationConfig} {cs : List DestinationConfig} {f : Failure}

theorem add_of_taken (taken : p.registry.get? c.id ≠ none) : p.add c = .error (refusal c.id) := by
  have there : p.registry.destinations.contains c.id = true := by
    rw [Std.ExtTreeMap.contains_eq_isSome_getElem?, Option.isSome_iff_ne_none]
    exact taken
  unfold add Registry.register
  simp only [there, if_true]
  rfl

theorem add_of_free (free : p.registry.get? c.id = none) : ∃ p', p.add c = .ok p' := by
  have absent : p.registry.destinations.contains c.id = false := by
    rw [Std.ExtTreeMap.contains_eq_isSome_getElem?, Option.isSome_eq_false_iff,
      Option.isNone_iff_eq_none]
    exact free
  unfold add Registry.register
  simp only [absent, Bool.false_eq_true, if_false]
  exact ⟨_, rfl⟩

theorem addAll_append (front rest : List DestinationConfig) :
    p.addAll (front ++ rest) = p.addAll front >>= fun p' => p'.addAll rest :=
  List.foldlM_append

theorem addAll_cons_eq (c : DestinationConfig) (rest : List DestinationConfig) :
    p.addAll (c :: rest) = p.add c >>= fun p' => p'.addAll rest :=
  List.foldlM_cons

/-- Adding stops at the first destination that cannot be added. -/
theorem addAll_eq_error_iff : ∀ {p : Plan}, p.addAll cs = .error f ↔
    ∃ front c rest between, cs = front ++ c :: rest ∧ p.addAll front = .ok between ∧
      between.add c = .error f := by
  intro p
  constructor
  · induction cs generalizing p with
    | nil => nofun
    | cons c rest ih =>
      intro failed
      rw [addAll_cons_eq] at failed
      cases first : p.add c with
      | error f' =>
        rw [first] at failed
        cases failed
        exact ⟨[], c, rest, p, rfl, rfl, first⟩
      | ok p' =>
        rw [first] at failed
        obtain ⟨front, c', rest', between, rfl, reached, stuck⟩ := ih failed
        refine ⟨c :: front, c', rest', between, rfl, ?_, stuck⟩
        rw [addAll_cons_eq, first]
        exact reached
  · rintro ⟨front, c, rest, between, rfl, reached, stuck⟩
    rw [addAll_append, reached]
    change between.addAll (c :: rest) = .error f
    rw [addAll_cons_eq, stuck]
    rfl

variable {journal : Journal}

/-- The id of a destination is taken if a destination before it has it. -/
theorem taken_iff (reached : Plan.addAll { journal } cs = .ok p) (id : String) :
    p.registry.get? id ≠ none ↔ id ∈ cs.map DestinationConfig.id := by
  obtain ⟨-, -, got⟩ := get?_addAll cs reached
  have nobody : ({ journal } : Plan).registry.get? id = none := Std.ExtTreeMap.getElem?_empty
  rw [got, nobody, Option.or_none, ne_eq, Option.map_eq_none_iff, List.find?_eq_none]
  simp

theorem addAll_of_distinct (distinct : (cs.map DestinationConfig.id).Nodup) :
    ∃ p, Plan.addAll { journal } cs = .ok p := by
  induction cs using List.reverseRecOn with
  | nil => exact ⟨{ journal }, rfl⟩
  | append_singleton cs c ih =>
    rw [List.map_append, List.map_singleton, ← List.concat_eq_append, List.nodup_concat] at distinct
    obtain ⟨p, reached⟩ := ih distinct.2
    have free : p.registry.get? c.id = none := by
      by_contra taken
      exact distinct.1 ((taken_iff reached c.id).mp taken)
    obtain ⟨p', added⟩ := add_of_free free
    refine ⟨p', ?_⟩
    rw [addAll_append, reached]
    change p.addAll [c] = .ok p'
    rw [addAll_cons_eq, added]
    rfl

/-- Of a list of destinations, the first one whose id was taken is refused. -/
theorem addAll_fails_iff : Plan.addAll { journal } cs = .error f ↔
    ∃ front c rest, cs = front ++ c :: rest ∧ (front.map DestinationConfig.id).Nodup ∧
      c.id ∈ front.map DestinationConfig.id ∧ f = refusal c.id := by
  rw [addAll_eq_error_iff]
  constructor
  · rintro ⟨front, c, rest, between, split, reached, stuck⟩
    have taken : between.registry.get? c.id ≠ none := by
      intro free
      obtain ⟨p', added⟩ := add_of_free free
      cases added.symm.trans stuck
    rw [add_of_taken taken] at stuck
    cases stuck
    exact ⟨front, c, rest, split, (get?_addAll front reached).1, (taken_iff reached c.id).mp taken,
      rfl⟩
  · rintro ⟨front, c, rest, split, distinct, repeated, rfl⟩
    obtain ⟨between, reached⟩ := addAll_of_distinct distinct
    have taken := (taken_iff reached c.id).mpr repeated
    exact ⟨front, c, rest, between, split, reached, add_of_taken taken⟩

end Plan

variable {settings : Settings} {journal : Journal} {b : Broker ChannelAdapter Unit} {f : Failure}

theorem build_error_iff :
    build settings journal = .error f ↔
      Plan.addAll { journal } settings.destinations = .error f := by
  unfold build
  cases Plan.addAll { journal } settings.destinations with
  | error f' => constructor <;> (intro failed; cases failed; rfl)
  | ok p => exact iff_of_false nofun nofun

theorem build_ok_iff : (∃ b, build settings journal = .ok b) ↔ settings.ids.Nodup := by
  constructor
  · rintro ⟨b, built⟩
    exact (get?_of_build built).1
  · intro distinct
    obtain ⟨p, planned⟩ : ∃ p, Plan.addAll { journal } settings.destinations = .ok p :=
      Plan.addAll_of_distinct distinct
    unfold build
    rw [planned]
    exact ⟨_, rfl⟩

/-! ### The parts of a broker -/

/-- What settings ask for, their parts as they are in the broker. -/
structure Configures (settings : Settings) (b : Broker ChannelAdapter Unit) : Prop where
  /-- There is one adapter for each destination, on the channel that is named or else on one named
  after the destination. -/
  bound : b.exchange.registry.adapters.Perm
    (settings.destinations.map fun c => (c.id, .ofChannel c.id (c.channel.getD c.id)))
  /-- No destination is anything but a messaging destination. -/
  messaging : b.exchange.registry.ids = b.exchange.registry.adapters.map (·.1)
  ascending : b.exchange.registry.ids.Pairwise (· < ·)
  /-- Whoever is admitted is answered behind the masking stage. -/
  admits {c} (there : c ∈ settings.destinations) {request : Request}
    (named : request.destination = c.id) (admitted : c.Admits request)
    (next : Endpoint (Exchange ChannelAdapter Unit)) :
    b.chain.execute next request = Chain.execute [.conversion [.maskServerErrors]] next request
  refuses {c} (there : c ∈ settings.destinations) {request : Request}
    (named : request.destination = c.id) (strange : ¬ c.Admits request)
    (next : Endpoint (Exchange ChannelAdapter Unit)) (x : Exchange ChannelAdapter Unit) :
    ∃ event, (b.chain.execute next request).exec x =
      (.error (Failure.broker (AccessRules.refusal request)), Journaled.record event x)

theorem mem_adapters_iff (built : build settings journal = .ok b) {id : String}
    {a : ChannelAdapter} : (id, a) ∈ b.exchange.registry.adapters ↔
      ∃ c ∈ settings.destinations,
        (c.id, ChannelAdapter.ofChannel c.id c.effectiveChannel) = (id, a) := by
  obtain ⟨distinct, got⟩ := get?_of_build built
  rw [Registry.mem_adapters, got, Settings.destination?]
  constructor
  · intro found
    obtain ⟨d, there, adapter⟩ := Option.bind_eq_some_iff.mp found
    obtain ⟨c, asked, rfl⟩ := Option.map_eq_some_iff.mp there
    cases adapter
    have same : c.id = id := by simpa using List.find?_some asked
    exact ⟨c, List.mem_of_find?_eq_some asked, by rw [same]⟩
  · rintro ⟨c, asked, same⟩
    cases same
    rw [Plan.find?_of_distinct distinct asked]
    rfl

theorem bound_of_build (built : build settings journal = .ok b) :
    b.exchange.registry.adapters.Perm
      (settings.destinations.map fun c => (c.id, .ofChannel c.id (c.channel.getD c.id))) := by
  have listed : b.exchange.registry.adapters.Nodup :=
    List.Nodup.of_map Prod.fst (b.exchange.registry.adapters_ascending.imp String.ne_of_lt)
  have asked : (settings.destinations.map fun c =>
      (c.id, ChannelAdapter.ofChannel c.id (c.channel.getD c.id))).Nodup := by
    refine List.Nodup.of_map Prod.fst ?_
    rw [List.map_map]
    exact (get?_of_build built).1
  rw [List.perm_ext_iff_of_nodup listed asked]
  rintro ⟨id, a⟩
  rw [mem_adapters_iff built, List.mem_map]
  rfl

theorem messaging_of_build (built : build settings journal = .ok b) :
    b.exchange.registry.ids = b.exchange.registry.adapters.map (·.1) := by
  have led : ∀ id ∈ b.exchange.registry.ids,
      (((b.exchange.registry.get? id).bind Destination.adapter?).map (id, ·)).map Prod.fst =
        some id := by
    intro id listed
    obtain ⟨d, there⟩ := Option.ne_none_iff_exists'.mp (Registry.mem_ids_iff.mp listed)
    obtain ⟨c, -, rfl⟩ := Option.map_eq_some_iff.mp (((get?_of_build built).2 id).symm.trans there)
    rw [there]
    rfl
  rw [Registry.adapters_eq, List.map_filterMap, List.filterMap_congr led, List.filterMap_some]

theorem denial?_eq_none_iff_admits {rules : AccessRules} {c : DestinationConfig} {request : Request}
    (roles : ∀ id, rules.roles[id]? = (settings.destination? id).bind DestinationConfig.accepted?)
    (found : settings.destination? request.destination = some c) :
    rules.denial? request = none ↔ c.Admits request := by
  unfold AccessRules.denial? DestinationConfig.Admits
  rw [roles, found, Option.bind_some, DestinationConfig.accepted?]
  by_cases bare : c.roles = []
  · simp [bare]
  · cases request.principal <;> simp [bare, Principal.hasRole]

theorem configures_of_build (built : build settings journal = .ok b) : Configures settings b := by
  obtain ⟨rules, masked, roles⟩ := chain_of_build built
  have decides {c} (there : c ∈ settings.destinations) {request : Request}
      (named : request.destination = c.id) : rules.denial? request = none ↔ c.Admits request := by
    refine denial?_eq_none_iff_admits roles ?_
    rw [Settings.destination?, named]
    exact Plan.find?_of_distinct (get?_of_build built).1 there
  refine ⟨bound_of_build built, messaging_of_build built, Registry.ids_ascending _, ?_, ?_⟩
  · intro c there request named admitted next
    have passed : rules.authorize next request = next request := by
      rw [AccessRules.authorize, (decides there named).mpr admitted]
    rw [masked]
    change Converter.guarded [.maskServerErrors] (rules.authorize next) request =
      Converter.guarded [.maskServerErrors] next request
    rw [Converter.guarded, Converter.guarded, passed]
  · intro c there request named strange next x
    have denial :=
      (rules.denial?_eq_none_or request).resolve_left (mt (decides there named).mp strange)
    obtain ⟨event, -, -, -, left⟩ := rules.audits.denied next request x _ denial
    rw [masked]
    exact ⟨event, left⟩

/-- A broker can be assembled if and only if the destinations have different ids, so also from all
settings that are accepted. Otherwise the first repeated id is told, and that it is one of the
configuration. An assembled broker has the destinations of the settings and no others. -/
theorem build_configures (settings : Settings) (journal : Journal) :
    ((∃ b, build settings journal = .ok b) ↔ settings.ids.Nodup) ∧
    (settings.validate = .ok () → ∃ b, build settings journal = .ok b) ∧
    (∀ f, build settings journal = .error f ↔
      ∃ front id rest, settings.ids = front ++ id :: rest ∧ front.Nodup ∧ id ∈ front ∧
        f = ⟨.broker (.duplicateDestination id), ["configuring destination '" ++ id ++ "'"]⟩) ∧
    (∀ f, build settings journal = .error f → f.status = .alreadyExists) ∧
    ∀ b, build settings journal = .ok b → Configures settings b := by
  refine ⟨build_ok_iff, ?_, ?_, ?_, fun b built => configures_of_build built⟩
  · intro accepted
    exact build_ok_iff.mpr (settings.validate_ok_iff.mp accepted).distinct
  · intro f
    rw [build_error_iff, Plan.addAll_fails_iff]
    constructor
    · rintro ⟨front, c, rest, split, distinct, repeated, rfl⟩
      refine ⟨front.map DestinationConfig.id, c.id, rest.map DestinationConfig.id, ?_, distinct,
        repeated, rfl⟩
      rw [Settings.ids, split, List.map_append, List.map_cons]
    · rintro ⟨front, id, rest, split, distinct, repeated, rfl⟩
      obtain ⟨front', others, divided, rfl, same⟩ := List.map_eq_append_iff.mp split
      obtain ⟨c, rest', rfl, rfl, rfl⟩ := List.map_eq_cons_iff.mp same
      exact ⟨front', c, rest', divided, distinct, repeated, rfl⟩
  · intro f failed
    obtain ⟨front, c, rest, -, -, -, rfl⟩ := Plan.addAll_fails_iff.mp (build_error_iff.mp failed)
    rfl

end Assembly

end Switchboard
