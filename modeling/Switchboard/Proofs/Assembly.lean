import Mathlib.Data.List.Nodup
import Switchboard.Assembly
import Switchboard.Proofs.Attempt

/-!
# What settings make of a broker

An assembled broker has a messaging destination for each one of the settings, bound to its channel,
and no other destinations. The hub is new, and no adapter has a listener yet.
-/

namespace Switchboard

def DestinationConfig.destination (c : DestinationConfig) : Destination ChannelAdapter Unit :=
  .messaging (.ofChannel c.id c.effectiveChannel)

/-- The roles that protect the destination, if it is protected. -/
def DestinationConfig.accepted? (c : DestinationConfig) : Option (List String) :=
  if c.roles = [] then none else some c.roles

def Settings.destination? (settings : Settings) (id : String) : Option DestinationConfig :=
  settings.destinations.find? fun c => c.id = id

namespace Assembly

namespace Plan

/-- What adding destinations comes to: those that were there stay, those that are asked for come,
and there are no others. -/
structure Extends (p : Plan) (cs : List DestinationConfig) (p' : Plan) : Prop where
  stays {id d} (there : p.registry.get? id = some d) : p'.registry.get? id = some d
  comes {c} (asked : c ∈ cs) : p'.registry.get? c.id = some c.destination
  others {id d} (there : p'.registry.get? id = some d) :
    p.registry.get? id = some d ∨ ∃ c ∈ cs, d = c.destination

variable {p p' : Plan} {c : DestinationConfig}

theorem get?_add (added : p.add c = .ok p') (id : String) : p.registry.get? c.id = none ∧
    p'.registry.get? id = if c.id = id then some c.destination else p.registry.get? id := by
  unfold add Registry.register at added
  dsimp only at added
  split at added
  · cases added
  · rename_i registered
    split at registered
    · cases registered
    · rename_i free
      cases registered
      cases added
      refine ⟨?_, ?_⟩
      · exact Std.ExtTreeMap.getElem?_eq_none fun there =>
          free (Std.ExtTreeMap.contains_iff_mem.mpr there)
      · simp only [Registry.get?, Std.ExtTreeMap.getElem?_insert, Std.LawfulEqCmp.compare_eq_iff_eq]
        rfl

theorem find?_of_distinct {cs : List DestinationConfig}
    (distinct : (cs.map DestinationConfig.id).Nodup) (asked : c ∈ cs) :
    (cs.find? fun c' => c'.id = c.id) = some c := by
  cases found : cs.find? fun c' => c'.id = c.id with
  | none => exact absurd (decide_eq_true rfl) (List.find?_eq_none.mp found c asked)
  | some c' =>
    have same : c'.id = c.id := by simpa using List.find?_some found
    rw [List.inj_on_of_nodup_map distinct (List.mem_of_find?_eq_some found) asked same]

theorem find?_of_absent {cs : List DestinationConfig} {id : String} (absent : ∀ c ∈ cs, c.id ≠ id) :
    (cs.find? fun c => c.id = id) = none := by
  rw [List.find?_eq_none]
  intro c asked same
  exact absent c asked (of_decide_eq_true same)

theorem addAll_cons {rest : List DestinationConfig} (added : p.addAll (c :: rest) = .ok p') :
    ∃ between, p.add c = .ok between ∧ between.addAll rest = .ok p' := by
  unfold addAll at added
  rw [List.foldlM_cons] at added
  cases first : p.add c with
  | error f =>
    rw [first] at added
    cases added
  | ok between =>
    rw [first] at added
    exact ⟨between, rfl, added⟩

/-- Destinations with different ids are added one after the other; an id that was taken is not asked
for again. -/
theorem get?_addAll (cs : List DestinationConfig) : ∀ {p : Plan}, p.addAll cs = .ok p' →
    (cs.map DestinationConfig.id).Nodup ∧ (∀ c ∈ cs, p.registry.get? c.id = none) ∧
      ∀ id, p'.registry.get? id =
        ((cs.find? fun c => c.id = id).map DestinationConfig.destination).or
          (p.registry.get? id) := by
  induction cs with
  | nil =>
    intro p added
    cases added
    exact ⟨List.nodup_nil, fun c asked => absurd asked List.not_mem_nil, fun id => rfl⟩
  | cons c rest ih =>
    intro p added
    obtain ⟨between, first, others⟩ := addAll_cons added
    obtain ⟨distinct, free, got⟩ := ih others
    have apart {c'} (asked : c' ∈ rest) : c.id ≠ c'.id ∧ p.registry.get? c'.id = none := by
      have unused := free c' asked
      rw [(get?_add first c'.id).2] at unused
      split at unused
      · cases unused
      · rename_i differs
        exact ⟨differs, unused⟩
    refine ⟨?_, ?_, ?_⟩
    · rw [List.map_cons, List.nodup_cons]
      refine ⟨?_, distinct⟩
      intro repeated
      obtain ⟨c', asked, same⟩ := List.mem_map.mp repeated
      exact (apart asked).1 same.symm
    · intro c' asked
      rcases List.mem_cons.mp asked with rfl | later
      · exact (get?_add first c'.id).1
      · exact (apart later).2
    · intro id
      rw [got, (get?_add first id).2, List.find?_cons]
      by_cases same : c.id = id
      · have unasked : (rest.find? fun c' => c'.id = id) = none :=
          find?_of_absent fun c' asked other => (apart asked).1 (same.trans other.symm)
        simp [same, unasked]
      · simp [same]

theorem roles_add (added : p.add c = .ok p') (free : p.rules.roles[c.id]? = none) (id : String) :
    p'.rules.roles[id]? = if c.id = id then c.accepted? else p.rules.roles[id]? := by
  unfold add at added
  dsimp only at added
  split at added
  · cases added
  · cases added
    dsimp only
    unfold DestinationConfig.accepted?
    by_cases bare : c.roles = []
    · rw [if_pos (List.isEmpty_iff.mpr bare), if_pos bare]
      split
      · rename_i same
        exact same ▸ free
      · rfl
    · rw [if_neg (mt List.isEmpty_iff.mp bare), if_neg bare, AccessRules.require, free]
      simp only [Std.ExtTreeMap.getElem?_insert, Std.LawfulEqCmp.compare_eq_iff_eq,
        Option.getD_none, List.nil_append]

/-- A destination is protected by its own roles, if it has any. -/
theorem roles_addAll (cs : List DestinationConfig) : ∀ {p : Plan}, p.addAll cs = .ok p' →
    (∀ c ∈ cs, p.rules.roles[c.id]? = none) → ∀ id, p'.rules.roles[id]? =
      (cs.find? fun c => c.id = id).elim p.rules.roles[id]? DestinationConfig.accepted? := by
  induction cs with
  | nil =>
    intro p added free id
    cases added
    rfl
  | cons c rest ih =>
    intro p added free id
    obtain ⟨distinct, -, -⟩ := get?_addAll (c :: rest) added
    rw [List.map_cons, List.nodup_cons, List.mem_map] at distinct
    obtain ⟨between, first, others⟩ := addAll_cons added
    have unprotected := roles_add first (free c List.mem_cons_self)
    have later (c') (asked : c' ∈ rest) : between.rules.roles[c'.id]? = none := by
      have differs : c.id ≠ c'.id := fun same => distinct.1 ⟨c', asked, same.symm⟩
      rw [unprotected, if_neg differs]
      exact free c' (List.mem_cons_of_mem c asked)
    rw [ih others later id, unprotected, List.find?_cons]
    by_cases same : c.id = id
    · have unasked : (rest.find? fun c' => c'.id = id) = none :=
        find?_of_absent fun c' asked other => distinct.1 ⟨c', asked, other.trans same.symm⟩
      simp [same, unasked]
    · simp [same]

theorem extends_addAll {cs : List DestinationConfig} (added : p.addAll cs = .ok p') :
    p.Extends cs p' := by
  obtain ⟨distinct, free, got⟩ := get?_addAll cs added
  refine ⟨?_, ?_, ?_⟩
  · intro id d there
    have unasked : (cs.find? fun c => c.id = id) = none := by
      refine find?_of_absent ?_
      rintro c asked rfl
      cases (free c asked).symm.trans there
    rw [got, unasked, there]
    rfl
  · intro c asked
    rw [got, find?_of_distinct distinct asked]
    rfl
  · intro id d there
    rw [got] at there
    rcases Option.or_eq_some_iff.mp there with new | ⟨-, old⟩
    · obtain ⟨c, found, rfl⟩ := Option.map_eq_some_iff.mp new
      exact Or.inr ⟨c, List.mem_of_find?_eq_some found, rfl⟩
    · exact Or.inl old

end Plan

variable {settings : Settings} {journal : Journal} {b : Broker ChannelAdapter Unit}

theorem build_of_toOption (there : (build settings journal).toOption = some b) :
    build settings journal = .ok b :=
  ok_of_toOption there

/-- The broker that `settings` describe has the parts of a plan, on a new hub. -/
theorem plan_of_build (built : build settings journal = .ok b) :
    ∃ (p : Plan) (site : Site Unit), Plan.addAll { journal } settings.destinations = .ok p ∧
      b = Broker.ofRegistry p.chain p.registry site ∧
        site.hub = Hub.ofCapacity settings.channelCapacity.toNat := by
  unfold build at built
  cases planned : Plan.addAll { journal } settings.destinations with
  | error f =>
    rw [planned] at built
    cases built
  | ok p =>
    rw [planned] at built
    cases built
    exact ⟨p, _, rfl, rfl, rfl⟩

theorem ofRegistry_of_build (built : build settings journal = .ok b) :
    ∃ (p : Plan) (site : Site Unit), b = Broker.ofRegistry p.chain p.registry site ∧
      site.hub = Hub.ofCapacity settings.channelCapacity.toNat ∧
      Plan.Extends {} settings.destinations p := by
  obtain ⟨p, site, planned, same, hub⟩ := plan_of_build built
  have extended := Plan.extends_addAll planned
  exact ⟨p, site, same, hub, extended.stays, extended.comes, extended.others⟩

/-- The chain masks server-side failures before it authorizes, by the roles of the settings. -/
theorem chain_of_build (built : build settings journal = .ok b) :
    ∃ rules, b.chain = [.conversion [.maskServerErrors], .authorization rules] ∧
      ∀ id, rules.roles[id]? = (settings.destination? id).bind DestinationConfig.accepted? := by
  obtain ⟨p, site, planned, rfl, -⟩ := plan_of_build built
  refine ⟨p.rules, rfl, ?_⟩
  intro id
  have roles := Plan.roles_addAll _ planned (fun c _ => Std.ExtTreeMap.getElem?_empty) id
  rw [roles, Settings.destination?]
  cases settings.destinations.find? fun c => c.id = id with
  | none => exact Std.ExtTreeMap.getElem?_empty
  | some c => rfl

/-- Each id leads to the one destination of the settings that has it, and to nothing else. -/
theorem get?_of_build (built : build settings journal = .ok b) :
    (settings.destinations.map DestinationConfig.id).Nodup ∧ ∀ id, b.exchange.registry.get? id =
      (settings.destination? id).map DestinationConfig.destination := by
  obtain ⟨p, site, planned, rfl, -⟩ := plan_of_build built
  obtain ⟨distinct, -, got⟩ := Plan.get?_addAll _ planned
  refine ⟨distinct, ?_⟩
  intro id
  have registered := got id
  rw [show Registry.get? _ id = none from Std.ExtTreeMap.getElem?_empty, Option.or_none]
    at registered
  exact registered

end Assembly

end Switchboard
