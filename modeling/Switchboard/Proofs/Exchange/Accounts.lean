import Switchboard.Proofs.Exchange.Forwarding

/-!
# The accounts of an exchange

Every operation keeps the accounts in order: the hub counts what the adapters and the guests hold
(`Solvent`), and each destination stays bound to its channel (`Audited`). While the hub is up
besides, no operation of an adapter fails (`Accounted`).
-/

namespace Switchboard.Exchange

variable {ε : Type}

namespace Core

def adapters (k : Core ε) : Multiset ChannelAdapter :=
  (k.registry.destinations.toList : Multiset (String × Destination ChannelAdapter ε)).filterMap
    fun d => d.2.adapter?

/-- The hub counts what the adapters and the guests `g` hold. -/
def Solvent (g : Guests) (k : Core ε) : Prop :=
  Sound k.hub k.adapters g.holdings

/-- The hub counts what the adapters and the guests `g` hold. The destinations are those of the plan
`channels`: each is a messaging destination bound to its channel. -/
structure Audited (channels : String → Option String) (g : Guests) (k : Core ε) : Prop where
  sound : Sound k.hub k.adapters g.holdings
  messaging {id d} (there : k.registry.get? id = some d) : ∃ a, d = .messaging a
  bound (id) : (k.adapter? id).map ChannelAdapter.channel = channels id

structure Accounted (channels : String → Option String) (g : Guests) (k : Core ε) : Prop where
  sound : Sound k.hub k.adapters g.holdings
  up : k.hub.isShutDown = false
  messaging {id d} (there : k.registry.get? id = some d) : ∃ a, d = .messaging a
  bound (id) : (k.adapter? id).map ChannelAdapter.channel = channels id

variable {k : Core ε} {channels : String → Option String} {g : Guests} {id : String}
  {a b : ChannelAdapter} {h : Hub}

/-! ### One adapter apart from the others -/

theorem nodup_toList {β : Type} (t : Std.ExtTreeMap String β) : t.toList.Nodup := by
  refine Std.ExtTreeMap.distinct_keys_toList.imp ?_
  rintro ⟨k, v⟩ ⟨k', v'⟩ distinct same
  cases same
  exact distinct Std.ReflCmp.compare_self

theorem coe_toList_eq_cons {β : Type} {t : Std.ExtTreeMap String β} {v : β}
    (found : t[id]? = some v) :
    (t.toList : Multiset (String × β)) = (id, v) ::ₘ ((t.erase id).toList : Multiset _) := by
  have nodup (t : Std.ExtTreeMap String β) : (t.toList : Multiset (String × β)).Nodup :=
    Multiset.coe_nodup.mpr (nodup_toList t)
  have apart : (id, v) ∉ ((t.erase id).toList : Multiset (String × β)) := by
    simp [Std.ExtTreeMap.mem_toList_iff_getElem?_eq_some]
  rw [Multiset.Nodup.ext (nodup t) (Multiset.nodup_cons.mpr ⟨apart, nodup _⟩)]
  rintro ⟨other, w⟩
  simp only [Multiset.mem_coe, Multiset.mem_cons, Prod.mk.injEq,
    Std.ExtTreeMap.mem_toList_iff_getElem?_eq_some, Std.ExtTreeMap.getElem?_erase,
    Std.LawfulEqCmp.compare_eq_iff_eq]
  by_cases same : id = other
  · subst same
    simp [found, eq_comm]
  · simp [same, Ne.symm same]

theorem adapters_eq_cons (there : k.adapter? id = some a) : ∃ others, k.adapters = a ::ₘ others ∧
    ∀ b h, ({ k with hub := h, registry := k.registry.setAdapter id b } : Core ε).adapters =
      b ::ₘ others := by
  obtain ⟨d, found, adapter⟩ := Option.bind_eq_some_iff.mp there
  have found : k.registry.destinations[id]? = some d := found
  refine ⟨({ k with registry := ⟨k.registry.destinations.erase id⟩ } : Core ε).adapters, ?_, ?_⟩
  · rw [adapters, coe_toList_eq_cons found]
    exact Multiset.filterMap_cons_some _ _ _ adapter
  · intro b h
    have same : (k.registry.setAdapter id b).destinations.erase id =
        k.registry.destinations.erase id := by
      apply Std.ExtTreeMap.ext_getElem?
      intro other
      simp only [Registry.setAdapter, Std.ExtTreeMap.getElem?_erase, Std.ExtTreeMap.getElem?_insert]
      split <;> rfl
    have set : (k.registry.setAdapter id b).destinations[id]? = some (.messaging b) := by
      simp [Registry.setAdapter]
    rw [adapters, coe_toList_eq_cons set, same]
    rfl

theorem mem_adapters : a ∈ k.adapters ↔ ∃ id, k.adapter? id = some a := by
  rw [adapters, Multiset.mem_filterMap]
  constructor
  · rintro ⟨⟨id, d⟩, listed, adapter⟩
    have found := Std.ExtTreeMap.mem_toList_iff_getElem?_eq_some.mp (Multiset.mem_coe.mp listed)
    exact ⟨id, Option.bind_eq_some_iff.mpr ⟨d, found, adapter⟩⟩
  · rintro ⟨id, there⟩
    obtain ⟨d, found, adapter⟩ := Option.bind_eq_some_iff.mp there
    have listed := Std.ExtTreeMap.mem_toList_iff_getElem?_eq_some.mpr found
    exact ⟨(id, d), Multiset.mem_coe.mpr listed, adapter⟩

theorem nodup_registered (k : Core ε) : k.registry.adapters.Nodup := by
  refine (nodup_toList k.registry.destinations).filterMap ?_
  rintro ⟨id, d⟩ ⟨id', d'⟩ ⟨other, a⟩ first second
  obtain ⟨b, adapter, same⟩ := Option.map_eq_some_iff.mp first
  obtain ⟨b', adapter', same'⟩ := Option.map_eq_some_iff.mp second
  cases same
  cases same'
  cases d with
  | remoting target options => cases adapter
  | messaging c =>
    cases d' with
    | remoting target options => cases adapter'
    | messaging c' =>
      cases adapter
      cases adapter'
      rfl

/-- The adapters are those that some distinct ids lead to, if no other id leads to any. -/
theorem adapters_eq_of_ids {ids : List String} (distinct : ids.Nodup)
    (all : ∀ {id a}, k.adapter? id = some a → id ∈ ids) :
    k.adapters = (ids.filterMap k.adapter? : List ChannelAdapter) := by
  have found : (ids.filterMap fun id => (k.adapter? id).map fun a => (id, a)).Nodup := by
    refine distinct.filterMap ?_
    rintro id id' ⟨other, a⟩ first second
    obtain ⟨b, -, same⟩ := Option.map_eq_some_iff.mp first
    obtain ⟨b', -, same'⟩ := Option.map_eq_some_iff.mp second
    exact (congrArg Prod.fst same).trans (congrArg Prod.fst same').symm
  have entries : k.registry.adapters.Perm
      (ids.filterMap fun id => (k.adapter? id).map fun a => (id, a)) := by
    rw [List.perm_ext_iff_of_nodup k.nodup_registered found]
    rintro ⟨id, a⟩
    rw [mem_registered, List.mem_filterMap]
    constructor
    · intro there
      exact ⟨id, all there, by rw [there]; rfl⟩
    · rintro ⟨id', -, there⟩
      obtain ⟨a', there, same⟩ := Option.map_eq_some_iff.mp there
      cases same
      exact there
  have adapters : k.adapters = (k.registry.adapters.map Prod.snd : List ChannelAdapter) := by
    rw [Registry.adapters, List.map_filterMap]
    simp only [Option.map_map, Function.comp_def, Option.map_id_fun', id]
    rfl
  rw [adapters, Multiset.coe_eq_coe.mpr (entries.map Prod.snd), List.map_filterMap]
  simp only [Option.map_map, Function.comp_def, Option.map_id_fun', id]

/-! ### What keeps the accounts -/

namespace Solvent

/-- One adapter and the hub change, and the accounts stand for this adapter and any others. -/
theorem replace (solvent : k.Solvent g) (there : k.adapter? id = some a)
    (sound : ∀ {others}, Sound k.hub (a ::ₘ others) g.holdings →
      Sound h (b ::ₘ others) g.holdings) :
    ({ k with hub := h, registry := k.registry.setAdapter id b } : Core ε).Solvent g := by
  obtain ⟨others, apart, set⟩ := adapters_eq_cons there
  rw [Solvent, set]
  exact sound (apart ▸ solvent)

theorem fits (solvent : k.Solvent g) (there : k.adapter? id = some a) : a.Fits k.hub :=
  Sound.fits solvent (mem_adapters.mpr ⟨id, there⟩)

theorem apart (solvent : k.Solvent g) (there : k.adapter? id = some a) :
    ∃ others, Sound k.hub (a ::ₘ others) g.holdings := by
  obtain ⟨others, apart, -⟩ := adapters_eq_cons there
  exact ⟨others, apart ▸ solvent⟩

theorem operate (solvent : k.Solvent g) (op : Coordinator.Operation) (id : String) :
    (k.operate op id).Solvent g ∧ k.hub.Grows (k.operate op id).hub := by
  cases there : k.adapter? id with
  | none =>
    rw [operate_of_free there]
    exact ⟨solvent, Hub.Grows.refl k.hub⟩
  | some a =>
    rw [operate_of_adapter there]
    obtain ⟨others, sound⟩ := solvent.apart there
    exact ⟨solvent.replace there fun sound => (sound.coordinated op).1, (sound.coordinated op).2⟩

theorem operateAll (solvent : k.Solvent g) (op : Coordinator.Operation) (ids : List String) :
    (k.operateAll op ids).Solvent g :=
  operateAll_induction ids (fun solvent id => (solvent.operate op id).1) solvent

theorem similar (solvent : k.Solvent g) (similar : k.hub.Similar h) :
    ({ k with hub := h } : Core ε).Solvent g :=
  Sound.similar solvent similar

theorem withDelivery (solvent : k.Solvent g) (d : Delivery) :
    ({ k with delivery := d } : Core ε).Solvent g :=
  solvent

theorem relisten {l l' : Listener} (solvent : k.Solvent g) (there : k.adapter? id = some a)
    (held : a.coordinator.held = some l) (same : l.SameEnds l') (similar : k.hub.Similar h) :
    (k.relisten id a l' h).Solvent g :=
  solvent.replace there fun sound => (sound.relisten ε held same).similar similar

theorem depart (solvent : k.Solvent g) (client : String) : (k.depart client).Solvent g :=
  (solvent.withDelivery (k.delivery.disconnect client).2).operateAll _ _

theorem stable : Stable (Solvent g (ε := ε)) where
  hub solvent similar := solvent.similar similar
  look {k id a l} solvent there held := by
    obtain ⟨others, sound⟩ := solvent.apart there
    obtain ⟨same, similar⟩ := sound.pull_keeps held
    exact solvent.relisten there held same similar
  mark solvent there held := solvent.relisten there held ⟨rfl, rfl, rfl⟩ (Hub.Similar.refl _)
  tables {k d} solvent _ := solvent.withDelivery d
  depart solvent client := solvent.depart client

theorem dispatch (solvent : k.Solvent g) (request : Request) : (k.dispatch request).Solvent g := by
  unfold Core.dispatch
  split
  · split
    · exact ((solvent.withDelivery _).operate _ _).1
    · exact solvent
  · exact ((solvent.withDelivery _).operate _ _).1
  · exact solvent.similar (Hub.similar_publish _ _ _)
  · exact solvent

end Solvent

namespace Audited

theorem solvent (audited : k.Audited channels g) : k.Solvent g :=
  audited.sound

/-- One adapter and the hub change, and the accounts stand for this adapter and any others. -/
theorem replace (audited : k.Audited channels g) (there : k.adapter? id = some a)
    (channel : b.channel = a.channel)
    (sound : ∀ {others}, Sound k.hub (a ::ₘ others) g.holdings →
      Sound h (b ::ₘ others) g.holdings) :
    ({ k with hub := h, registry := k.registry.setAdapter id b } : Core ε).Audited channels g := by
  refine ⟨audited.solvent.replace there sound, ?_, ?_⟩
  · intro other d found
    simp only [Registry.get?, Registry.setAdapter, Std.ExtTreeMap.getElem?_insert] at found
    split at found
    · cases found
      exact ⟨b, rfl⟩
    · exact audited.messaging found
  · intro other
    rw [adapter?_setAdapter]
    split
    · rename_i same
      rw [← audited.bound, ← same, there, Option.map_some, Option.map_some, channel]
    · exact audited.bound other

theorem fits (audited : k.Audited channels g) (there : k.adapter? id = some a) :
    a.Fits k.hub :=
  audited.solvent.fits there

theorem apart (audited : k.Audited channels g) (there : k.adapter? id = some a) :
    ∃ others, Sound k.hub (a ::ₘ others) g.holdings :=
  audited.solvent.apart there

theorem operate (audited : k.Audited channels g) (op : Coordinator.Operation) (id : String) :
    (k.operate op id).Audited channels g ∧ k.hub.Grows (k.operate op id).hub := by
  cases there : k.adapter? id with
  | none =>
    rw [operate_of_free there]
    exact ⟨audited, Hub.Grows.refl k.hub⟩
  | some a =>
    rw [operate_of_adapter there]
    obtain ⟨others, sound⟩ := audited.apart there
    exact ⟨audited.replace there rfl fun sound => (sound.coordinated op).1,
      (sound.coordinated op).2⟩

theorem operateAll (audited : k.Audited channels g) (op : Coordinator.Operation)
    (ids : List String) : (k.operateAll op ids).Audited channels g :=
  operateAll_induction ids (fun audited id => (audited.operate op id).1) audited

theorem similar (audited : k.Audited channels g) (similar : k.hub.Similar h) :
    ({ k with hub := h } : Core ε).Audited channels g :=
  ⟨audited.sound.similar similar, audited.messaging, audited.bound⟩

theorem withDelivery (audited : k.Audited channels g) (d : Delivery) :
    ({ k with delivery := d } : Core ε).Audited channels g :=
  ⟨audited.sound, audited.messaging, audited.bound⟩

theorem relisten {l l' : Listener} (audited : k.Audited channels g)
    (there : k.adapter? id = some a) (held : a.coordinator.held = some l) (same : l.SameEnds l')
    (similar : k.hub.Similar h) : (k.relisten id a l' h).Audited channels g :=
  audited.replace there rfl fun sound => (sound.relisten ε held same).similar similar

theorem guests (audited : k.Audited channels g) (move : Guests.Move) :
    ({ k with hub := (move.run (k.hub, g)).1 } : Core ε).Audited channels
      (move.run (k.hub, g)).2 :=
  ⟨audited.sound.guests move, audited.messaging, audited.bound⟩

theorem depart (audited : k.Audited channels g) (client : String) :
    (k.depart client).Audited channels g :=
  (audited.withDelivery (k.delivery.disconnect client).2).operateAll _ _

theorem stable : Stable (Audited channels g (ε := ε)) where
  hub audited similar := audited.similar similar
  look {k id a l} audited there held := by
    obtain ⟨others, sound⟩ := audited.apart there
    obtain ⟨same, similar⟩ := sound.pull_keeps held
    exact audited.relisten there held same similar
  mark audited there held := audited.relisten there held ⟨rfl, rfl, rfl⟩ (Hub.Similar.refl _)
  tables {k d} audited _ := audited.withDelivery d
  depart audited client := audited.depart client

theorem dispatch (audited : k.Audited channels g) (request : Request) :
    (k.dispatch request).Audited channels g := by
  unfold Core.dispatch
  split
  · split
    · exact ((audited.withDelivery _).operate _ _).1
    · exact audited
  · exact ((audited.withDelivery _).operate _ _).1
  · exact audited.similar (Hub.similar_publish _ _ _)
  · exact audited

theorem accounted (audited : k.Audited channels g) (up : k.hub.isShutDown = false) :
    k.Accounted channels g :=
  ⟨audited.sound, up, audited.messaging, audited.bound⟩

end Audited

namespace Accounted

theorem audited (accounted : k.Accounted channels g) : k.Audited channels g :=
  ⟨accounted.sound, accounted.messaging, accounted.bound⟩

theorem fits (accounted : k.Accounted channels g) (there : k.adapter? id = some a) :
    a.Fits k.hub :=
  accounted.audited.fits there

theorem apart (accounted : k.Accounted channels g) (there : k.adapter? id = some a) :
    ∃ others, Sound k.hub (a ::ₘ others) g.holdings :=
  accounted.audited.apart there

theorem operate (accounted : k.Accounted channels g) (op : Coordinator.Operation) (id : String) :
    (k.operate op id).Accounted channels g ∧ k.hub.Grows (k.operate op id).hub := by
  obtain ⟨audited, grows⟩ := accounted.audited.operate op id
  exact ⟨audited.accounted (grows.shutDown.trans accounted.up), grows⟩

theorem similar (accounted : k.Accounted channels g) (similar : k.hub.Similar h) :
    ({ k with hub := h } : Core ε).Accounted channels g :=
  (accounted.audited.similar similar).accounted (similar.shutDown.trans accounted.up)

theorem withDelivery (accounted : k.Accounted channels g) (d : Delivery) :
    ({ k with delivery := d } : Core ε).Accounted channels g :=
  (accounted.audited.withDelivery d).accounted accounted.up

theorem relisten {l l' : Listener} (accounted : k.Accounted channels g)
    (there : k.adapter? id = some a) (held : a.coordinator.held = some l) (same : l.SameEnds l')
    (similar : k.hub.Similar h) : (k.relisten id a l' h).Accounted channels g :=
  (accounted.audited.relisten there held same similar).accounted
    (similar.shutDown.trans accounted.up)

theorem guests (accounted : k.Accounted channels g) {move : Guests.Move}
    (spares : move ≠ .shutdown) :
    ({ k with hub := (move.run (k.hub, g)).1 } : Core ε).Accounted channels
      (move.run (k.hub, g)).2 := by
  refine (accounted.audited.guests move).accounted ?_
  have balanced := accounted.sound.balanced
  rw [add_comm] at balanced
  obtain ⟨-, -, grows⟩ := Guests.run_balanced balanced move
  cases move with
  | shutdown => exact absurd rfl spares
  | close name => exact (Hub.isShutDown_close k.hub name).trans accounted.up
  | _ => exact (grows trivial).shutDown.trans accounted.up

end Accounted

end Core

/-! ### No operation fails -/

variable {x : Exchange ChannelAdapter ε} {channels : String → Option String} {g : Guests}
  {op : Attempt (ChannelAdapter × Site ε) Unit} {o : Coordinator.Operation}

theorem withAdapter_ok (performs : ChannelAdapter.Performs op o)
    (accounted : x.core.Accounted channels g) {id : String} {a : ChannelAdapter}
    (there : x.core.adapter? id = some a) : ((withAdapter id a op).exec x).1 = .ok () := by
  obtain ⟨others, sound⟩ := accounted.apart there
  exact performs.outcome (sound.outcome accounted.up o)

theorem onAdapter_ok (performs : ChannelAdapter.Performs op o)
    (accounted : x.core.Accounted channels g) (id : String) (f : Failure) :
    ((onAdapter? id op).run x).1 ≠ some (.error f) := by
  refine onAdapter_succeeds performs ?_ f
  intro a there
  obtain ⟨others, sound⟩ := accounted.apart there
  exact sound.outcome accounted.up o

theorem onEach_ok (performs : ChannelAdapter.Performs op o) (ids : List String)
    (accounted : x.core.Accounted channels g) : ((onEach op ids).run x).1 = .ok () := by
  refine onEach_succeeds performs (fun accounted id => (accounted.operate o id).1) ?_ ids accounted
  intro k id a accounted there
  obtain ⟨others, sound⟩ := accounted.apart there
  exact sound.outcome accounted.up o

theorem onEachUntil_ok (performs : ChannelAdapter.Performs op o) (ids : List String) :
    ∀ {x : Exchange ChannelAdapter ε}, x.core.Accounted channels g →
      ((onEachUntil op ids).exec x).1 = .ok () := by
  induction ids with
  | nil =>
    intro x accounted
    rfl
  | cons id rest ih =>
    intro x accounted
    have succeeded := onAdapter_ok performs accounted id
    have first := core_onAdapter performs id x
    rw [exec_onEachUntil_cons]
    split
    · rename_i f x' outcome
      rw [outcome] at succeeded
      exact absurd rfl (succeeded f)
    · rename_i result x' _ outcome
      rw [outcome] at first
      exact ih (first ▸ (accounted.operate o id).1)

/-! ### Requests -/

theorem failure_of_subscribe (accounted : x.core.Accounted channels g) {id client : String}
    {a : ChannelAdapter} (there : x.core.adapter? id = some a) {f : Failure}
    (failed : ((subscribe id a client).exec x).1 = .error f) :
    f = Failure.broker (.clientNotConnected client) := by
  rw [exec_subscribe] at failed
  split at failed
  · have succeeded : ((withAdapter id a (MessagingAdapter.subscribe client)).exec
        { x with delivery := (x.delivery.addRoute id client).2 }).1 = .ok () :=
      withAdapter_ok (ChannelAdapter.subscribe_performs client) (accounted.withDelivery _) there
    dsimp only at failed
    rw [succeeded] at failed
    cases failed
  · cases failed
    rfl

theorem unsubscribe_ok (accounted : x.core.Accounted channels g) {id : String}
    {a : ChannelAdapter} (there : x.core.adapter? id = some a) (client : String) :
    ((unsubscribe id a client).exec x).1 = .ok .ack := by
  have succeeded : ((withAdapter id a (MessagingAdapter.unsubscribe client)).exec
      { x with delivery := (x.delivery.removeRoute id client).2 }).1 = .ok () :=
    withAdapter_ok (ChannelAdapter.unsubscribe_performs client) (accounted.withDelivery _) there
  rw [exec_unsubscribe]
  dsimp only
  rw [succeeded]
  rfl

theorem publish_ok {id : String} {a : ChannelAdapter}
    (there : x.registry.get? id = some (.messaging a)) (m : Message) :
    ∃ receivers, ((publish id a m).exec x).1 = .ok (.published receivers) := by
  obtain ⟨receivers, succeeded, -⟩ := exec_invoke there m
  refine ⟨receivers, ?_⟩
  rw [exec_publish]
  dsimp only
  rw [succeeded]
  rfl

/-- A request fails only where the broker itself refuses it. -/
theorem failure_of_dispatch (accounted : x.core.Accounted channels g) {request : Request}
    {f : Failure} (failed : ((dispatch request).exec x).1 = .error f) :
    ∃ e, f = Failure.broker e := by
  rw [exec_dispatch] at failed
  split at failed
  · cases failed
    exact ⟨_, rfl⟩
  · rename_i found _
    exact ⟨_, failure_of_subscribe accounted (adapter?_of_get? found) failed⟩
  · rename_i found _
    rw [unsubscribe_ok accounted (adapter?_of_get? found)] at failed
    cases failed
  · rename_i m found _
    obtain ⟨receivers, succeeded⟩ := publish_ok found m
    rw [succeeded] at failed
    cases failed
  · rename_i found _
    obtain ⟨a, messaging⟩ := accounted.messaging found
    cases messaging
  · cases failed
    exact ⟨_, rfl⟩

end Switchboard.Exchange
