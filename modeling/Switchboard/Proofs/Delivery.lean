import Switchboard.Delivery

/-!
# What mailboxes hold

Messages come into a mailbox through a delivery alone. Everything else that is done to the outboxes,
the routes and the mailboxes puts nothing into any of them (`Quiet`).
-/

namespace Switchboard.Delivery

/-- The messages that wait in a mailbox, oldest first. A mailbox that is not there holds none. -/
def pending (d : Delivery) (mailbox : Nat) : List Message :=
  (d.mailboxes[mailbox]?.map Mailbox.pending).getD []

/-- Nothing was put into a mailbox between `d` and `d'`. Messages may have been read or thrown
away. -/
structure Quiet (d d' : Delivery) : Prop where
  delivered : d'.deliveredCount = d.deliveredCount
  pending (mailbox : Nat) : d'.pending mailbox <:+ d.pending mailbox

/-- No two clients are fed through the same mailbox, and none through one that is yet to come. -/
structure Separate (d : Delivery) : Prop where
  injective {client other : String} {mailbox : Nat} (first : d.outboxes[client]? = some mailbox)
    (second : d.outboxes[other]? = some mailbox) : client = other
  lt {client : String} {mailbox : Nat} (outbox : d.outboxes[client]? = some mailbox) :
    mailbox < d.nextMailbox

/-- The messages for `client` go into `mailbox`, which still takes them. -/
structure Opens (d : Delivery) (client : String) (mailbox : Nat) : Prop where
  outbox : d.outboxes[client]? = some mailbox
  accepts : d.accepts mailbox = true

/-- From `d` to `d'`, those of `clients` that take messages were handed `m`, as often as they are
listed, and nobody was handed anything else. -/
structure Hands (d : Delivery) (m : Message) (clients : List String) (d' : Delivery) : Prop where
  taken {client mailbox} (opens : d.Opens client mailbox) : d'.Opens client mailbox ∧
    d'.pending mailbox = d.pending mailbox ++ List.replicate (clients.count client) m
  spared {mailbox} (shut : ∀ client, ¬ d.Opens client mailbox) :
    (∀ client, ¬ d'.Opens client mailbox) ∧ d'.pending mailbox = d.pending mailbox

/-- What offering a message of `destination` to a client comes to. -/
inductive Offered (d : Delivery) (destination : String) (m : Message) (client : String) :
    Option Departure × Delivery → Prop
  | absent (free : d.outboxes[client]? = none) : Offered d destination m client (none, d)
  | received {mailbox pending} (outbox : d.outboxes[client]? = some mailbox)
      (found : d.mailboxes[mailbox]? = some { pending, accepting := true }) :
      Offered d destination m client (none, { d with
        mailboxes := d.mailboxes.insert mailbox { pending := pending ++ [m] }
        deliveredCount := d.deliveredCount + 1 })
  | departed {mailbox} (outbox : d.outboxes[client]? = some mailbox)
      (shut : d.accepts mailbox = false) :
      Offered d destination m client
        (some { client, noticed := destination, destinations := (d.disconnect client).1 },
          { (d.disconnect client).2 with droppedCount := d.droppedCount + 1 })

variable {d d' d'' : Delivery} {client id : String} {mailbox other : Nat} {m : Message}

theorem pending_congr (same : d'.mailboxes[mailbox]? = d.mailboxes[mailbox]?) :
    d'.pending mailbox = d.pending mailbox := by
  rw [pending, same, pending]

theorem accepts_congr (same : d'.mailboxes[mailbox]? = d.mailboxes[mailbox]?) :
    d'.accepts mailbox = d.accepts mailbox := by
  rw [accepts, same, accepts]

/-- What is put into a mailbox does not matter for whether it takes more. -/
theorem accepts_insert {box : Mailbox} (same : d.accepts mailbox = box.accepting) (other : Nat) :
    { d with mailboxes := d.mailboxes.insert mailbox box }.accepts other = d.accepts other := by
  by_cases here : mailbox = other
  · subst here
    rw [same, accepts, Std.ExtTreeMap.getElem?_insert_self]
  · refine accepts_congr ?_
    rw [Std.ExtTreeMap.getElem?_insert, if_neg (mt Std.LawfulEqCmp.compare_eq_iff_eq.mp here)]

theorem Quiet.refl (d : Delivery) : d.Quiet d := ⟨rfl, fun _ => List.suffix_rfl⟩

theorem Quiet.trans (first : d.Quiet d') (second : d'.Quiet d'') : d.Quiet d'' :=
  ⟨second.delivered.trans first.delivered,
    fun mailbox => (second.pending mailbox).trans (first.pending mailbox)⟩

theorem Quiet.of_same (delivered : d'.deliveredCount = d.deliveredCount)
    (mailboxes : d'.mailboxes = d.mailboxes) : d.Quiet d' := by
  refine ⟨delivered, ?_⟩
  intro mailbox
  have same : d'.pending mailbox = d.pending mailbox := pending_congr (by rw [mailboxes])
  exact same ▸ List.suffix_rfl

theorem quiet_connect (d : Delivery) (client : String) : d.Quiet (d.connect client).2 := by
  refine ⟨rfl, ?_⟩
  intro mailbox
  simp only [Delivery.pending, connect, Std.ExtTreeMap.getElem?_insert]
  split
  · exact List.nil_suffix
  · exact List.suffix_rfl

theorem quiet_receive (d : Delivery) (mailbox : Nat) : d.Quiet (d.receive mailbox).2 := by
  unfold receive
  split
  · exact Quiet.refl d
  · rename_i box found
    split
    · rename_i m rest waits
      refine ⟨rfl, ?_⟩
      intro other
      simp only [Delivery.pending, Std.ExtTreeMap.getElem?_insert,
        Std.LawfulEqCmp.compare_eq_iff_eq]
      split
      · rename_i same
        rw [← same, found, Option.map_some, Option.map_some, Option.getD_some, Option.getD_some,
          waits]
        exact List.suffix_cons m rest
      · exact List.suffix_rfl
    · exact Quiet.refl d

theorem quiet_closeMailbox (d : Delivery) (mailbox : Nat) : d.Quiet (d.closeMailbox mailbox) := by
  refine ⟨rfl, ?_⟩
  intro other
  simp only [Delivery.pending, closeMailbox, Std.ExtTreeMap.getElem?_modify,
    Std.LawfulEqCmp.compare_eq_iff_eq]
  split
  · rename_i same
    rw [same, Option.map_map]
    exact List.suffix_rfl
  · exact List.suffix_rfl

theorem quiet_dropMailbox (d : Delivery) (mailbox : Nat) : d.Quiet (d.dropMailbox mailbox) := by
  refine ⟨rfl, ?_⟩
  intro other
  simp only [Delivery.pending, dropMailbox, Std.ExtTreeMap.getElem?_erase]
  split
  · exact List.nil_suffix
  · exact List.suffix_rfl

/-! ### Routes -/

theorem routes_addRoute (d : Delivery) (id client other : String) :
    (d.addRoute id client).2.routes[other]? =
      if id = other then some ((d.routes[id]?.getD ∅).insert client) else d.routes[other]? := by
  simp only [addRoute, Std.ExtTreeMap.getElem?_insert, Std.LawfulEqCmp.compare_eq_iff_eq]

theorem routes_removeRoute (d : Delivery) (id client other : String) :
    (d.removeRoute id client).2.routes[other]? =
      if id = other then d.routes[other]?.bind (without client) else d.routes[other]? := by
  unfold removeRoute
  dsimp only
  split
  · rename_i free
    split
    · rename_i same
      rw [← same, free]
      rfl
    · rfl
  · rename_i clients found
    split
    · rename_i gone
      rw [Std.ExtTreeMap.getElem?_erase]
      simp only [Std.LawfulEqCmp.compare_eq_iff_eq]
      split
      · rename_i same
        rw [← same, found, Option.bind_some, gone]
      · rfl
    · rename_i left kept
      rw [Std.ExtTreeMap.getElem?_insert]
      simp only [Std.LawfulEqCmp.compare_eq_iff_eq]
      split
      · rename_i same
        rw [← same, found, Option.bind_some, kept]
      · rfl

theorem routes_disconnect (d : Delivery) (client other : String) :
    (d.disconnect client).2.routes[other]? = d.routes[other]?.bind (without client) := by
  simp only [disconnect, takeRoutes, Std.ExtTreeMap.getElem?_filterMap']

theorem mem_disconnect (d : Delivery) (client other : String) :
    other ∈ (d.disconnect client).1 ↔ ∃ clients, d.routes[other]? = some clients ∧
      client ∈ clients := by
  simp only [disconnect, takeRoutes, List.mem_map, List.mem_filter]
  constructor
  · rintro ⟨⟨id, clients⟩, ⟨listed, contains⟩, rfl⟩
    exact ⟨clients, Std.ExtTreeMap.mem_toList_iff_getElem?_eq_some.mp listed, contains⟩
  · rintro ⟨clients, found, contains⟩
    exact ⟨(other, clients),
      ⟨Std.ExtTreeMap.mem_toList_iff_getElem?_eq_some.mpr found, contains⟩, rfl⟩

theorem mem_without {clients : Std.ExtTreeSet String} :
    (∃ left, without client clients = some left ∧ id ∈ left) ↔ client ≠ id ∧ id ∈ clients := by
  have left : client ≠ id ∧ id ∈ clients ↔ id ∈ clients.erase client := by simp
  rw [left]
  unfold without
  dsimp only
  split
  · rename_i empty
    rw [Std.ExtTreeSet.isEmpty_iff.mp empty]
    simp
  · simp

theorem isRouted_iff : d.isRouted id client = true ↔
    ∃ clients, d.routes[id]? = some clients ∧ client ∈ clients := by
  unfold isRouted
  cases d.routes[id]? with
  | none => simp
  | some clients => simp [Std.ExtTreeSet.contains_iff_mem]

theorem isRouted_addRoute (d : Delivery) (id client other who : String) :
    (d.addRoute id client).2.isRouted other who = true ↔
      (id = other ∧ client = who) ∨ d.isRouted other who = true := by
  rw [isRouted_iff, isRouted_iff, routes_addRoute]
  by_cases same : id = other
  · subst same
    cases d.routes[id]? <;> simp [Std.ExtTreeSet.mem_insert]
  · simp [same]

theorem isRouted_removeRoute (d : Delivery) (id client other who : String) :
    (d.removeRoute id client).2.isRouted other who = true ↔
      ¬ (id = other ∧ client = who) ∧ d.isRouted other who = true := by
  rw [isRouted_iff, isRouted_iff, routes_removeRoute]
  by_cases same : id = other
  · subst same
    cases d.routes[id]? with
    | none => simp
    | some clients => simpa using mem_without
  · simp [same]

theorem isRouted_disconnect (d : Delivery) (client other who : String) :
    (d.disconnect client).2.isRouted other who = true ↔
      client ≠ who ∧ d.isRouted other who = true := by
  rw [isRouted_iff, isRouted_iff, routes_disconnect]
  cases d.routes[other]? with
  | none => simp
  | some clients => simpa using mem_without

theorem mem_routesOf : client ∈ d.routesOf id ↔ d.isRouted id client = true := by
  rw [isRouted_iff, routesOf]
  cases d.routes[id]? with
  | none => simp
  | some clients => simp

theorem routesOf_ascending (d : Delivery) (id : String) : (d.routesOf id).Pairwise (· < ·) := by
  unfold routesOf
  split
  · exact List.Pairwise.nil
  · refine Std.ExtTreeSet.ordered_toList.imp ?_
    intro a b before
    exact compareOfLessAndEq_eq_lt.mp before

theorem disconnect_ascending (d : Delivery) (client : String) :
    (d.disconnect client).1.Pairwise (· < ·) := by
  refine List.pairwise_map.mpr (List.Pairwise.filter _ ?_)
  refine Std.ExtTreeMap.ordered_keys_toList.imp ?_
  intro a b before
  exact compareOfLessAndEq_eq_lt.mp before

/-! ### Offers -/

theorem offered_offer (d : Delivery) (destination : String) (m : Message) (client : String) :
    Offered d destination m client (d.offer destination m client) := by
  unfold offer
  split
  · rename_i free
    exact .absent free
  · rename_i mailbox outbox
    split
    · rename_i pending found
      exact .received outbox found
    · rename_i other
      refine .departed outbox ?_
      unfold accepts
      split
      · rfl
      · rename_i box found
        obtain ⟨pending, accepting⟩ := box
        cases accepting with
        | true => exact absurd found (other pending)
        | false => rfl

/-! ### Who receives a message -/

theorem Separate.fewer (separate : d.Separate)
    (outboxes : ∀ {client : String} {mailbox}, d'.outboxes[client]? = some mailbox →
      d.outboxes[client]? = some mailbox)
    (nextMailbox : d.nextMailbox ≤ d'.nextMailbox) : d'.Separate :=
  ⟨fun first second => separate.injective (outboxes first) (outboxes second),
    fun outbox => Nat.lt_of_lt_of_le (separate.lt (outboxes outbox)) nextMailbox⟩

theorem Separate.connect (separate : d.Separate) (client : String) :
    (d.connect client).2.Separate := by
  have own {other : String} {mailbox}
      (outbox : (d.connect client).2.outboxes[other]? = some mailbox) :
      (client = other ∧ mailbox = d.nextMailbox) ∨ d.outboxes[other]? = some mailbox := by
    simp only [Delivery.connect, Std.ExtTreeMap.getElem?_insert, Std.LawfulEqCmp.compare_eq_iff_eq]
      at outbox
    split at outbox
    · rename_i same
      cases outbox
      exact Or.inl ⟨same, rfl⟩
    · exact Or.inr outbox
  refine ⟨?_, ?_⟩
  · intro first second mailbox outbox outbox'
    rcases own outbox with ⟨rfl, rfl⟩ | old
    · rcases own outbox' with ⟨same, -⟩ | old'
      · exact same
      · exact absurd (separate.lt old') (Nat.lt_irrefl _)
    · rcases own outbox' with ⟨-, rfl⟩ | old'
      · exact absurd (separate.lt old) (Nat.lt_irrefl _)
      · exact separate.injective old old'
  · intro other mailbox outbox
    rcases own outbox with ⟨-, rfl⟩ | old
    · exact Nat.lt_succ_self _
    · exact Nat.lt_succ_of_lt (separate.lt old)

theorem outbox_of_disconnect (gone : (d.disconnect client).2.outboxes[id]? = some mailbox) :
    id ≠ client ∧ d.outboxes[id]? = some mailbox := by
  simp only [disconnect, takeRoutes, Std.ExtTreeMap.getElem?_erase,
    Std.LawfulEqCmp.compare_eq_iff_eq] at gone
  split at gone
  · cases gone
  · rename_i other
    exact ⟨Ne.symm other, gone⟩

theorem Separate.disconnect (separate : d.Separate) (client : String) :
    (d.disconnect client).2.Separate :=
  separate.fewer (fun gone => (outbox_of_disconnect gone).2) (Nat.le_refl _)

theorem Separate.offer (separate : d.Separate) (destination : String) (m : Message)
    (client : String) : (d.offer destination m client).2.Separate := by
  have outcome := offered_offer d destination m client
  generalize d.offer destination m client = result at outcome
  cases outcome with
  | absent free => exact separate
  | received outbox found => exact separate.fewer id (Nat.le_refl _)
  | departed outbox shut =>
    exact (separate.disconnect client).fewer id (Nat.le_refl _)

theorem Hands.trans {front rest : List String} (first : d.Hands m front d')
    (second : d'.Hands m rest d'') : d.Hands m (front ++ rest) d'' where
  taken opens := by
    obtain ⟨opens', gained⟩ := first.taken opens
    obtain ⟨opens'', gained'⟩ := second.taken opens'
    refine ⟨opens'', ?_⟩
    rw [gained', gained, List.append_assoc, List.replicate_append_replicate, List.count_append]
  spared shut := by
    obtain ⟨shut', kept⟩ := first.spared shut
    obtain ⟨shut'', kept'⟩ := second.spared shut'
    exact ⟨shut'', kept'.trans kept⟩

theorem hands_offer (separate : d.Separate) (destination : String) (m : Message) (client : String) :
    d.Hands m [client] (d.offer destination m client).2 := by
  have uncounted {other} (differs : other ≠ client) : [client].count other = 0 := by
    rw [List.count_singleton, if_neg]
    exact fun same => differs (beq_iff_eq.mp same).symm
  have outcome := offered_offer d destination m client
  generalize d.offer destination m client = result at outcome
  cases outcome with
  | absent free =>
    refine ⟨?_, fun shut => ⟨shut, rfl⟩⟩
    intro other mailbox opens
    have differs : other ≠ client := by
      rintro rfl
      cases free.symm.trans opens.outbox
    rw [uncounted differs, List.replicate_zero, List.append_nil]
    exact ⟨opens, rfl⟩
  | @received mailbox pending outbox found =>
    have others {other} (differs : mailbox ≠ other) :
        (d.mailboxes.insert mailbox { pending := pending ++ [m] })[other]? =
          d.mailboxes[other]? := by
      rw [Std.ExtTreeMap.getElem?_insert, if_neg (mt Std.LawfulEqCmp.compare_eq_iff_eq.mp differs)]
    have takes : d.Opens client mailbox := ⟨outbox, by rw [accepts, found]⟩
    refine ⟨?_, ?_⟩
    · intro other mailbox' opens
      by_cases same : other = client
      · subst same
        cases opens.outbox.symm.trans outbox
        refine ⟨⟨outbox, ?_⟩, ?_⟩
        · simp [accepts]
        · simp [Delivery.pending, found]
      · have differs : mailbox ≠ mailbox' := by
          rintro rfl
          exact same (separate.injective opens.outbox outbox)
        rw [uncounted same, List.replicate_zero, List.append_nil]
        exact ⟨⟨opens.outbox, (accepts_congr (others differs)).trans opens.accepts⟩,
          pending_congr (others differs)⟩
    · intro mailbox' shut
      have differs : mailbox ≠ mailbox' := by
        rintro rfl
        exact shut client takes
      refine ⟨?_, pending_congr (others differs)⟩
      intro other opens
      exact shut other ⟨opens.outbox, (accepts_congr (others differs)).symm.trans opens.accepts⟩
  | @departed mailbox outbox closed =>
    refine ⟨?_, ?_⟩
    · intro other mailbox' opens
      have differs : other ≠ client := by
        rintro rfl
        cases opens.outbox.symm.trans outbox
        cases opens.accepts.symm.trans closed
      rw [uncounted differs, List.replicate_zero, List.append_nil]
      refine ⟨⟨?_, opens.accepts⟩, rfl⟩
      simp only [disconnect, takeRoutes, Std.ExtTreeMap.getElem?_erase,
        Std.LawfulEqCmp.compare_eq_iff_eq]
      rw [if_neg (Ne.symm differs)]
      exact opens.outbox
    · intro mailbox' shut
      refine ⟨?_, rfl⟩
      intro other opens
      exact shut other ⟨(outbox_of_disconnect opens.outbox).2, opens.accepts⟩

theorem hands_offerAll (destination : String) (m : Message) (clients : List String) :
    ∀ {d : Delivery}, d.Separate → d.Hands m clients (offerAll destination m clients d).2 := by
  induction clients with
  | nil =>
    intro d separate
    refine ⟨?_, fun shut => ⟨shut, rfl⟩⟩
    intro client mailbox opens
    exact ⟨opens, (List.append_nil _).symm⟩
  | cons client rest ih =>
    intro d separate
    exact (hands_offer separate destination m client).trans
      (ih (separate.offer destination m client))

theorem hands_deliver (separate : d.Separate) (destination : String) (m : Message) :
    d.Hands m (d.routesOf destination) (d.deliver destination m).2 :=
  hands_offerAll destination m (d.routesOf destination) separate

end Switchboard.Delivery
