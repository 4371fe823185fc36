import Switchboard.Proofs.Delivery.Roll

/-!
# Who departs

Offering a message to the clients of a destination one after the other comes to what the roll says
of all of them at once (`offers_deliver`), and every other move changes the tables as it does the
roll (`accounted`).
-/

namespace Switchboard.Delivery

variable {d : Delivery} {r : Roll}

/-! ### A delivery -/

theorem accepts_receive (d : Delivery) (mailbox other : Nat) :
    (d.receive mailbox).2.accepts other = d.accepts other := by
  unfold receive
  split
  · rfl
  · rename_i box found
    split
    · exact accepts_insert (by rw [accepts, found]) other
    · rfl

theorem accepts_closeMailbox (d : Delivery) (mailbox other : Nat) :
    (d.closeMailbox mailbox).accepts other = true ↔ mailbox ≠ other ∧ d.accepts other = true := by
  simp only [accepts, closeMailbox, Std.ExtTreeMap.getElem?_modify,
    Std.LawfulEqCmp.compare_eq_iff_eq]
  by_cases same : mailbox = other
  · subst same
    cases d.mailboxes[mailbox]? <;> simp
  · simp [same]

theorem accepts_dropMailbox (d : Delivery) (mailbox other : Nat) :
    (d.dropMailbox mailbox).accepts other = true ↔ mailbox ≠ other ∧ d.accepts other = true := by
  simp only [accepts, dropMailbox, Std.ExtTreeMap.getElem?_erase,
    Std.LawfulEqCmp.compare_eq_iff_eq]
  by_cases same : mailbox = other <;> simp [same]

/-- What offering a message to `clients`, one after the other, comes to: the departures and what is
left. -/
structure Offers (d : Delivery) (r : Roll) (destination : String) (clients : List String)
    (left : List Departure × Delivery) : Prop where
  agrees : left.2.Agrees (r.strike (clients.filter r.isGone).toFinset)
  departures : left.1 = (clients.filter r.isGone).map (r.departure destination)
  delivered : left.2.deliveredCount = d.deliveredCount + (clients.filterMap r.takes).length
  dropped : left.2.droppedCount = d.droppedCount + left.1.length

theorem offers_offer (agrees : d.Agrees r) (destination : String) (m : Message) (client : String) :
    d.Offers r destination [client]
      ((d.offer destination m client).1.toList, (d.offer destination m client).2) := by
  have outcome := offered_offer d destination m client
  generalize d.offer destination m client = result at outcome
  cases outcome with
  | absent free =>
    rw [agrees.outbox] at free
    have stays : r.isGone client = false := by simp [Roll.isGone, free]
    have nowhere : r.takes client = none := by simp [Roll.takes, free]
    refine ⟨?_, ?_, ?_, ?_⟩ <;> simp [stays, nowhere, Roll.strike_empty, agrees]
  | @received mailbox pending outbox found =>
    have opens : d.Opens client mailbox := ⟨outbox, by rw [accepts, found]⟩
    have takes := agrees.opens_iff.mp opens
    have stays : r.isGone client = false := by
      rw [Roll.takes_eq_some] at takes
      simp [Roll.isGone, takes]
    refine ⟨?_, ?_, ?_, ?_⟩
    · simp only [stays, List.filter_cons, List.filter_nil, Bool.false_eq_true, if_false,
        List.toFinset_nil, Roll.strike_empty]
      refine agrees.congr rfl rfl rfl ?_ ?_ rfl
      · exact accepts_insert (by rw [accepts, found])
      · intro other known
        rcases Std.ExtTreeMap.mem_insert.mp known with same | old
        · cases Std.LawfulEqCmp.compare_eq_iff_eq.mp same
          exact Std.ExtTreeMap.mem_iff_isSome_getElem?.mpr (by rw [found]; rfl)
        · exact old
    · simp [stays]
    · simp [takes]
    · simp
  | @departed mailbox outbox shut =>
    have gone := agrees.isGone_of_shut outbox shut
    have nowhere : r.takes client = none := by
      obtain ⟨mailbox, shut, outbox⟩ := Roll.isGone_iff.mp gone
      simp [Roll.takes, outbox, shut]
    have left := agrees.disconnect client
    refine ⟨?_, ?_, ?_, ?_⟩
    · simp only [gone, List.filter_cons, List.filter_nil, if_true, List.toFinset_cons,
        List.toFinset_nil, insert_empty_eq]
      exact left.congr rfl rfl rfl (fun _ => rfl) (fun _ known => known) rfl
    · simp [gone, Roll.departure, agrees.disconnect_destinations]
    · simp [nowhere, Delivery.disconnect, takeRoutes]
    · simp [Delivery.disconnect, takeRoutes]

theorem offers_offerAll (destination : String) (m : Message) (clients : List String) :
    ∀ {d : Delivery} {r : Roll}, d.Agrees r → clients.Nodup →
      d.Offers r destination clients (offerAll destination m clients d) := by
  induction clients with
  | nil =>
    intro d r agrees distinct
    rw [offerAll]
    refine ⟨?_, rfl, rfl, rfl⟩
    simpa [Roll.strike_empty] using agrees
  | cons client rest ih =>
    intro d r agrees distinct
    obtain ⟨apart, distinct⟩ := List.nodup_cons.mp distinct
    have first := offers_offer agrees destination m client
    have others := ih first.agrees distinct
    have unfolded : offerAll destination m (client :: rest) d =
        ((d.offer destination m client).1.toList ++
          (offerAll destination m rest (d.offer destination m client).2).1,
        (offerAll destination m rest (d.offer destination m client).2).2) := rfl
    rw [unfolded]
    generalize d.offer destination m client = offered at first others
    generalize offerAll destination m rest offered.2 = left at others
    -- what the first client leaves behind is of no concern to the others
    have stays {other} (member : other ∈ rest) : other ∉ ([client].filter r.isGone).toFinset := by
      rw [List.mem_toFinset, List.mem_filter, List.mem_singleton]
      rintro ⟨rfl, -⟩
      exact apart member
    have gone : rest.filter (r.strike ([client].filter r.isGone).toFinset).isGone =
        rest.filter r.isGone :=
      List.filter_congr fun other member => Roll.isGone_strike (stays member)
    have taking : rest.filterMap (r.strike ([client].filter r.isGone).toFinset).takes =
        rest.filterMap r.takes :=
      List.filterMap_congr fun other member => Roll.takes_strike (stays member)
    have joined : (client :: rest).filter r.isGone =
        [client].filter r.isGone ++ rest.filter r.isGone := by
      rw [← List.filter_append]
      rfl
    refine ⟨?_, ?_, ?_, ?_⟩
    · have agreed := others.agrees
      rw [gone, Roll.strike_strike, ← List.toFinset_append, ← joined] at agreed
      exact agreed
    · have departed := others.departures
      rw [gone] at departed
      rw [joined, List.map_append, ← first.departures, departed]
      refine congrArg _ (List.map_congr_left ?_)
      intro other member
      exact Roll.departure_strike (stays (List.mem_of_mem_filter member)) destination
    · have delivered := others.delivered
      rw [taking, first.delivered] at delivered
      rw [delivered, Nat.add_assoc, ← List.length_append, ← List.filterMap_append]
      rfl
    · have dropped := others.dropped
      rw [first.dropped] at dropped
      rw [dropped, Nat.add_assoc, ← List.length_append]

theorem offers_deliver (agrees : d.Agrees r) (destination : String) (m : Message) :
    d.Offers r destination (r.clients destination).sort (d.deliver destination m) := by
  rw [agrees.sort_clients]
  refine offers_offerAll destination m (d.routesOf destination) agrees ?_
  exact (routesOf_ascending d destination).imp ne_of_lt

/-! ### A move -/

/-- After a move the roll still agrees, and what the move counts and tells is what the roll says. -/
structure Accounted (d : Delivery) (r : Roll) (move : Move) : Prop where
  agrees : (d.step move).Agrees (r.next move)
  delivered : (d.step move).deliveredCount = d.deliveredCount + (r.placements move).length
  dropped : (d.step move).droppedCount = d.droppedCount + (r.departures move).length
  told : d.told move = r.told move

theorem told_nothing {move : Move} (none : r.departures move = []) : r.told move = [] := by
  unfold Roll.told
  rw [none]
  cases r.watcher <;> rfl

theorem receive_keeps (d : Delivery) (mailbox : Nat) :
    (d.receive mailbox).2.outboxes = d.outboxes ∧ (d.receive mailbox).2.routes = d.routes ∧
      (d.receive mailbox).2.nextMailbox = d.nextMailbox ∧
      (d.receive mailbox).2.watcher = d.watcher ∧
      (d.receive mailbox).2.droppedCount = d.droppedCount ∧
      ∀ other ∈ (d.receive mailbox).2.mailboxes, other ∈ d.mailboxes := by
  unfold receive
  split
  · exact ⟨rfl, rfl, rfl, rfl, rfl, fun _ known => known⟩
  · rename_i box found
    split
    · refine ⟨rfl, rfl, rfl, rfl, rfl, ?_⟩
      intro other known
      rcases Std.ExtTreeMap.mem_insert.mp known with same | old
      · cases Std.LawfulEqCmp.compare_eq_iff_eq.mp same
        exact Std.ExtTreeMap.mem_iff_isSome_getElem?.mpr (by rw [found]; rfl)
      · exact old
    · exact ⟨rfl, rfl, rfl, rfl, rfl, fun _ known => known⟩

theorem accounted (agrees : d.Agrees r) (move : Move) : d.Accounted r move := by
  cases move with
  | connect client => exact ⟨agrees.connect client, rfl, rfl, (told_nothing rfl).symm⟩
  | disconnect client => exact ⟨agrees.disconnect client, rfl, rfl, (told_nothing rfl).symm⟩
  | addRoute id client => exact ⟨agrees.addRoute id client, rfl, rfl, (told_nothing rfl).symm⟩
  | removeRoute id client => exact ⟨agrees.removeRoute id client, rfl, rfl, (told_nothing rfl).symm⟩
  | deliver destination m =>
    have all := offers_deliver agrees destination m
    refine ⟨?_, ?_, ?_, ?_⟩
    · have gone : ((r.clients destination).sort.filter r.isGone).toFinset =
          (r.clients destination).filter fun client => r.isGone client := by
        ext client
        simp
      have left := all.agrees
      rw [gone] at left
      exact left
    · have placed : (r.placements (.deliver destination m)).length =
          ((r.clients destination).sort.filterMap r.takes).length := by
        rw [Roll.placements, ← List.map_filterMap, List.length_map]
      rw [placed]
      exact all.delivered
    · have dropped := all.dropped
      rw [all.departures] at dropped
      exact dropped
    · rw [told, Roll.told, agrees.watcher, all.departures]
      rfl
  | receive mailbox =>
    obtain ⟨outboxes, routes, nextMailbox, watcher, dropped, mailboxes⟩ := receive_keeps d mailbox
    exact ⟨agrees.congr outboxes routes nextMailbox (accepts_receive d mailbox) mailboxes watcher,
      (quiet_receive d mailbox).delivered, dropped, (told_nothing rfl).symm⟩
  | closeMailbox mailbox =>
    refine ⟨?_, rfl, rfl, (told_nothing rfl).symm⟩
    refine agrees.shutBox rfl rfl rfl (accepts_closeMailbox d mailbox) ?_ rfl
    intro other known
    exact Std.ExtTreeMap.mem_modify.mp known
  | dropMailbox mailbox =>
    refine ⟨?_, rfl, rfl, (told_nothing rfl).symm⟩
    refine agrees.shutBox rfl rfl rfl (accepts_dropMailbox d mailbox) ?_ rfl
    intro other known
    exact Std.ExtTreeMap.mem_of_mem_erase known
  | watch watcher =>
    exact ⟨⟨agrees.nextMailbox, agrees.outbox, agrees.routed, agrees.accepts, agrees.shut,
      agrees.known, agrees.owner, rfl⟩, rfl, rfl, (told_nothing rfl).symm⟩

end Switchboard.Delivery
