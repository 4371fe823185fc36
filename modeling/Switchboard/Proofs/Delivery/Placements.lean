import Switchboard.Proofs.Delivery.Departures

/-!
# What a mailbox is fed

Whatever is put into a mailbox is read from it, thrown away with it, or still there. Over every run
it is what the roll places there, and each departure is told as the roll has it (`run_delivers`).
-/

namespace Switchboard.Delivery

variable {d : Delivery} {r : Roll} {client : String}

/-- What is put into one of the mailboxes. -/
def into (mailbox : Nat) (placed : List (Nat × Message)) : List Message :=
  (placed.filter fun placement => placement.1 = mailbox).map Prod.snd

theorem into_append (mailbox : Nat) (first second : List (Nat × Message)) :
    into mailbox (first ++ second) = into mailbox first ++ into mailbox second := by
  rw [into, List.filter_append, List.map_append]
  rfl

/-- Each client with the mailbox brings a message to it. -/
theorem into_filterMap (takes : String → Option Nat) (m : Message) (mailbox : Nat)
    (clients : List String) :
    into mailbox (clients.filterMap fun client => (takes client).map fun n => (n, m)) =
      List.replicate (clients.countP fun client => takes client = some mailbox) m := by
  induction clients with
  | nil => rfl
  | cons client rest ih =>
    rw [List.filterMap_cons, List.countP_cons]
    cases takes client with
    | none => simpa using ih
    | some n =>
      by_cases same : n = mailbox
      · simp [into, same, List.replicate_succ, ← ih]
      · simpa [into, same] using ih

theorem into_placements {mailbox : Nat} (opens : r.takes client = some mailbox)
    (only : ∀ other, r.takes other = some mailbox → other = client) (destination : String)
    (m : Message) :
    into mailbox (r.placements (.deliver destination m)) =
      List.replicate ((r.clients destination).sort.count client) m := by
  rw [Roll.placements, into_filterMap]
  congr 1
  refine List.countP_congr ?_
  intro other _
  simp only [decide_eq_true_eq, beq_iff_eq]
  exact ⟨only other, fun same => same ▸ opens⟩

theorem into_placements_of_shut {mailbox : Nat} (shut : ∀ client, r.takes client ≠ some mailbox)
    (destination : String) (m : Message) :
    into mailbox (r.placements (.deliver destination m)) = [] := by
  rw [Roll.placements, into_filterMap]
  simp [shut]

theorem into_placements_eq_handed {mailbox : Nat}
    (only : ∀ other, r.takes other = some mailbox → other = client) (move : Move) :
    into mailbox (r.placements move) = r.handed client mailbox move := by
  cases move with
  | deliver destination m =>
    rw [Roll.handed]
    by_cases takes : r.takes client = some mailbox
    · rw [into_placements takes only, List.Nodup.count (Finset.sort_nodup _ _)]
      simp only [takes, true_and, Finset.mem_sort, Roll.mem_clients]
      split <;> rfl
    · rw [if_neg (fun both => takes both.1)]
      refine into_placements_of_shut ?_ destination m
      intro other taking
      exact takes (only other taking ▸ taking)
  | _ => rfl

theorem Agrees.only (agrees : d.Agrees r) {mailbox : Nat}
    (opened : r.opened[mailbox]? = some client) {other : String}
    (takes : r.takes other = some mailbox) : other = client := by
  have owner := agrees.owner (Roll.takes_eq_some.mp takes).1
  exact Option.some.inj (owner.symm.trans opened)

theorem pending_of_unknown {mailbox : Nat} (unknown : mailbox ∉ d.mailboxes) :
    d.pending mailbox = [] := by
  rw [pending, Std.ExtTreeMap.getElem?_eq_none unknown]
  rfl

theorem leaving_receive (d : Delivery) (mailbox other : Nat) :
    d.leaving mailbox (.receive other) ++ (d.receive other).2.pending mailbox =
      d.pending mailbox := by
  unfold leaving receive
  dsimp only
  cases found : d.mailboxes[other]? with
  | none => rfl
  | some box =>
    obtain ⟨waiting, accepting⟩ := box
    cases waiting with
    | nil =>
      dsimp only
      cases accepting && d.isFed other <;> rfl
    | cons m rest =>
      simp only [pending, Std.ExtTreeMap.getElem?_insert, Std.LawfulEqCmp.compare_eq_iff_eq]
      split
      · rename_i same
        rw [← same, found]
        rfl
      · rfl

/-- What a mailbox held and what a move brings is what leaves it and what it holds then. -/
theorem conserved (agrees : d.Agrees r) (mailbox : Nat) (move : Move) :
    d.leaving mailbox move ++ (d.step move).pending mailbox =
      d.pending mailbox ++ into mailbox (r.placements move) := by
  have unmoved (quiet : (d.step move).pending mailbox = d.pending mailbox) :
      [] ++ (d.step move).pending mailbox = d.pending mailbox ++ [] := by
    rw [quiet, List.nil_append, List.append_nil]
  cases move with
  | connect client =>
    refine unmoved ?_
    simp only [step, connect, pending, Std.ExtTreeMap.getElem?_insert,
      Std.LawfulEqCmp.compare_eq_iff_eq]
    split
    · rename_i new
      have unknown : mailbox ∉ d.mailboxes := by
        intro known
        have short := agrees.known known
        rw [← agrees.nextMailbox, new] at short
        exact Nat.lt_irrefl _ short
      exact (pending_of_unknown unknown).symm
    · rfl
  | disconnect client => exact unmoved rfl
  | addRoute id client => exact unmoved rfl
  | removeRoute id client => exact unmoved rfl
  | deliver destination m =>
    have hands := hands_deliver agrees.separate destination m
    by_cases opens : ∃ client, r.takes client = some mailbox
    · obtain ⟨client, opens⟩ := opens
      have owner := agrees.owner (Roll.takes_eq_some.mp opens).1
      rw [into_placements opens (fun other => agrees.only owner), agrees.sort_clients]
      exact (hands.taken (agrees.opens_iff.mpr opens)).2
    · have shut client : r.takes client ≠ some mailbox := fun takes => opens ⟨client, takes⟩
      rw [into_placements_of_shut shut]
      refine unmoved (hands.spared ?_).2
      intro client takes
      exact shut client (agrees.opens_iff.mp takes)
  | receive other =>
    rw [show r.placements (.receive other) = [] from rfl, into, List.filter_nil, List.map_nil,
      List.append_nil]
    exact leaving_receive d mailbox other
  | closeMailbox other =>
    refine unmoved ?_
    simp only [step, closeMailbox, pending, Std.ExtTreeMap.getElem?_modify,
      Std.LawfulEqCmp.compare_eq_iff_eq]
    split
    · rename_i same
      rw [same, Option.map_map]
      rfl
    · rfl
  | dropMailbox other =>
    rw [show r.placements (.dropMailbox other) = [] from rfl, into, List.filter_nil, List.map_nil]
    simp only [leaving, step, dropMailbox, pending, Std.ExtTreeMap.getElem?_erase,
      Std.LawfulEqCmp.compare_eq_iff_eq]
    split
    · rfl
    · exact (List.append_nil _).symm
  | watch watcher => exact unmoved rfl

/-! ### Runs -/

theorem opened_next (r : Roll) (move : Move) : r.opened <+: (r.next move).opened := by
  unfold Roll.next
  cases move with
  | connect client => exact List.prefix_append _ _
  | closeMailbox mailbox | dropMailbox mailbox =>
    dsimp only [Roll.shutBox]
    split <;> exact List.prefix_rfl
  | _ => exact List.prefix_rfl

theorem opened_run (moves : List Move) :
    ∀ r : Roll, r.opened <+: (moves.foldl Roll.next r).opened := by
  induction moves with
  | nil =>
    intro r
    exact List.prefix_rfl
  | cons move rest ih =>
    intro r
    exact (opened_next r move).trans (ih (r.next move))

/-- What `d` did during `moves`, and where it is then, is what the roll says. -/
structure Follows (moves : List Move) (d : Delivery) (r : Roll) : Prop where
  agrees : (moves.foldl step d).Agrees (moves.foldl Roll.next r)
  delivered : (moves.foldl step d).deliveredCount =
    d.deliveredCount + (record Roll.next Roll.placements r moves).length
  dropped : (moves.foldl step d).droppedCount =
    d.droppedCount + (record Roll.next Roll.departures r moves).length
  told : record step told d moves = record Roll.next Roll.told r moves
  pending (mailbox) :
    record step (leaving mailbox) d moves ++ (moves.foldl step d).pending mailbox =
      d.pending mailbox ++ into mailbox (record Roll.next Roll.placements r moves)
  owned {mailbox client} (owner : (moves.foldl Roll.next r).opened[mailbox]? = some client) :
    into mailbox (record Roll.next Roll.placements r moves) =
      record Roll.next (Roll.handed client mailbox) r moves

theorem follows (moves : List Move) :
    ∀ {d : Delivery} {r : Roll}, d.Agrees r → Follows moves d r := by
  induction moves with
  | nil =>
    intro d r agrees
    exact ⟨agrees, rfl, rfl, rfl, fun mailbox => (List.append_nil _).symm, fun owner => rfl⟩
  | cons move rest ih =>
    intro d r agrees
    have now := accounted agrees move
    have later := ih now.agrees
    refine ⟨later.agrees, ?_, ?_, ?_, ?_, ?_⟩
    · rw [record, List.length_append, ← Nat.add_assoc, ← now.delivered]
      exact later.delivered
    · rw [record, List.length_append, ← Nat.add_assoc, ← now.dropped]
      exact later.dropped
    · rw [record, record, now.told, later.told]
    · intro mailbox
      rw [record, record, List.append_assoc, into_append, ← List.append_assoc (d.pending mailbox),
        ← conserved agrees mailbox move, List.append_assoc, ← later.pending mailbox]
      rfl
    · intro mailbox client owner
      have only other (takes : r.takes other = some mailbox) : other = client := by
        obtain ⟨added, all⟩ := opened_run (move :: rest) r
        have opened := agrees.owner (Roll.takes_eq_some.mp takes).1
        have short := (List.getElem?_eq_some_iff.mp opened).1
        rw [← all, List.getElem?_append_left short, opened] at owner
        exact Option.some.inj owner
      rw [record, record, into_append, into_placements_eq_handed only, later.owned owner]

theorem agrees_empty : Agrees {} {} where
  nextMailbox := rfl
  outbox _ := Std.ExtTreeMap.getElem?_empty
  routed id client := by simp [isRouted]
  accepts mailbox := by simp [accepts]
  shut shut := absurd shut (Finset.notMem_empty _)
  known known := absurd known Std.ExtTreeMap.not_mem_empty
  owner feeds := by cases feeds
  watcher := rfl

/-- Over every run, a mailbox was fed exactly the messages of those deliveries during which it was
the current outbox of its client, not shut, and the client was routed to the destination: they were
read, thrown away with the mailbox, or still wait, in order and once each. The count of what was
delivered is that of all placements. Each delivery that met a client whose mailbox was shut is
counted as dropped and told the watcher once, with all the destinations of the client in ascending
order, and leaves the client without outbox and routes. -/
theorem run_delivers (moves : List Move) :
    let d := moves.foldl step {}
    let r := moves.foldl Roll.next {}
    let placed := record Roll.next Roll.placements {} moves
    (∀ mailbox, record step (leaving mailbox) {} moves ++ d.pending mailbox = into mailbox placed) ∧
      (∀ mailbox client, r.opened[mailbox]? = some client →
        into mailbox placed = record Roll.next (Roll.handed client mailbox) {} moves) ∧
      d.deliveredCount = placed.length ∧
      d.droppedCount = (record Roll.next Roll.departures {} moves).length ∧
      record step told {} moves = record Roll.next Roll.told {} moves ∧
      (∀ client, (d.connect client).1 = r.opened.length ∧
        d.outboxes[client]? = r.outbox client ∧
        (d.disconnect client).1 = (r.destinations client).sort) ∧
      ∀ destination client,
        d.isRouted destination client = true ↔ (destination, client) ∈ r.routes := by
  intro d r placed
  have all := follows moves agrees_empty
  have nothing (mailbox) : pending {} mailbox = [] :=
    pending_of_unknown Std.ExtTreeMap.not_mem_empty
  refine ⟨?_, fun _ _ owner => all.owned owner, ?_, ?_, all.told, ?_, all.agrees.routed⟩
  · intro mailbox
    have kept := all.pending mailbox
    rw [nothing, List.nil_append] at kept
    exact kept
  · exact all.delivered.trans (Nat.zero_add _)
  · exact all.dropped.trans (Nat.zero_add _)
  · intro client
    exact ⟨all.agrees.nextMailbox, all.agrees.outbox client,
      all.agrees.disconnect_destinations client⟩

/-- A client that connects again is fed through its new mailbox, and departs once it drops that. -/
theorem run_delivers_reconnected :
    let m : Message := { id := ⟨7⟩, destination := "quotes", body := [1], timestamp := 0 }
    let moves : List Move := [.watch "broker", .connect "A", .addRoute "quotes" "A",
      .addRoute "news" "A", .addRoute "quotes" "B", .deliver "quotes" m, .connect "A",
      .deliver "quotes" m, .receive 0, .dropMailbox 1, .deliver "quotes" m, .deliver "quotes" m]
    record Roll.next (Roll.handed "A" 0) {} moves = [m] ∧
      record Roll.next (Roll.handed "A" 1) {} moves = [m] ∧
      record Roll.next Roll.told {} moves = [("broker", ⟨"A", "quotes", ["news", "quotes"]⟩)] ∧
      (record Roll.next Roll.departures {} moves).length = 1 := by
  intro m moves
  obtain ⟨kept, owned, delivered, dropped, told, tables, routed⟩ := run_delivers moves
  refine ⟨?_, ?_, ?_, ?_⟩
  · rw [← owned 0 "A" rfl, ← kept]
    decide +kernel
  · rw [← owned 1 "A" rfl, ← kept]
    decide +kernel
  · rw [← told]
    decide +kernel
  · rw [← dropped]
    decide +kernel

end Switchboard.Delivery
