import Mathlib.Data.Finset.Sort
import Mathlib.Data.String.Basic
import Switchboard.Proofs.Delivery
import Switchboard.Proofs.Record

/-!
# The roll of a delivery

A delivery offers a message to one client after the other, and what it does for one changes the
tables that the next is looked up in. The roll knows nothing of that: it says of a whole delivery at
once who takes the message and who leaves.
-/

namespace Switchboard.Delivery

/-- What may be done to a delivery. -/
inductive Move
  | connect (client : String)
  | disconnect (client : String)
  | addRoute (destination client : String)
  | removeRoute (destination client : String)
  | deliver (destination : String) (m : Message)
  | receive (mailbox : Nat)
  | closeMailbox (mailbox : Nat)
  | dropMailbox (mailbox : Nat)
  | watch (watcher : String)

def step (d : Delivery) : Move → Delivery
  | .connect client => (d.connect client).2
  | .disconnect client => (d.disconnect client).2
  | .addRoute destination client => (d.addRoute destination client).2
  | .removeRoute destination client => (d.removeRoute destination client).2
  | .deliver destination m => (d.deliver destination m).2
  | .receive mailbox => (d.receive mailbox).2
  | .closeMailbox mailbox => d.closeMailbox mailbox
  | .dropMailbox mailbox => d.dropMailbox mailbox
  | .watch watcher => d.watch watcher

/-- What the watcher, if there is one, is told during a move. -/
def told (d : Delivery) : Move → List (String × Departure)
  | .deliver destination m =>
    d.watcher.elim [] fun w => (d.deliver destination m).1.map fun departure => (w, departure)
  | _ => []

/-- The messages that leave a mailbox during a move, read or thrown away with it. -/
def leaving (mailbox : Nat) (d : Delivery) : Move → List Message
  | .receive other =>
    match (d.receive other).1 with
    | .message m => if other = mailbox then [m] else []
    | _ => []
  | .dropMailbox other => if other = mailbox then d.pending mailbox else []
  | _ => []

/-- Who is connected and who is routed, by what was done so far. -/
structure Roll where
  /-- The clients in the order of their connections. Each connection opens the next mailbox. -/
  opened : List String := []
  /-- The mailbox that a connected client is fed through. -/
  outbox : String → Option Nat := fun _ => none
  /-- The destinations with their clients. -/
  routes : Finset (String × String) := ∅
  /-- The mailboxes that take no more messages. -/
  shut : Finset Nat := ∅
  watcher : Option String := none

namespace Roll

def clients (r : Roll) (destination : String) : Finset String :=
  (r.routes.filter fun route => route.1 = destination).image Prod.snd

def destinations (r : Roll) (client : String) : Finset String :=
  (r.routes.filter fun route => route.2 = client).image Prod.fst

/-- The mailbox that takes the messages for `client`, if one does. -/
def takes (r : Roll) (client : String) : Option Nat :=
  (r.outbox client).filter fun mailbox => mailbox ∉ r.shut

/-- The client has an outbox, but its mailbox is shut. -/
def isGone (r : Roll) (client : String) : Bool :=
  (r.outbox client).any fun mailbox => mailbox ∈ r.shut

/-- Strikes the outboxes and the routes of some clients. -/
def strike (r : Roll) (clients : Finset String) : Roll :=
  { r with
    outbox := fun client => if client ∈ clients then none else r.outbox client
    routes := r.routes.filter fun route => route.2 ∉ clients }

def shutBox (r : Roll) (mailbox : Nat) : Roll :=
  if mailbox < r.opened.length then { r with shut := insert mailbox r.shut } else r

def next (r : Roll) : Move → Roll
  | .connect client => { r with
    opened := r.opened ++ [client]
    outbox := fun other => if client = other then some r.opened.length else r.outbox other }
  | .disconnect client => r.strike {client}
  | .addRoute destination client => { r with routes := insert (destination, client) r.routes }
  | .removeRoute destination client => { r with routes := r.routes.erase (destination, client) }
  | .deliver destination _ =>
    r.strike ((r.clients destination).filter fun client => r.isGone client)
  | .receive _ => r
  | .closeMailbox mailbox | .dropMailbox mailbox => r.shutBox mailbox
  | .watch watcher => { r with watcher := some watcher }

/-- The messages that a move puts into mailboxes: a delivered message goes to each client of the
destination whose mailbox takes it. -/
def placements (r : Roll) : Move → List (Nat × Message)
  | .deliver destination m =>
    (r.clients destination).sort.filterMap fun client => (r.takes client).map fun n => (n, m)
  | _ => []

/-- What a move brings to `mailbox` as the outbox of `client`. -/
def handed (client : String) (mailbox : Nat) (r : Roll) : Move → List Message
  | .deliver destination m =>
    if r.takes client = some mailbox ∧ (destination, client) ∈ r.routes then [m] else []
  | _ => []

/-- A client departs from all its destinations. -/
def departure (r : Roll) (noticed client : String) : Departure :=
  ⟨client, noticed, (r.destinations client).sort⟩

/-- The departures during a move: those clients of the delivered destination depart whose mailboxes
are shut. -/
def departures (r : Roll) : Move → List Departure
  | .deliver destination _ =>
    ((r.clients destination).sort.filter r.isGone).map (r.departure destination)
  | _ => []

def told (r : Roll) (move : Move) : List (String × Departure) :=
  r.watcher.elim [] fun w => (r.departures move).map fun departure => (w, departure)

end Roll

/-- The tables of `d` are as the roll has them. -/
structure Agrees (d : Delivery) (r : Roll) : Prop where
  nextMailbox : d.nextMailbox = r.opened.length
  outbox (client) : d.outboxes[client]? = r.outbox client
  routed (id client) : d.isRouted id client = true ↔ (id, client) ∈ r.routes
  accepts (mailbox) : d.accepts mailbox = true ↔ mailbox < r.opened.length ∧ mailbox ∉ r.shut
  shut {mailbox} (shut : mailbox ∈ r.shut) : mailbox < r.opened.length
  known {mailbox} (known : mailbox ∈ d.mailboxes) : mailbox < r.opened.length
  owner {client mailbox} (feeds : r.outbox client = some mailbox) : r.opened[mailbox]? = some client
  watcher : d.watcher = r.watcher

variable {d d' : Delivery} {r : Roll} {destination client : String}

theorem sort_of_ascending {names : Finset String} {l : List String}
    (ascending : l.Pairwise (· < ·)) (same : ∀ name, name ∈ l ↔ name ∈ names) : names.sort = l := by
  refine names.sortedLT_sort.pairwise.eq_of_mem_iff ascending ?_
  intro name
  rw [Finset.mem_sort, same]

namespace Roll

@[simp]
theorem mem_clients : client ∈ r.clients destination ↔ (destination, client) ∈ r.routes := by
  simp [clients]

@[simp]
theorem mem_destinations :
    destination ∈ r.destinations client ↔ (destination, client) ∈ r.routes := by
  simp [destinations]

theorem takes_eq_some {mailbox : Nat} :
    r.takes client = some mailbox ↔ r.outbox client = some mailbox ∧ mailbox ∉ r.shut := by
  simp [takes, Option.filter_eq_some_iff]

theorem isGone_iff :
    r.isGone client = true ↔ ∃ mailbox ∈ r.shut, r.outbox client = some mailbox := by
  simp [isGone, Option.any_eq_true, and_comm]

theorem strike_empty (r : Roll) : r.strike ∅ = r := by
  simp [strike]

theorem strike_strike (r : Roll) (first second : Finset String) :
    (r.strike first).strike second = r.strike (first ∪ second) := by
  unfold strike
  congr 1
  · funext client
    by_cases gone : client ∈ first <;> simp [gone]
  · ext route
    simp [and_assoc]

variable {gone : Finset String}

theorem outbox_strike (stays : client ∉ gone) : (r.strike gone).outbox client = r.outbox client :=
  if_neg stays

theorem takes_strike (stays : client ∉ gone) : (r.strike gone).takes client = r.takes client := by
  rw [takes, outbox_strike stays]
  rfl

theorem isGone_strike (stays : client ∉ gone) :
    (r.strike gone).isGone client = r.isGone client := by
  rw [isGone, outbox_strike stays]
  rfl

theorem departure_strike (stays : client ∉ gone) (noticed : String) :
    (r.strike gone).departure noticed client = r.departure noticed client := by
  have same : (r.strike gone).destinations client = r.destinations client := by
    ext id
    simp [strike, stays]
  rw [departure, same, departure]

end Roll

namespace Agrees

theorem separate (agrees : d.Agrees r) : d.Separate := by
  refine ⟨?_, ?_⟩
  · intro client other mailbox first second
    rw [agrees.outbox] at first second
    exact Option.some.inj ((agrees.owner first).symm.trans (agrees.owner second))
  · intro client mailbox outbox
    rw [agrees.outbox] at outbox
    rw [agrees.nextMailbox]
    exact (List.getElem?_eq_some_iff.mp (agrees.owner outbox)).1

theorem opens_iff (agrees : d.Agrees r) {mailbox : Nat} :
    d.Opens client mailbox ↔ r.takes client = some mailbox := by
  rw [Roll.takes_eq_some]
  constructor
  · rintro ⟨outbox, accepts⟩
    rw [agrees.outbox] at outbox
    exact ⟨outbox, ((agrees.accepts mailbox).mp accepts).2⟩
  · rintro ⟨outbox, open_⟩
    have short := (List.getElem?_eq_some_iff.mp (agrees.owner outbox)).1
    exact ⟨(agrees.outbox client).trans outbox, (agrees.accepts mailbox).mpr ⟨short, open_⟩⟩

theorem isGone_of_shut (agrees : d.Agrees r) {mailbox : Nat}
    (outbox : d.outboxes[client]? = some mailbox) (shut : d.accepts mailbox = false) :
    r.isGone client = true := by
  rw [agrees.outbox] at outbox
  have short := (List.getElem?_eq_some_iff.mp (agrees.owner outbox)).1
  refine Roll.isGone_iff.mpr ⟨mailbox, ?_, outbox⟩
  by_contra other
  rw [(agrees.accepts mailbox).mpr ⟨short, other⟩] at shut
  cases shut

/-- Nothing of what the roll knows was changed. -/
theorem congr (agrees : d.Agrees r) (outboxes : d'.outboxes = d.outboxes)
    (routes : d'.routes = d.routes) (nextMailbox : d'.nextMailbox = d.nextMailbox)
    (accepts : ∀ mailbox, d'.accepts mailbox = d.accepts mailbox)
    (mailboxes : ∀ mailbox ∈ d'.mailboxes, mailbox ∈ d.mailboxes)
    (watcher : d'.watcher = d.watcher) :
    d'.Agrees r where
  nextMailbox := nextMailbox.trans agrees.nextMailbox
  outbox client := by
    rw [outboxes]
    exact agrees.outbox client
  routed id client := by
    rw [isRouted, routes]
    exact agrees.routed id client
  accepts mailbox := by
    rw [accepts]
    exact agrees.accepts mailbox
  shut := agrees.shut
  known known := agrees.known (mailboxes _ known)
  owner := agrees.owner
  watcher := watcher.trans agrees.watcher

theorem connect (agrees : d.Agrees r) (client : String) :
    (d.connect client).2.Agrees (r.next (.connect client)) where
  nextMailbox := by
    simp [Delivery.connect, Roll.next, agrees.nextMailbox]
  outbox other := by
    simp only [Delivery.connect, Roll.next, Std.ExtTreeMap.getElem?_insert,
      Std.LawfulEqCmp.compare_eq_iff_eq, agrees.outbox, agrees.nextMailbox]
  routed := agrees.routed
  accepts mailbox := by
    have known := agrees.accepts mailbox
    have below (shut : mailbox ∈ r.shut) := agrees.shut shut
    unfold Delivery.accepts at known ⊢
    simp only [Delivery.connect, Roll.next, Std.ExtTreeMap.getElem?_insert,
      Std.LawfulEqCmp.compare_eq_iff_eq, agrees.nextMailbox, List.length_append,
      List.length_singleton]
    split
    · rename_i found
      split at found
      · cases found
      · rename_i other
        rw [found] at known
        simp only [Bool.false_eq_true, false_iff] at known ⊢
        intro now
        exact known ⟨by omega, now.2⟩
    · rename_i box found
      split at found
      · rename_i same
        cases found
        refine iff_of_true rfl ⟨by omega, ?_⟩
        intro shut
        have := below shut
        omega
      · rename_i other
        rw [found] at known
        rw [known]
        constructor
        · rintro ⟨short, free⟩
          exact ⟨by omega, free⟩
        · rintro ⟨short, free⟩
          exact ⟨by omega, free⟩
  shut {mailbox} shut := by
    have := agrees.shut shut
    simp only [Roll.next, List.length_append, List.length_singleton]
    omega
  known {mailbox} known := by
    simp only [Delivery.connect, Roll.next, Std.ExtTreeMap.mem_insert, List.length_append,
      Std.LawfulEqCmp.compare_eq_iff_eq, List.length_singleton, agrees.nextMailbox] at known ⊢
    rcases known with rfl | old
    · omega
    · have := agrees.known old
      omega
  owner {other mailbox} feeds := by
    simp only [Roll.next] at feeds ⊢
    split at feeds
    · rename_i same
      cases feeds
      rw [List.getElem?_concat_length, same]
    · have short := (List.getElem?_eq_some_iff.mp (agrees.owner feeds)).1
      rw [List.getElem?_append_left short]
      exact agrees.owner feeds
  watcher := agrees.watcher

theorem addRoute (agrees : d.Agrees r) (id client : String) :
    (d.addRoute id client).2.Agrees (r.next (.addRoute id client)) where
  nextMailbox := agrees.nextMailbox
  outbox := agrees.outbox
  routed other who := by
    rw [isRouted_addRoute, agrees.routed]
    simp [Roll.next, eq_comm]
  accepts := agrees.accepts
  shut := agrees.shut
  known := agrees.known
  owner := agrees.owner
  watcher := agrees.watcher

theorem removeRoute (agrees : d.Agrees r) (id client : String) :
    (d.removeRoute id client).2.Agrees (r.next (.removeRoute id client)) where
  nextMailbox := agrees.nextMailbox
  outbox := agrees.outbox
  routed other who := by
    rw [isRouted_removeRoute, agrees.routed]
    simp [Roll.next, eq_comm]
  accepts := agrees.accepts
  shut := agrees.shut
  known := agrees.known
  owner := agrees.owner
  watcher := agrees.watcher

theorem disconnect (agrees : d.Agrees r) (client : String) :
    (d.disconnect client).2.Agrees (r.strike {client}) where
  nextMailbox := agrees.nextMailbox
  outbox other := by
    have left : (d.disconnect client).2.outboxes[other]? =
        if client = other then none else r.outbox other := by
      simp only [Delivery.disconnect, takeRoutes, Std.ExtTreeMap.getElem?_erase,
        Std.LawfulEqCmp.compare_eq_iff_eq, agrees.outbox]
    rw [left]
    by_cases same : client = other
    · simp [Roll.strike, same]
    · simp [Roll.strike, same, Ne.symm same]
  routed other who := by
    rw [isRouted_disconnect, agrees.routed]
    simp [Roll.strike, eq_comm, and_comm]
  accepts := agrees.accepts
  shut := agrees.shut
  known := agrees.known
  owner {other mailbox} feeds := by
    simp only [Roll.strike] at feeds
    split at feeds
    · cases feeds
    · exact agrees.owner feeds
  watcher := agrees.watcher

theorem disconnect_destinations (agrees : d.Agrees r) (client : String) :
    (d.disconnect client).1 = (r.destinations client).sort := by
  symm
  refine sort_of_ascending (disconnect_ascending d client) ?_
  intro id
  rw [mem_disconnect, ← isRouted_iff, agrees.routed, Roll.mem_destinations]

theorem sort_clients (agrees : d.Agrees r) (destination : String) :
    (r.clients destination).sort = d.routesOf destination := by
  refine sort_of_ascending (routesOf_ascending d destination) ?_
  intro client
  rw [mem_routesOf, agrees.routed, Roll.mem_clients]

/-- A mailbox takes no more messages. -/
theorem shutBox {mailbox : Nat} (agrees : d.Agrees r) (outboxes : d'.outboxes = d.outboxes)
    (routes : d'.routes = d.routes) (nextMailbox : d'.nextMailbox = d.nextMailbox)
    (accepts : ∀ other, d'.accepts other = true ↔ mailbox ≠ other ∧ d.accepts other = true)
    (mailboxes : ∀ mailbox ∈ d'.mailboxes, mailbox ∈ d.mailboxes)
    (watcher : d'.watcher = d.watcher) :
    d'.Agrees (r.shutBox mailbox) := by
  unfold Roll.shutBox
  split
  · rename_i known
    refine ⟨nextMailbox.trans agrees.nextMailbox, ?_, ?_, ?_, ?_,
      fun known => agrees.known (mailboxes _ known), agrees.owner, watcher.trans agrees.watcher⟩
    · intro client
      rw [outboxes]
      exact agrees.outbox client
    · intro id client
      rw [isRouted, routes]
      exact agrees.routed id client
    · intro other
      rw [accepts, agrees.accepts, Finset.mem_insert]
      tauto
    · intro other shut
      rcases Finset.mem_insert.mp shut with rfl | old
      · exact known
      · exact agrees.shut old
  · rename_i unknown
    refine agrees.congr outboxes routes nextMailbox ?_ mailboxes watcher
    intro other
    rw [Bool.eq_iff_iff, accepts, and_iff_right_iff_imp]
    rintro accepting rfl
    exact unknown ((agrees.accepts mailbox).mp accepting).1

end Agrees

end Switchboard.Delivery
