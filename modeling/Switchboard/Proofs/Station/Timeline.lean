import Switchboard.Proofs.Station

/-!
# What may be noticed next

A listener reads one inbox, and the timeline tells how far it is with it. `Notice.Due` says what may
be noticed next; `Timeline.Tells` ties the timeline to the inbox, and is kept by whatever is sent,
read or logged.
-/

namespace Switchboard

/-! ### One inbox -/

namespace Inbox

/-- The inbox keeps of `sent` what comes after the first `n`. -/
def Keeps (slots : Nat) (sent : List Message) (n : Nat) (i : Inbox) : Prop :=
  ∃ got, i.Follows slots sent got ∧
    (got.filterMap Received.message?).length + (got.map Received.missed).sum = n

/-- What is read next, as long as anybody can send: the first message kept if it is not too long
ago, and else how many were overwritten. -/
inductive Next (slots : Nat) (sent : List Message) (n : Nat) : Received × Inbox → Prop
  | message {m i} (first : sent[n]? = some m) (recent : sent.length ≤ n + slots)
    (keeps : i.Keeps slots sent (n + 1)) : Next slots sent n (.message m, i)
  | lagged {k i} (positive : 0 < k) (overwritten : sent.length = n + k + slots)
    (keeps : i.Keeps slots sent (n + k)) : Next slots sent n (.lagged k, i)
  | empty {i} (nothing : i.outstanding = 0) (keeps : i.Keeps slots sent n) :
    Next slots sent n (.empty, i)

variable {slots n : Nat} {sent : List Message} {i : Inbox}

theorem keeps_empty (slots : Nat) : Keeps slots [] 0 {} :=
  ⟨[], follows_empty slots, rfl⟩

theorem Keeps.push (keeps : i.Keeps slots sent n) (positive : 0 < slots) (m : Message) :
    (i.push slots m).Keeps slots (sent ++ [m]) n := by
  obtain ⟨got, follows, counted⟩ := keeps
  exact ⟨got, follows.push positive m, counted⟩

theorem Keeps.outstanding (keeps : i.Keeps slots sent n) : n + i.outstanding = sent.length := by
  obtain ⟨got, follows, rfl⟩ := keeps
  obtain ⟨passed, left, rfl, covers, length, -⟩ := follows.left
  rw [List.length_append, covers.length, length]

theorem Keeps.next (keeps : i.Keeps slots sent n) : Next slots sent n (i.take true) := by
  have counts := keeps.outstanding
  obtain ⟨got, follows, counted⟩ := keeps
  obtain ⟨lagged, closed, empty⟩ := follows.next true
  obtain ⟨passed, left, split, covers, length, message⟩ := follows.left
  replace message := message true
  have after := follows.take true
  rcases reached : i.take true with ⟨read, i'⟩
  rw [reached] at lagged closed empty message after
  have keeps' : i'.Keeps slots sent (n + (read.message?.toList.length + read.missed)) := by
    refine ⟨_, after, ?_⟩
    rw [List.filterMap_append, List.length_append, List.map_append, List.sum_append, ← counted]
    cases read <;> simp [List.filterMap_cons, Received.message?, Received.missed] <;> omega
  cases read with
  | message m =>
    obtain ⟨few, first⟩ := (message m).mp rfl
    refine .message ?_ (by omega) keeps'
    have position : passed.length = n := covers.length.symm.trans counted
    rw [split, List.getElem?_append_right (Nat.le_of_eq position), position, Nat.sub_self,
      ← List.head?_eq_getElem?, first]
  | lagged k =>
    obtain ⟨positive, many⟩ := (lagged k).mp rfl
    exact .lagged positive (by omega) (by simpa [Received.message?, Received.missed] using keeps')
  | empty =>
    have nothing := (empty.mp rfl).1
    have counts' := keeps'.outstanding
    exact .empty (by omega) keeps'
  | closed => cases (closed.mp rfl).2

end Inbox

/-! ### The timeline -/

namespace Forwarding

def running (destination : String) : Event :=
  event .debug "channel listener running" destination

def detached (destination : String) : Event :=
  event .debug "channel listener detached" destination

def lag (destination : String) (skipped : Nat) : Event :=
  event .warn "channel listener lagged" destination [("skipped", .number skipped)]

@[simp]
theorem skipped_lag (destination : String) (skipped : Nat) :
    (lag destination skipped).skipped = skipped := rfl

end Forwarding

/-- What may be noticed next. A message that is given to the sink is the next one of those sent
since the listener started, and it is still kept; so many are reported missed as were
overwritten. -/
def Notice.Due (slots : Nat) (destination : String)
    (current : Option (Subscription × Timeline)) : Notice → Prop
  | started _ => current = none
  | stopped | sent _ => current ≠ none
  | given d m => ∃ sub since original, current = some (sub, since) ∧
      since.sent[since.passed]? = some original ∧ since.sent.length ≤ since.passed + slots ∧
      d = destination ∧ m = original.sentTo destination
  | logged e => e = Forwarding.running destination ∨ e = Forwarding.detached destination ∨
      ∃ skipped sub since, e = Forwarding.lag destination skipped ∧ current = some (sub, since) ∧
        0 < skipped ∧ since.sent.length = since.passed + skipped + slots

namespace Timeline

def Orderly (slots : Nat) (destination : String) (t : Timeline) : Prop :=
  ∀ (front : Timeline) (n : Notice) (rest : Timeline), t = front ++ n :: rest →
    n.Due slots destination front.underway

variable {slots : Nat} {destination : String} {t : Timeline} {n : Notice} {h h' : Hub}

theorem orderly_nil (slots : Nat) (destination : String) : Orderly slots destination [] :=
  fun front n rest split => by simp at split

theorem Orderly.concat (orderly : t.Orderly slots destination)
    (due : n.Due slots destination t.underway) : Orderly slots destination (t ++ [n]) := by
  intro front n' rest split
  rcases split_concat split with ⟨-, rfl, rfl⟩ | ⟨rest', among⟩
  · exact due
  · exact orderly front n' rest' among

@[simp]
theorem underway_concat (t : Timeline) (n : Notice) :
    (t ++ [n]).underway = Notice.follow t.underway n :=
  List.foldl_append

@[simp]
theorem sent_append (t t' : Timeline) : sent (t ++ t') = t.sent ++ t'.sent :=
  List.filterMap_append

@[simp]
theorem passed_append (t t' : Timeline) : passed (t ++ t') = t.passed + t'.passed := by
  rw [passed, List.map_append, List.sum_append, passed, passed]

theorem sent_concat (t : Timeline) (n : Notice) : sent (t ++ [n]) = t.sent ++ n.sent?.toList := by
  rw [sent_append]
  cases n <;> rfl

theorem given_concat (t : Timeline) (n : Notice) :
    given (t ++ [n]) = t.given ++ n.given?.toList := by
  rw [given, List.filterMap_append]
  cases n <;> rfl

theorem passed_concat (t : Timeline) (n : Notice) : passed (t ++ [n]) = t.passed + n.passes :=
  passed_append t [n]

theorem Orderly.of_append {t' : Timeline} (orderly : Orderly slots destination (t ++ t')) :
    t.Orderly slots destination := by
  intro front n rest split
  refine orderly front n (rest ++ t') ?_
  rw [split, List.append_assoc, List.cons_append]

theorem Orderly.last (orderly : Orderly slots destination (t ++ [n])) :
    n.Due slots destination t.underway :=
  orderly t n [] rfl

theorem follow_eq_some {current : Option (Subscription × Timeline)} {sub : Subscription}
    {since : Timeline} (follows : Notice.follow current n = some (sub, since)) :
    n = .started sub ∧ since = [] ∨
      ∃ earlier, current = some (sub, earlier) ∧ since = earlier ++ [n] := by
  cases n with
  | started =>
    cases follows
    exact Or.inl ⟨rfl, rfl⟩
  | stopped => cases follows
  | sent | given | logged =>
    obtain ⟨⟨sub, earlier⟩, before, same⟩ := Option.map_eq_some_iff.mp follows
    cases same
    exact Or.inr ⟨earlier, before, rfl⟩

/-- The sink is given the messages in the order in which they were sent, each one once. -/
theorem Orderly.given_sublist (orderly : t.Orderly slots destination) {sub : Subscription}
    {since : Timeline} (current : t.underway = some (sub, since)) :
    since.given.Sublist ((since.sent.take since.passed).map (·.sentTo destination)) := by
  -- from the end, as a start forgets what was given before it
  induction t using List.reverseRecOn generalizing sub since with
  | nil => cases current
  | append_singleton t n ih =>
    have due := orderly.last
    rw [underway_concat] at current
    obtain ⟨-, rfl⟩ | ⟨since, before, rfl⟩ := follow_eq_some current
    · exact List.nil_sublist _
    · have earlier := ih orderly.of_append before
      have grown : (since.sent.take since.passed).Sublist
          ((since.sent ++ n.sent?.toList).take (since.passed + n.passes)) :=
        ((List.prefix_append _ _).take _).sublist.trans
          (List.take_prefix_take_left (Nat.le_add_right _ _)).sublist
      rw [given_concat, sent_concat, passed_concat]
      cases n with
      | given d m =>
        obtain ⟨_, _, original, before', first, -, -, rfl⟩ := due
        cases before.symm.trans before'
        simp only [Notice.given?, Notice.sent?, Notice.passes, Option.toList, List.append_nil,
          List.take_add_one, first, List.map_append]
        exact earlier.append (List.Sublist.refl _)
      | started | stopped | sent | logged =>
        have later := earlier.trans (grown.map _)
        simpa only [Notice.given?, Option.toList, List.append_nil] using later

/-- While the listener is not stopped it does not start anew. -/
theorem Orderly.underway_append {news : Timeline} (orderly : Orderly slots destination (t ++ news))
    {sub : Subscription} {since : Timeline} (current : t.underway = some (sub, since))
    (on : .stopped ∉ news) : underway (t ++ news) = some (sub, since ++ news) := by
  induction news using List.reverseRecOn with
  | nil => rw [List.append_nil, List.append_nil, current]
  | append_singleton news n ih =>
    rw [← List.append_assoc] at orderly ⊢
    have on := not_or.mp (mt List.mem_append.mpr on)
    have due := orderly.last
    have before := ih orderly.of_append on.1
    rw [underway_concat, before]
    rw [before] at due
    cases n with
    | started => cases due
    | stopped => exact absurd (List.mem_singleton_self _) on.2
    | sent | given | logged => exact congrArg (fun t => some (sub, t)) (List.append_assoc _ _ _)

theorem foldl_follow_none {t : Timeline} (idle : ∀ sub, .started sub ∉ t) :
    t.foldl Notice.follow none = none := by
  induction t with
  | nil => rfl
  | cons n rest ih =>
    have others := ih fun sub later => idle sub (List.mem_cons_of_mem n later)
    cases n with
    | started sub => exact absurd List.mem_cons_self (idle sub)
    | stopped | sent | given | logged => exact others

/-- Nothing is given after a stop before the next start. -/
theorem Orderly.given_of_stopped {before since : Timeline} (orderly : t.Orderly slots destination)
    (split : t = before ++ .stopped :: since) (idle : ∀ sub, .started sub ∉ since) :
    since.given = [] := by
  refine List.filterMap_eq_nil_iff.mpr ?_
  intro n member
  cases n with
  | given d m =>
    obtain ⟨front, rest, rfl⟩ := List.append_of_mem member
    obtain ⟨sub, since, original, current, -⟩ :=
      orderly (before ++ .stopped :: front) (.given d m) rest (by simp [split])
    have off : underway (before ++ .stopped :: front) = none := by
      rw [underway, List.foldl_append, List.foldl_cons]
      exact foldl_follow_none fun sub there => idle sub (List.mem_append_left _ there)
    cases current.symm.trans off
  | started | stopped | sent | logged => rfl

/-- The listener reads `slot` and is as far with it as the timeline says. -/
inductive Reads (slots : Nat) (h : Hub) : Option Subscription → Timeline → Prop
  | idle {t : Timeline} (nothing : t.underway = none) : Reads slots h none t
  | busy {t : Timeline} {sub since i} (current : t.underway = some (sub, since))
    (found : h.inbox? sub = some i) (keeps : i.Keeps slots since.sent since.passed) :
    Reads slots h (some sub) t

/-- How a slot may be filled and emptied. -/
inductive Turns (h h' : Hub) : Option Subscription → Option Subscription → Prop
  | same {slot} (inbox : ∀ sub, slot = some sub → h'.inbox? sub = h.inbox? sub) :
    Turns h h' slot slot
  | starts {sub} (new : h'.inbox? sub = some {}) : Turns h h' none (some sub)
  | stops {sub} : Turns h h' (some sub) none

theorem Turns.empties {slot : Option Subscription} : Turns h h' slot none := by
  cases slot with
  | none => exact .same nofun
  | some sub => exact .stops

structure Tells (slots : Nat) (destination : String) (h : Hub) (slot : Option Subscription)
    (t : Timeline) : Prop where
  reads : Reads slots h slot t
  orderly : t.Orderly slots destination

theorem Tells.hub {slot : Option Subscription} (tells : Tells slots destination h slot t)
    (inbox : ∀ sub, slot = some sub → h'.inbox? sub = h.inbox? sub) :
    Tells slots destination h' slot t := by
  obtain ⟨⟨nothing⟩ | @⟨_, sub, _, _, current, found, keeps⟩, orderly⟩ := tells
  · exact ⟨.idle nothing, orderly⟩
  · exact ⟨.busy current ((inbox sub rfl).trans found) keeps, orderly⟩

theorem Tells.turn {slot slot' : Option Subscription} (tells : Tells slots destination h slot t)
    (turns : Turns h h' slot slot') :
    Tells slots destination h' slot' (t ++ Notice.ofSlot slot slot') := by
  cases turns with
  | same inbox =>
    rw [Notice.ofSlot_self, List.append_nil]
    exact tells.hub inbox
  | starts new =>
    obtain ⟨reads, orderly⟩ := tells
    cases reads with
    | idle nothing =>
      have keeps : Inbox.Keeps slots (sent []) (passed []) {} := Inbox.keeps_empty slots
      exact ⟨.busy (underway_concat t _) new keeps, orderly.concat nothing⟩
  | stops =>
    obtain ⟨reads, orderly⟩ := tells
    cases reads with
    | busy current =>
      refine ⟨.idle (underway_concat t _), orderly.concat ?_⟩
      rw [Notice.Due, current]
      exact Option.some_ne_none _

section

variable {sub : Subscription} {since : Timeline} {i i' : Inbox}

theorem Tells.concat (orderly : t.Orderly slots destination)
    (current : t.underway = some (sub, since))
    (due : n.Due slots destination (some (sub, since)))
    (stays : Notice.follow (some (sub, since)) n = some (sub, since ++ [n]))
    (found : h.inbox? sub = some i)
    (keeps : i.Keeps slots (since ++ [n]).sent (since ++ [n]).passed) :
    Tells slots destination h (some sub) (t ++ [n]) := by
  refine ⟨.busy ?_ found keeps, orderly.concat (current ▸ due)⟩
  rw [underway_concat, current, stays]

theorem Tells.send (tells : Tells slots destination h (some sub) t) (positive : 0 < slots)
    (found : h.inbox? sub = some i) {m : Message} (pushed : h'.inbox? sub = some (i.push slots m)) :
    Tells slots destination h' (some sub) (t ++ [.sent m]) := by
  obtain ⟨⟨⟩ | ⟨current, found', keeps⟩, orderly⟩ := tells
  cases found.symm.trans found'
  refine .concat orderly current (Option.some_ne_none _) rfl pushed ?_
  rw [sent_concat, passed_concat]
  exact keeps.push positive m

theorem Tells.log {slot : Option Subscription} {e : Event}
    (tells : Tells slots destination h slot t)
    (turns : e = Forwarding.running destination ∨ e = Forwarding.detached destination) :
    Tells slots destination h slot (t ++ [.logged e]) := by
  have due (current) : (Notice.logged e).Due slots destination current :=
    turns.elim Or.inl (Or.inr ∘ Or.inl)
  have whole : e.skipped = 0 := by
    rcases turns with rfl | rfl <;> rfl
  obtain ⟨⟨nothing⟩ | ⟨current, found, keeps⟩, orderly⟩ := tells
  · refine ⟨.idle ?_, orderly.concat (due _)⟩
    rw [underway_concat, nothing]
    rfl
  · refine .concat orderly current (due _) rfl found ?_
    rw [sent_concat, passed_concat]
    simpa [Notice.sent?, Notice.passes, whole] using keeps

/-- What a look into the inbox may give, and what the timeline tells once it is noticed. -/
inductive Answers (slots : Nat) (destination : String) (h : Hub) (sub : Subscription)
    (t : Timeline) : Received → Prop
  | message {m} (tells : Tells slots destination h (some sub)
      (t ++ [.given destination (m.sentTo destination)])) :
    Answers slots destination h sub t (.message m)
  | lagged {k} (positive : 0 < k) (tells : Tells slots destination h (some sub)
      (t ++ [.logged (Forwarding.lag destination k)])) :
    Answers slots destination h sub t (.lagged k)
  | empty (tells : Tells slots destination h (some sub) t) (nothing : h.outstanding sub = 0) :
    Answers slots destination h sub t .empty

theorem Tells.look (tells : Tells slots destination h (some sub) t) (found : h.inbox? sub = some i)
    (taken : h'.inbox? sub = some (i.take true).2) :
    Answers slots destination h' sub t (i.take true).1 := by
  obtain ⟨⟨⟩ | @⟨_, _, since, _, current, found', keeps⟩, orderly⟩ := tells
  cases found.symm.trans found'
  have next := keeps.next
  generalize i.take true = result at next taken
  cases next with
  | @message m i' first recent keeps' =>
    refine .message (.concat orderly current ?_ rfl taken ?_)
    · exact ⟨sub, since, m, rfl, first, recent, rfl, rfl⟩
    · rw [sent_concat, passed_concat]
      simpa [Notice.sent?, Notice.passes] using keeps'
  | @lagged k i' positive overwritten keeps' =>
    refine .lagged positive (.concat orderly current ?_ rfl taken ?_)
    · exact Or.inr (Or.inr ⟨k, sub, since, rfl, rfl, positive, overwritten⟩)
    · rw [sent_concat, passed_concat]
      simpa [Notice.sent?, Notice.passes] using keeps'
  | empty nothing keeps' =>
    refine .empty ⟨.busy current taken keeps', orderly⟩ ?_
    rw [Hub.outstanding_eq, taken]
    exact nothing

end

end Timeline

end Switchboard
