import Switchboard.Proofs.Channel.Opening

/-!
# Guests of a hub

Listeners are not alone on a hub: others open channels, publish, subscribe, and keep what they are
given for as long as they like. Whatever they do, the hub stays balanced with what they hold.
-/

namespace Switchboard

/-- The senders and subscriptions that others than listeners hold. -/
structure Guests where
  senders : List Sender := []
  subscriptions : List Subscription := []
deriving DecidableEq, Repr

namespace Guests

def holdings (g : Guests) : Holdings :=
  (g.senders, g.subscriptions)

def receivers (g : Guests) (n : Nat) : Nat :=
  g.subscriptions.countP fun sub => sub.channel = n

/-- What guests do with a hub. They name the senders and subscriptions they hold by position. -/
inductive Move
  | openChannel (name : String)
  | subscribe (name : String)
  | attach (sender : Nat) (label : String)
  | publish (name : String) (m : Message)
  | send (sender : Nat) (m : Message)
  | receive (subscription : Nat)
  | dropSender (sender : Nat)
  | dropSubscription (subscription : Nat)
  | close (name : String)
  | shutdown

namespace Move

/-- Whether every name keeps its channel. -/
def Keeps : Move → Prop
  | close _ | shutdown => False
  | _ => True

def run : Move → Hub × Guests → Hub × Guests
  | openChannel name, (h, g) =>
    match h.openChannel name with
    | (.error _, h) => (h, g)
    | (.ok s, h) => (h, { g with senders := s :: g.senders })
  | subscribe name, (h, g) =>
    match h.subscribe name with
    | (.error _, h) => (h, g)
    | (.ok sub, h) => (h, { g with subscriptions := sub :: g.subscriptions })
  | attach i label, (h, g) =>
    match g.senders[i]? with
    | none => (h, g)
    | some s =>
      let (sub, h) := h.attach s label
      (h, { g with subscriptions := sub :: g.subscriptions })
  | publish name m, (h, g) => ((h.publish name m).2, g)
  | send i m, (h, g) =>
    match g.senders[i]? with
    | none => (h, g)
    | some s => ((h.send s.channel m).2, g)
  | receive i, (h, g) =>
    match g.subscriptions[i]? with
    | none => (h, g)
    | some sub => ((h.receive sub).2, g)
  | dropSender i, (h, g) =>
    match g.senders[i]? with
    | none => (h, g)
    | some s => (h.release s, { g with senders := g.senders.eraseIdx i })
  | dropSubscription i, (h, g) =>
    match g.subscriptions[i]? with
    | none => (h, g)
    | some sub => (h.detach sub, { g with subscriptions := g.subscriptions.eraseIdx i })
  | close name, (h, g) => ((h.close name).2, g)
  | shutdown, (h, g) => (h.shutdown, g)

end Move

theorem holdings_cons_sender (g : Guests) (s : Sender) :
    { g with senders := s :: g.senders }.holdings = .sender s + g.holdings :=
  Prod.ext (Multiset.singleton_add s g.senders).symm (zero_add _).symm

theorem holdings_cons_subscription (g : Guests) (sub : Subscription) :
    { g with subscriptions := sub :: g.subscriptions }.holdings =
      .subscription sub + g.holdings :=
  Prod.ext (zero_add _).symm (Multiset.singleton_add sub g.subscriptions).symm

/-- What stands at a position of a list, and the rest. -/
theorem coe_eq_cons_eraseIdx {α : Type} {l : List α} {i : Nat} {a : α} (found : l[i]? = some a) :
    (l : Multiset α) = {a} + (l.eraseIdx i : Multiset α) := by
  obtain ⟨short, rfl⟩ := List.getElem?_eq_some_iff.mp found
  rw [Multiset.singleton_add, Multiset.cons_coe]
  exact (Multiset.coe_eq_coe.mpr (List.getElem_cons_eraseIdx_perm short)).symm

variable {h : Hub} {g : Guests} {rest : Holdings} {i : Nat}

theorem holdings_eraseIdx_sender {s : Sender} (found : g.senders[i]? = some s) :
    g.holdings = .sender s + { g with senders := g.senders.eraseIdx i }.holdings :=
  Prod.ext (coe_eq_cons_eraseIdx found) (zero_add _).symm

theorem holdings_eraseIdx_subscription {sub : Subscription}
    (found : g.subscriptions[i]? = some sub) :
    g.holdings = .subscription sub +
      { g with subscriptions := g.subscriptions.eraseIdx i }.holdings :=
  Prod.ext (zero_add _).symm (coe_eq_cons_eraseIdx found)

theorem sender_lt (balanced : h.Balanced (g.holdings + rest)) {s : Sender}
    (found : g.senders[i]? = some s) : s.channel < h.nextChannel := by
  rw [holdings_eraseIdx_sender found] at balanced
  exact balanced.sender_lt (by simp)

theorem live_inbox (balanced : h.Balanced (g.holdings + rest)) {sub : Subscription}
    (found : g.subscriptions[i]? = some sub) :
    sub.number ∈ (h.channel sub.channel).inboxes := by
  rw [holdings_eraseIdx_subscription found] at balanced
  exact balanced.inboxes.mpr ⟨sub, by simp, rfl, rfl⟩

open Hub in
theorem run_balanced (balanced : h.Balanced (g.holdings + rest)) (move : Move) :
    (move.run (h, g)).1.Balanced ((move.run (h, g)).2.holdings + rest) ∧
      Later h (move.run (h, g)).1 ∧ (move.Keeps → Grows h (move.run (h, g)).1) := by
  have grown {left : Hub × Guests} (kept : left.1.Balanced (left.2.holdings + rest) ∧
      Grows h left.1) : left.1.Balanced (left.2.holdings + rest) ∧ Later h left.1 ∧
        (move.Keeps → Grows h left.1) :=
    ⟨kept.1, kept.2.toLater, fun _ => kept.2⟩
  have same := @grown (h, g) ⟨balanced, Grows.refl h⟩
  have similar {h'} (unmoved : Similar h h') :=
    @grown (h', g) ⟨balanced.similar unmoved, unmoved.grows⟩
  cases move with
  | openChannel name =>
    have opened := granted_openChannel balanced name
    unfold Move.run
    dsimp only
    generalize h.openChannel name = result at opened
    cases opened with
    | refused => exact same
    | granted up balanced grows named =>
      refine grown ⟨?_, grows⟩
      dsimp only
      rw [holdings_cons_sender, add_assoc]
      exact balanced
  | subscribe name =>
    have subscribed := granted_subscribe balanced name
    unfold Move.run
    dsimp only
    generalize h.subscribe name = result at subscribed
    cases subscribed with
    | refused => exact same
    | granted up balanced grows named =>
      refine grown ⟨?_, grows⟩
      dsimp only
      rw [holdings_cons_subscription, add_assoc]
      exact balanced
  | publish name m => exact similar (similar_publish h name m)
  | close name => exact ⟨balanced_close balanced name, later_close h name, False.elim⟩
  | shutdown =>
    obtain ⟨kept, later⟩ := balanced_shutdown balanced
    exact ⟨kept, later, False.elim⟩
  | attach i label =>
    unfold Move.run
    dsimp only
    cases found : g.senders[i]? with
    | none => exact same
    | some s =>
      refine grown ⟨?_, grows_attach h s label⟩
      dsimp only
      rw [holdings_cons_subscription, add_assoc]
      exact balanced_attach balanced (sender_lt balanced found) label
  | send i m =>
    unfold Move.run
    dsimp only
    cases g.senders[i]? with
    | none => exact same
    | some s => exact similar (similar_send h s.channel m)
  | receive i =>
    unfold Move.run
    dsimp only
    cases found : g.subscriptions[i]? with
    | none => exact same
    | some sub => exact similar (similar_receive (live_inbox balanced found))
  | dropSender i =>
    unfold Move.run
    dsimp only
    cases found : g.senders[i]? with
    | none => exact same
    | some s =>
      rw [holdings_eraseIdx_sender found, add_assoc] at balanced
      exact grown ⟨balanced_release balanced, grows_release h s⟩
  | dropSubscription i =>
    unfold Move.run
    dsimp only
    cases found : g.subscriptions[i]? with
    | none => exact same
    | some sub =>
      rw [holdings_eraseIdx_subscription found, add_assoc] at balanced
      exact grown ⟨balanced_detach balanced, grows_detach h sub⟩

theorem run_down (down : h.Down) (move : Move) : (move.run (h, g)).1.Down := by
  cases move with
  | openChannel name =>
    obtain ⟨reason, refused⟩ := down.openChannel name
    unfold Move.run
    dsimp only
    rw [refused]
    exact down
  | subscribe name =>
    obtain ⟨reason, refused⟩ := down.subscribe name
    unfold Move.run
    dsimp only
    rw [refused]
    exact down
  | publish name m => exact down.similar (Hub.similar_publish h name m)
  | close name => exact (Hub.close_of_free (down.free name) ▸ down : (h.close name).2.Down)
  | shutdown => exact Hub.down_shutdown h
  | attach i label | receive i | dropSender i | dropSubscription i =>
    unfold Move.run
    dsimp only
    split <;> exact ⟨down.shutDown, down.free⟩
  | send i m =>
    unfold Move.run
    dsimp only
    split
    · exact down
    · exact down.similar (Hub.similar_send h _ m)

end Guests

end Switchboard
