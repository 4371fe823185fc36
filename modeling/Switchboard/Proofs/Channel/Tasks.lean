import Switchboard.Proofs.Channel.Guests
import Switchboard.Proofs.Channel.Inboxes

/-!
# Who looks after a subscription

A task looks after a subscription if it is ready, or if it waits on the channel and nothing is
outstanding: then the next message wakes it. `Tends` says that no task is kept from what it looks
after. All that is done to a hub does so, whoever does it.
-/

namespace Switchboard

theorem Inbox.outstanding_take (live : Bool) (i : Inbox) :
    (i.take live).2.outstanding ≤ i.outstanding := by
  unfold Inbox.take Inbox.outstanding
  split
  · simp
  · split
    · rename_i m rest waits
      simp [waits]
    · simp

namespace Hub

/-- `task` will read what comes for `sub`. -/
def Attends (h : Hub) (task : Nat) (sub : Subscription) : Prop :=
  task ∈ h.ready ∨ (task ∈ (h.channel sub.channel).waiting ∧ h.outstanding sub = 0)

/-- `h'` came after `h`, and the tasks look after the subscriptions to known channels as before. -/
structure Tends (h h' : Hub) : Prop where
  slots : h'.slots = h.slots
  nextTask : h.nextTask ≤ h'.nextTask
  nextChannel : h.nextChannel ≤ h'.nextChannel
  attends {task sub} (known : sub.channel < h.nextChannel) (attends : h.Attends task sub) :
    h'.Attends task sub

variable {h h' h'' : Hub} {sub : Subscription} {n : Nat}

theorem outstanding_receive (h : Hub) (sub : Subscription) :
    (h.receive sub).2.outstanding sub ≤ h.outstanding sub := by
  rw [outstanding_eq, outstanding_eq, inbox?_receive, if_pos ⟨rfl, rfl⟩]
  cases h.inbox? sub with
  | none => exact Nat.le_refl _
  | some inbox => exact Inbox.outstanding_take _ inbox

theorem Tends.refl (h : Hub) : h.Tends h := ⟨rfl, Nat.le_refl _, Nat.le_refl _, fun _ => id⟩

theorem Tends.trans (first : h.Tends h') (second : h'.Tends h'') : h.Tends h'' where
  slots := second.slots.trans first.slots
  nextTask := Nat.le_trans first.nextTask second.nextTask
  nextChannel := Nat.le_trans first.nextChannel second.nextChannel
  attends known attends :=
    second.attends (Nat.lt_of_lt_of_le known first.nextChannel) (first.attends known attends)

/-- A channel changes in which the same tasks wait, or more, and in which nothing new is
outstanding. -/
theorem tends_modifyChannel {f : Channel → Channel}
    (waiting : (h.channel n).waiting ⊆ (f (h.channel n)).waiting)
    (fewer : ∀ k : Nat, ((f (h.channel n)).inboxes[k]?.map Inbox.outstanding).getD 0 ≤
      ((h.channel n).inboxes[k]?.map Inbox.outstanding).getD 0) :
    h.Tends (h.modifyChannel n f) := by
  refine ⟨rfl, Nat.le_refl _, Nat.le_refl _, ?_⟩
  rintro task sub - (ready | ⟨waits, nothing⟩)
  · exact Or.inl ready
  · refine Or.inr ?_
    rw [outstanding_eq, inbox?, channel_modifyChannel]
    split
    · rename_i same
      subst same
      have left := fewer sub.number
      rw [outstanding_eq, inbox?] at nothing
      exact ⟨waiting waits, by omega⟩
    · exact ⟨waits, nothing⟩

theorem tends_retain (h : Hub) (n : Nat) : h.Tends (h.retain n).2 :=
  tends_modifyChannel (f := fun c => { c with senders := c.senders + 1 }) (List.Subset.refl _)
    fun _ => Nat.le_refl _

theorem tends_release (h : Hub) (s : Sender) : h.Tends (h.release s) :=
  tends_modifyChannel (List.Subset.refl _) fun _ => Nat.le_refl _

theorem tends_wait (h : Hub) (task n : Nat) : h.Tends (h.wait task n) :=
  tends_modifyChannel (List.subset_append_left _ _) fun _ => Nat.le_refl _

theorem tends_attach (h : Hub) (s : Sender) (label : String) : h.Tends (h.attach s label).2 := by
  have modified : h.Tends (h.modifyChannel s.channel fun c =>
      { c with inboxes := c.inboxes.insert h.nextSubscription {} }) := by
    refine tends_modifyChannel (List.Subset.refl _) ?_
    intro k
    rw [Std.ExtTreeMap.getElem?_insert]
    split
    · exact Nat.zero_le _
    · exact Nat.le_refl _
  exact ⟨modified.slots, modified.nextTask, modified.nextChannel, modified.attends⟩

theorem tends_detach (h : Hub) (sub : Subscription) : h.Tends (h.detach sub) := by
  refine tends_modifyChannel (List.Subset.refl _) ?_
  intro k
  rw [Std.ExtTreeMap.getElem?_erase]
  split
  · exact Nat.zero_le _
  · exact Nat.le_refl _

theorem tends_receive (h : Hub) (sub : Subscription) : h.Tends (h.receive sub).2 := by
  refine tends_modifyChannel (f := fun c => (c.receive sub.number).2) ?_ ?_
  · unfold Channel.receive
    split <;> exact List.Subset.refl _
  · intro k
    unfold Channel.receive
    split
    · exact Nat.le_refl _
    · rename_i inbox found
      dsimp only
      rw [Std.ExtTreeMap.getElem?_insert]
      split
      · rename_i same
        rw [Std.LawfulEqCmp.compare_eq_iff_eq] at same
        rw [← same, found]
        exact Inbox.outstanding_take _ inbox
      · exact Nat.le_refl _

theorem tends_register (h : Hub) (name : String) : h.Tends (h.register name).2 := by
  refine ⟨rfl, Nat.le_refl _, Nat.le_succ _, ?_⟩
  rintro task sub known (ready | ⟨waits, nothing⟩)
  · exact Or.inl ready
  · refine Or.inr ?_
    rw [outstanding_eq, inbox?, channel_register, if_neg (Nat.ne_of_gt known)]
    exact ⟨waits, nothing⟩

theorem tends_openChannel (h : Hub) (name : String) : h.Tends (h.openChannel name).2 := by
  unfold openChannel
  split
  · exact .refl h
  · dsimp only
    split
    · exact tends_retain h _
    · exact (tends_register h name).trans (tends_retain _ _)

theorem tends_subscribe (h : Hub) (name : String) : h.Tends (h.subscribe name).2 := by
  have opened := tends_openChannel h name
  unfold subscribe
  split
  · rename_i reached
    rw [reached] at opened
    exact opened
  · rename_i s h' reached
    rw [reached] at opened
    exact (opened.trans (tends_attach h' s name)).trans (tends_release _ s)

theorem tends_ready (h : Hub) (tasks : List Nat) :
    h.Tends { h with ready := h.ready ++ tasks } := by
  refine ⟨rfl, Nat.le_refl _, Nat.le_refl _, ?_⟩
  rintro task sub - (ready | waits)
  · exact Or.inl (List.mem_append_left _ ready)
  · exact Or.inr waits

theorem tends_spawn (h : Hub) : h.Tends h.spawn.2 :=
  ⟨rfl, Nat.le_succ _, Nat.le_refl _, (tends_ready h [h.nextTask]).attends⟩

theorem tends_counts (h : Hub) (published failed : Nat) :
    h.Tends { h with publishCount := published, sendErrorCount := failed } :=
  ⟨rfl, Nat.le_refl _, Nat.le_refl _, fun _ => id⟩

theorem tends_wake {c : Channel} (waiting : c.waiting = (h.channel n).waiting) :
    h.Tends ((h.setChannel n c).wake n) := by
  refine ⟨rfl, Nat.le_refl _, Nat.le_refl _, ?_⟩
  rintro task sub - (ready | ⟨waits, nothing⟩)
  · exact Or.inl (List.mem_append_left _ ready)
  · by_cases same : n = sub.channel
    · refine Or.inl (List.mem_append_right _ ?_)
      rw [channel_setChannel, if_pos rfl, waiting, same]
      exact waits
    · refine Or.inr ?_
      have apart : ((h.setChannel n c).wake n).channel sub.channel = h.channel sub.channel := by
        change (((h.setChannel n c).setChannel n _).channel sub.channel) = _
        rw [channel_setChannel, if_neg same, channel_setChannel, if_neg same]
      rw [outstanding_eq, inbox?, apart]
      exact ⟨waits, nothing⟩

theorem tends_send (h : Hub) (n : Nat) (m : Message) : h.Tends (h.send n m).2 := by
  unfold send
  dsimp only
  split
  · exact .refl h
  · exact tends_wake rfl

theorem tends_publish (h : Hub) (name : String) (m : Message) : h.Tends (h.publish name m).2 := by
  let counted : Hub := { h with publishCount := h.publishCount + 1 }
  have published : h.Tends counted := tends_counts h (h.publishCount + 1) h.sendErrorCount
  unfold publish
  dsimp only
  cases h.names[name]? with
  | none => exact published.trans (tends_counts counted counted.publishCount _)
  | some n =>
    have sent := published.trans (tends_send counted n m)
    dsimp only
    split
    · exact sent
    · exact sent.trans (tends_counts _ (counted.send n m).2.publishCount _)

theorem tends_close (h : Hub) (name : String) : h.Tends (h.close name).2 := by
  unfold close
  split
  · exact .refl h
  · rename_i n named
    have renamed : h.Tends { h with names := h.names.erase name } :=
      ⟨rfl, Nat.le_refl _, Nat.le_refl _, fun _ => id⟩
    exact renamed.trans (tends_wake rfl)

theorem tends_closeAll (names : List String) : ∀ h : Hub,
    h.Tends (names.foldl (fun h name => (h.close name).2) h) := by
  induction names with
  | nil =>
    intro h
    exact .refl h
  | cons name rest ih =>
    intro h
    exact (tends_close h name).trans (ih (h.close name).2)

theorem tends_shutdown (h : Hub) : h.Tends h.shutdown := by
  have down : h.Tends { h with isShutDown := true } :=
    ⟨rfl, Nat.le_refl _, Nat.le_refl _, fun _ => id⟩
  exact down.trans (tends_closeAll h.names.keys _)

end Hub

theorem Guests.run_tends (move : Guests.Move) (h : Hub) (g : Guests) :
    h.Tends (move.run (h, g)).1 := by
  cases move with
  | openChannel name =>
    have opened := Hub.tends_openChannel h name
    unfold Move.run
    dsimp only
    split
    all_goals
      rename_i reached
      rw [reached] at opened
      exact opened
  | subscribe name =>
    have subscribed := Hub.tends_subscribe h name
    unfold Move.run
    dsimp only
    split
    all_goals
      rename_i reached
      rw [reached] at subscribed
      exact subscribed
  | publish name m => exact Hub.tends_publish h name m
  | close name => exact Hub.tends_close h name
  | shutdown => exact Hub.tends_shutdown h
  | attach i label =>
    unfold Move.run
    dsimp only
    split
    · exact .refl h
    · exact Hub.tends_attach h _ label
  | send i m =>
    unfold Move.run
    dsimp only
    split
    · exact .refl h
    · exact Hub.tends_send h _ m
  | receive i =>
    unfold Move.run
    dsimp only
    split
    · exact .refl h
    · exact Hub.tends_receive h _
  | dropSender i =>
    unfold Move.run
    dsimp only
    split
    · exact .refl h
    · exact Hub.tends_release h _
  | dropSubscription i =>
    unfold Move.run
    dsimp only
    split
    · exact .refl h
    · exact Hub.tends_detach h _

end Switchboard
