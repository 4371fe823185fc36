import Switchboard.Proofs.Channel.Holdings

/-!
# Opening and closing channels

What becomes of names and of the balance of a hub when channels are opened, closed and opened
again. A sender of a closed channel keeps its channel apart from the one opened later under the
same name.
-/

namespace Switchboard.Hub

variable {h : Hub} {held : Holdings} {name : String} {n : Nat} {s : Sender} {sub : Subscription}

/-! ### Opening -/

theorem registered_register {other : String} : (h.register name).2.Registered other n ↔
    (other = name ∧ n = h.nextChannel) ∨ (other ≠ name ∧ h.Registered other n) := by
  simp only [Registered, register, Std.ExtTreeMap.getElem?_insert,
    Std.LawfulEqCmp.compare_eq_iff_eq]
  split
  · rename_i same
    simp only [same, true_and, ne_eq, not_true_eq_false, false_and, or_false, Option.some.injEq,
      eq_comm]
  · rename_i differs
    simp only [Ne.symm differs, false_and, false_or, ne_eq, not_false_eq_true, true_and]

theorem channel_register (h : Hub) (name : String) (n : Nat) : (h.register name).2.channel n =
    if h.nextChannel = n then { senders := 1 } else h.channel n :=
  channel_setChannel h h.nextChannel n { senders := 1 }

theorem grows_register (free : h.names[name]? = none) : Grows h (h.register name).2 where
  names named := by
    rcases registered_register.mp named with ⟨-, rfl⟩ | ⟨-, old⟩
    · exact Or.inr (Nat.le_refl _)
    · exact Or.inl old
  next_le := Nat.le_succ _
  kept {other n} named := by
    refine registered_register.mpr (Or.inr ⟨?_, named⟩)
    rintro rfl
    rw [Registered, free] at named
    cases named
  shutDown := rfl

theorem balanced_register (balanced : Balanced h held) (free : h.names[name]? = none) :
    Balanced (h.register name).2 held := by
  have unknown : held.1.count ⟨h.nextChannel⟩ = 0 := by
    rw [Multiset.count_eq_zero]
    intro live
    exact Nat.lt_irrefl _ (balanced.sender_lt live)
  refine ⟨?_, ?_, ?_, balanced.distinct, balanced.number_lt, ?_, ?_, ?_, ?_⟩
  · intro other n named
    rw [channel_register]
    rcases registered_register.mp named with ⟨-, rfl⟩ | ⟨-, old⟩
    · rw [if_pos rfl, unknown]
    · rw [if_neg (Nat.ne_of_gt (balanced.name_lt old)), balanced.registered old]
  · intro n unnamed
    have other : h.nextChannel ≠ n := by
      rintro rfl
      exact unnamed name (registered_register.mpr (Or.inl ⟨rfl, rfl⟩))
    rw [channel_register, if_neg other, balanced.unregistered]
    intro m named
    exact unnamed m ((grows_register free).kept named)
  · intro n k
    rw [channel_register]
    split
    · rename_i same
      constructor
      · intro found
        exact absurd found Std.ExtTreeMap.not_mem_empty
      · rintro ⟨sub, live, rfl, -⟩
        exact absurd (balanced.subscription_lt live) (by omega)
    · exact balanced.inboxes
  · intro sub live
    exact Nat.lt_succ_of_lt (balanced.subscription_lt live)
  · intro s live
    exact Nat.lt_succ_of_lt (balanced.sender_lt live)
  · intro m n named
    rcases registered_register.mp named with ⟨-, rfl⟩ | ⟨-, old⟩
    · exact Nat.lt_succ_self _
    · exact Nat.lt_succ_of_lt (balanced.name_lt old)
  · intro m m' n first second
    rcases registered_register.mp first with ⟨rfl, rfl⟩ | ⟨-, old⟩ <;>
      rcases registered_register.mp second with ⟨rfl, same⟩ | ⟨-, old'⟩
    · rfl
    · exact absurd (balanced.name_lt old') (Nat.lt_irrefl _)
    · exact absurd (balanced.name_lt old) (by omega)
    · exact balanced.injective old old'

/-- What asking for a channel by name comes to: nothing, or something that holds `own` of the hub
and belongs to the channel registered under the name. -/
inductive Granted {α : Type} (own : α → Holdings) (channel : α → Nat) (h : Hub) (name : String)
    (held : Holdings) : Except ResourceError α × Hub → Prop
  | refused (e : ResourceError) (down : h.isShutDown = true) :
      Granted own channel h name held (.error e, h)
  | granted {a h'} (up : h.isShutDown = false) (balanced : Balanced h' (own a + held))
      (grows : Grows h h') (named : h'.Registered name (channel a)) :
      Granted own channel h name held (.ok a, h')

theorem granted_openChannel (balanced : Balanced h held) (name : String) :
    Granted .sender Sender.channel h name held (h.openChannel name) := by
  unfold openChannel
  split
  · rename_i down
    exact .refused _ down
  · rename_i up
    have up : h.isShutDown = false := by simpa using up
    dsimp only
    cases named : h.names[name]? with
    | some n =>
      exact .granted up (balanced_retain balanced (balanced.name_lt named)) (grows_retain h n) named
    | none =>
      have grows := grows_register (h := h) named
      have known : (h.register name).2.Registered name h.nextChannel :=
        registered_register.mpr (Or.inl ⟨rfl, rfl⟩)
      exact .granted up
        (balanced_retain (balanced_register balanced named) (Nat.lt_succ_self _))
        (grows.trans (grows_retain _ _)) known

/-- A subscription asked for by name leaves no sender behind. -/
theorem granted_subscribe (balanced : Balanced h held) (name : String) :
    Granted .subscription Subscription.channel h name held (h.subscribe name) := by
  have opened := granted_openChannel balanced name
  unfold subscribe
  generalize h.openChannel name = result at opened
  cases opened with
  | refused e down => exact .refused e down
  | @granted s h' up balanced grows named =>
    have known := balanced.sender_lt (s := s) (by simp)
    have attached := balanced_attach balanced known name
    rw [add_left_comm] at attached
    exact .granted up (balanced_release attached)
      ((grows.trans (grows_attach h' s name)).trans (grows_release _ s)) named

/-! ### Closing -/

theorem registered_erase {other : String} :
    { h with names := h.names.erase name }.Registered other n ↔
      other ≠ name ∧ h.Registered other n := by
  simp only [Registered, Std.ExtTreeMap.getElem?_erase, Std.LawfulEqCmp.compare_eq_iff_eq]
  split
  · rename_i same
    simp [same]
  · rename_i differs
    simp [Ne.symm differs]

theorem registered_close {n' : Nat} (named : h.Registered name n) {other : String} :
    (h.close name).2.Registered other n' ↔ other ≠ name ∧ h.Registered other n' := by
  unfold close
  rw [named]
  exact registered_erase

theorem close_of_free (free : h.names[name]? = none) : h.close name = (false, h) := by
  unfold close
  rw [free]

theorem later_close (h : Hub) (name : String) : Later h (h.close name).2 := by
  cases named : h.names[name]? with
  | none =>
    rw [close_of_free named]
    exact Later.refl h
  | some n =>
    refine ⟨?_, ?_⟩
    · intro other n' kept
      exact Or.inl ((registered_close named).mp kept).2
    · unfold close
      rw [named]
      exact Nat.le_refl _

theorem isShutDown_close (h : Hub) (name : String) :
    (h.close name).2.isShutDown = h.isShutDown := by
  unfold close
  split <;> rfl

/-- The registry hands its own sender over. -/
theorem balanced_unregister (balanced : Balanced h held) (named : h.Registered name n) :
    Balanced { h with names := h.names.erase name } (.sender ⟨n⟩ + held) := by
  refine ⟨?_, ?_, ?_, ?_, ?_, ?_, ?_, ?_, ?_⟩
  · intro other n' kept
    obtain ⟨differs, old⟩ := registered_erase.mp kept
    have before := balanced.registered old
    have apart : n ≠ n' := fun same => differs (balanced.injective old (same ▸ named))
    simpa [channel, Multiset.count_singleton, apart.symm] using before
  · intro n' free
    by_cases same : n' = n
    · subst same
      have before := balanced.registered named
      simpa [channel, Nat.add_comm] using before
    · have before := balanced.unregistered (n := n') fun other old => by
        refine free other (registered_erase.mpr ⟨?_, old⟩)
        rintro rfl
        rw [Registered, named] at old
        exact same (Option.some.inj old).symm
      simpa [channel, Multiset.count_singleton, same] using before
  · intro n' k
    have before := balanced.inboxes (n := n') (k := k)
    simpa [channel] using before
  · simpa using balanced.distinct
  · intro sub live
    exact balanced.number_lt (by simpa using live)
  · intro sub live
    exact balanced.subscription_lt (by simpa using live)
  · intro s live
    rcases Multiset.mem_add.mp live with new | old
    · rw [Multiset.mem_singleton.mp new]
      exact balanced.name_lt named
    · exact balanced.sender_lt old
  · intro other n' kept
    exact balanced.name_lt (registered_erase.mp kept).2
  · intro other other' n' first second
    exact balanced.injective (registered_erase.mp first).2 (registered_erase.mp second).2

theorem balanced_close (balanced : Balanced h held) (name : String) :
    Balanced (h.close name).2 held := by
  cases named : h.names[name]? with
  | none =>
    rw [close_of_free named]
    exact balanced
  | some n =>
    unfold close
    rw [named]
    exact (balanced_release (balanced_unregister balanced named)).similar (similar_wake _ n)

theorem balanced_closeAll (names : List String) :
    ∀ {h : Hub}, Balanced h held →
      Balanced (names.foldl (fun h name => (h.close name).2) h) held ∧
        Later h (names.foldl (fun h name => (h.close name).2) h) := by
  induction names with
  | nil =>
    intro h balanced
    exact ⟨balanced, Later.refl h⟩
  | cons name rest ih =>
    intro h balanced
    obtain ⟨kept, later⟩ := ih (balanced_close balanced name)
    exact ⟨kept, (later_close h name).trans later⟩

theorem Balanced.refusing (balanced : Balanced h held) :
    Balanced { h with isShutDown := true } held :=
  ⟨balanced.registered, balanced.unregistered, balanced.inboxes, balanced.distinct,
    balanced.number_lt, balanced.subscription_lt, balanced.sender_lt, balanced.name_lt,
    balanced.injective⟩

theorem balanced_shutdown (balanced : Balanced h held) :
    Balanced h.shutdown held ∧ Later h h.shutdown := by
  obtain ⟨kept, later⟩ := balanced_closeAll h.names.keys balanced.refusing
  exact ⟨kept, (⟨Or.inl, Nat.le_refl _⟩ : Later h { h with isShutDown := true }).trans later⟩

/-! ### After a shutdown -/

/-- The hub was shut down: no channel is registered, and none can be opened. -/
structure Down (h : Hub) : Prop where
  shutDown : h.isShutDown = true
  free (name : String) : h.names[name]? = none

theorem Down.similar {h' : Hub} (down : h.Down) (similar : Similar h h') : h'.Down where
  shutDown := similar.shutDown.trans down.shutDown
  free name := by
    rw [similar.names]
    exact down.free name

theorem Down.openChannel (down : h.Down) (name : String) :
    ∃ reason, h.openChannel name = (.error (.unavailable reason), h) := by
  unfold Hub.openChannel
  rw [if_pos down.shutDown]
  exact ⟨_, rfl⟩

theorem Down.subscribe (down : h.Down) (name : String) :
    ∃ reason, h.subscribe name = (.error (.unavailable reason), h) := by
  obtain ⟨reason, refused⟩ := down.openChannel name
  unfold Hub.subscribe
  rw [refused]
  exact ⟨reason, rfl⟩

theorem Down.publish (down : h.Down) (name : String) (m : Message) :
    (h.publish name m).1 = 0 := by
  have free : ({ h with publishCount := h.publishCount + 1 } : Hub).names[name]? = none :=
    down.free name
  unfold Hub.publish
  dsimp only
  rw [free]

theorem names_close (h : Hub) (name other : String) :
    (h.close name).2.names[other]? = if name = other then none else h.names[other]? := by
  cases named : h.names[name]? with
  | none =>
    rw [close_of_free named]
    split
    · rename_i same
      exact same ▸ named
    · rfl
  | some n =>
    unfold close
    rw [named]
    change (h.names.erase name)[other]? = _
    simp only [Std.ExtTreeMap.getElem?_erase, Std.LawfulEqCmp.compare_eq_iff_eq]

theorem names_closeAll (names : List String) : ∀ (h : Hub) (other : String),
    (names.foldl (fun h name => (h.close name).2) h).names[other]? =
      if other ∈ names then none else h.names[other]? := by
  induction names with
  | nil =>
    intro h other
    simp
  | cons name rest ih =>
    intro h other
    rw [List.foldl_cons, ih, names_close]
    by_cases same : name = other
    · simp [same]
    · simp [same, Ne.symm same]

theorem isShutDown_closeAll (names : List String) : ∀ h : Hub,
    (names.foldl (fun h name => (h.close name).2) h).isShutDown = h.isShutDown := by
  induction names with
  | nil =>
    intro h
    rfl
  | cons name rest ih =>
    intro h
    exact (ih (h.close name).2).trans (isShutDown_close h name)

theorem down_shutdown (h : Hub) : h.shutdown.Down where
  shutDown := isShutDown_closeAll h.names.keys { h with isShutDown := true }
  free name := by
    unfold shutdown
    rw [names_closeAll, ite_eq_left_iff]
    intro unlisted
    exact Std.ExtTreeMap.getElem?_eq_none (mt Std.ExtTreeMap.mem_keys.mpr unlisted)

/-! ### Counting receivers -/

theorem Balanced.keys_eq (balanced : Balanced h held) (n : Nat) :
    (((h.channel n).inboxes.keys : List Nat) : Multiset Nat) =
      (held.2.filter fun sub => sub.channel = n).map Subscription.number := by
  rw [Multiset.Nodup.ext]
  · intro k
    rw [Multiset.mem_coe, Std.ExtTreeMap.mem_keys, balanced.inboxes]
    simp only [Multiset.mem_map, Multiset.mem_filter, and_assoc]
  · exact Multiset.coe_nodup.mpr Std.ExtTreeMap.nodup_keys
  · exact Multiset.nodup_of_le (Multiset.map_le_map (Multiset.filter_le _ _)) balanced.distinct

theorem Balanced.receiverCount_channel (balanced : Balanced h held) (n : Nat) :
    (h.channel n).receiverCount = held.2.countP fun sub => sub.channel = n := by
  have keys := congrArg Multiset.card (balanced.keys_eq n)
  rw [Multiset.coe_card, Std.ExtTreeMap.length_keys, Multiset.card_map,
    ← Multiset.countP_eq_card_filter] at keys
  exact keys

theorem Balanced.receiverCount_of_registered (balanced : Balanced h held)
    (named : h.Registered name n) :
    h.receiverCount name = held.2.countP fun sub => sub.channel = n := by
  unfold receiverCount
  rw [named]
  exact balanced.receiverCount_channel n

theorem receiverCount_of_free (free : h.names[name]? = none) : h.receiverCount name = 0 := by
  unfold receiverCount
  rw [free]

theorem Balanced.isOpen (balanced : Balanced h held) (live : s ∈ held.1) :
    (h.channel s.channel).isOpen = true := by
  have counted := balanced.count_le s.channel
  have some : 0 < held.1.count s := Multiset.count_pos.mpr live
  exact decide_eq_true (Nat.lt_of_lt_of_le some counted)

end Switchboard.Hub
