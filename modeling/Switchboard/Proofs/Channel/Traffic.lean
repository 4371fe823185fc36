import Switchboard.Proofs.Channel.Guests

/-!
# Traffic on a hub

All that holders of senders and subscriptions may do with a hub. Besides what guests do, they may
look for the sender of a name, duplicate a sender that they hold, and wait for its channel. The hub
stays balanced with what they hold.
-/

namespace Switchboard

inductive Traffic
  | guest (move : Guests.Move)
  | sender (name : String)
  | duplicate (sender : Nat)
  | park (sender : Nat)

namespace Traffic

def step : Hub × Guests → Traffic → Hub × Guests
  | s, guest move => move.run s
  | (h, g), sender name =>
    match h.sender? name with
    | (none, h) => (h, g)
    | (some s, h) => (h, { g with senders := s :: g.senders })
  | (h, g), duplicate i =>
    match g.senders[i]? with
    | none => (h, g)
    | some s =>
      let (s, h) := h.retain s.channel
      (h, { g with senders := s :: g.senders })
  | (h, g), park i =>
    match g.senders[i]? with
    | none => (h, g)
    | some s => ((h.park s).2, g)

/-- A new hub, of which nobody holds anything. -/
def initial (capacity : Nat) : Hub × Guests :=
  (Hub.ofCapacity capacity, {})

def run (moves : List Traffic) (s : Hub × Guests) : Hub × Guests :=
  moves.foldl step s

def closes (name : String) : Traffic :=
  guest (.close name)

def shutsDown : Traffic :=
  guest .shutdown

/-- What is held is what the hub counts. -/
def Sane (s : Hub × Guests) : Prop :=
  s.1.Balanced s.2.holdings

variable {s : Hub × Guests} {h : Hub} {g : Guests} {rest : Holdings} {move : Traffic}
  {moves : List Traffic} {name : String} {n : Nat}

theorem run_append (front rest : List Traffic) (s : Hub × Guests) :
    run (front ++ rest) s = run rest (run front s) :=
  List.foldl_append

theorem hub_openChannel (h : Hub) (g : Guests) (name : String) :
    (step (h, g) (guest (.openChannel name))).1 = (h.openChannel name).2 := by
  unfold step Guests.Move.run
  dsimp only
  rcases h.openChannel name with ⟨_ | s, h'⟩ <;> rfl

theorem hub_subscribe (h : Hub) (g : Guests) (name : String) :
    (step (h, g) (guest (.subscribe name))).1 = (h.subscribe name).2 := by
  unfold step Guests.Move.run
  dsimp only
  rcases h.subscribe name with ⟨_ | sub, h'⟩ <;> rfl

theorem similar_park (h : Hub) (s : Sender) : h.Similar (h.park s).2 := by
  have counted : h.Similar { h with nextTask := h.nextTask + 1 } :=
    ⟨rfl, rfl, rfl, rfl, fun _ => rfl, Iff.rfl⟩
  exact counted.trans (Hub.similar_wait _ _ _)

/-- What a move comes to that no guest makes. -/
inductive Handles (s : Hub × Guests) : Hub × Guests → Prop
  | unmoved : Handles s s
  | retain (n : Nat) (known : (∃ name, s.1.Registered name n) ∨ ⟨n⟩ ∈ s.2.senders) :
    Handles s ((s.1.retain n).2, { s.2 with senders := (s.1.retain n).1 :: s.2.senders })
  | park (x : Sender) : Handles s ((s.1.park x).2, s.2)

theorem step_handles (s : Hub × Guests) (move : Traffic) :
    (∃ m, move = guest m) ∨ Handles s (step s move) := by
  obtain ⟨h, g⟩ := s
  cases move with
  | guest move => exact Or.inl ⟨move, rfl⟩
  | sender name =>
    refine Or.inr ?_
    unfold step Hub.sender?
    dsimp only
    cases named : h.names[name]? with
    | none => exact .unmoved
    | some n => exact .retain n (Or.inl ⟨name, named⟩)
  | duplicate i =>
    refine Or.inr ?_
    unfold step
    dsimp only
    cases found : g.senders[i]? with
    | none => exact .unmoved
    | some x => exact .retain x.channel (Or.inr (List.mem_of_getElem? found))
  | park i =>
    refine Or.inr ?_
    unfold step
    dsimp only
    cases g.senders[i]? with
    | none => exact .unmoved
    | some x => exact .park x

theorem Handles.balanced {left : Hub × Guests} (handles : Handles s left)
    (balanced : s.1.Balanced (s.2.holdings + rest)) :
    left.1.Balanced (left.2.holdings + rest) ∧ s.1.Grows left.1 := by
  cases handles with
  | unmoved => exact ⟨balanced, Hub.Grows.refl s.1⟩
  | retain n known =>
    have known : n < s.1.nextChannel := by
      rcases known with ⟨name, named⟩ | member
      · exact balanced.name_lt named
      · exact balanced.sender_lt (Multiset.mem_add.mpr (Or.inl (Multiset.mem_coe.mpr member)))
    refine ⟨?_, Hub.grows_retain s.1 n⟩
    rw [Guests.holdings_cons_sender, add_assoc]
    exact Hub.balanced_retain balanced known
  | park x =>
    have similar := similar_park s.1 x
    exact ⟨balanced.similar similar, similar.grows⟩

theorem Handles.names {left : Hub × Guests} (handles : Handles s left) :
    left.1.names = s.1.names := by
  cases handles <;> rfl

/-- Every name that is not closed keeps its channel, whoever else holds the `rest`. -/
theorem step_balanced (balanced : s.1.Balanced (s.2.holdings + rest)) (move : Traffic) :
    (step s move).1.Balanced ((step s move).2.holdings + rest) ∧ s.1.Later (step s move).1 ∧
      ((∀ name, move ≠ closes name) → move ≠ shutsDown → s.1.Grows (step s move).1) := by
  rcases step_handles s move with ⟨move, rfl⟩ | handles
  · obtain ⟨kept, later, grows⟩ := Guests.run_balanced balanced move
    refine ⟨kept, later, ?_⟩
    intro open_ up
    refine grows ?_
    cases move with
    | close name => exact open_ name rfl
    | shutdown => exact up rfl
    | _ => trivial
  · obtain ⟨kept, grows⟩ := handles.balanced balanced
    exact ⟨kept, grows.toLater, fun _ _ => grows⟩

theorem step_sane (sane : Sane s) (move : Traffic) : Sane (step s move) ∧
    s.1.Later (step s move).1 ∧ ((∀ name, move ≠ closes name) → move ≠ shutsDown →
      s.1.Grows (step s move).1) := by
  have balanced : s.1.Balanced (s.2.holdings + 0) := by rwa [add_zero]
  have kept := step_balanced balanced move
  rwa [add_zero] at kept

theorem initial_sane (capacity : Nat) : Sane (initial capacity) :=
  Hub.balanced_ofCapacity capacity

theorem run_sane (moves : List Traffic) (sane : Sane s) :
    Sane (run moves s) ∧ s.1.Later (run moves s).1 := by
  refine List.foldlRecOn (motive := fun s' : Hub × Guests => Sane s' ∧ s.1.Later s'.1) moves step
    ⟨sane, Hub.Later.refl s.1⟩ ?_
  rintro s' ⟨sane', later⟩ move _
  obtain ⟨kept, later', -⟩ := step_sane sane' move
  exact ⟨kept, later.trans later'⟩

/-! ### After a shutdown -/

theorem step_down (down : s.1.Down) (move : Traffic) : (step s move).1.Down := by
  rcases step_handles s move with ⟨move, rfl⟩ | handles
  · exact Guests.run_down down move
  · generalize step s move = left at handles ⊢
    cases handles <;> exact ⟨down.shutDown, down.free⟩

theorem run_down (moves : List Traffic) (down : s.1.Down) : (run moves s).1.Down :=
  List.foldlRecOn (motive := fun s' : Hub × Guests => s'.1.Down) moves step down
    fun _ down move _ => step_down down move

theorem down_of_shutdown (member : shutsDown ∈ moves) (s : Hub × Guests) :
    (run moves s).1.Down := by
  obtain ⟨front, rest, rfl⟩ := List.append_of_mem member
  rw [run_append]
  exact run_down rest (s := step (run front s) shutsDown) (Hub.down_shutdown (run front s).1)

end Traffic

end Switchboard
