import Switchboard.Proofs.Channel.Publishing

/-!
# Who wakes a waiting task

A task that waits on a channel is woken by the next message sent into that channel that reaches
somebody, and by the channel losing its name. Nothing else wakes it (`run_wakes`).
-/

namespace Switchboard

namespace Hub

/-- `task` waits on channel `n`. -/
def WaitsOn (h : Hub) (task n : Nat) : Prop :=
  n < h.nextChannel ∧ task ∈ (h.channel n).waiting

/-- `h'` came after `h`, and in between the tasks that waited on a channel in `woken` were woken,
and no others. Tasks that were given their number in between are left out. -/
structure Stirs (h h' : Hub) (woken : Nat → Prop) : Prop where
  nextTask : h.nextTask ≤ h'.nextTask
  ready {task} (apart : task < h.nextTask ∨ h'.nextTask ≤ task) :
    task ∈ h'.ready ↔ task ∈ h.ready ∨ ∃ n, woken n ∧ h.WaitsOn task n
  waits {task n} (apart : task < h.nextTask ∨ h'.nextTask ≤ task) :
    h'.WaitsOn task n ↔ h.WaitsOn task n ∧ ¬ woken n

/-- Nobody was woken between `h` and `h'`. -/
abbrev Rests (h h' : Hub) : Prop :=
  h.Stirs h' fun _ => False

variable {h h' h'' : Hub} {held : Holdings} {woken woken' : Nat → Prop} {name : String} {n : Nat}

theorem Stirs.congr (stirs : h.Stirs h' woken) (same : ∀ n, woken n ↔ woken' n) :
    h.Stirs h' woken' := by
  have equal : woken = woken' := funext fun n => propext (same n)
  exact equal ▸ stirs

theorem Stirs.trans (first : h.Stirs h' woken) (second : h'.Stirs h'' woken') :
    h.Stirs h'' fun n => woken n ∨ woken' n := by
  have := first.nextTask
  have := second.nextTask
  refine ⟨by omega, ?_, ?_⟩
  · intro task apart
    have before (n : Nat) : h'.WaitsOn task n ↔ h.WaitsOn task n ∧ ¬ woken n :=
      first.waits (by omega)
    rw [second.ready (by omega), first.ready (by omega)]
    constructor
    · rintro ((ready | ⟨n, wakes, waits⟩) | ⟨n, wakes, waits⟩)
      · exact Or.inl ready
      · exact Or.inr ⟨n, Or.inl wakes, waits⟩
      · exact Or.inr ⟨n, Or.inr wakes, ((before n).mp waits).1⟩
    · rintro (ready | ⟨n, wakes, waits⟩)
      · exact Or.inl (Or.inl ready)
      · by_cases early : woken n
        · exact Or.inl (Or.inr ⟨n, early, waits⟩)
        · exact Or.inr ⟨n, wakes.resolve_left early, (before n).mpr ⟨waits, early⟩⟩
  · intro task n apart
    rw [second.waits (by omega), first.waits (by omega), not_or, and_assoc]

theorem Stirs.after_rests (second : h'.Stirs h'' woken) (first : h.Rests h') :
    h.Stirs h'' woken :=
  (first.trans second).congr fun _ => or_iff_right id

theorem Stirs.trans_rests (first : h.Stirs h' woken) (second : h'.Rests h'') :
    h.Stirs h'' woken :=
  (first.trans second).congr fun _ => or_iff_left id

/-! ### What rests -/

theorem rests_of_waiting (nextTask : h'.nextTask = h.nextTask) (ready : h'.ready = h.ready)
    (nextChannel : h'.nextChannel = h.nextChannel)
    (waiting : ∀ n, (h'.channel n).waiting = (h.channel n).waiting) : h.Rests h' where
  nextTask := Nat.le_of_eq nextTask.symm
  ready _ := by simp [ready]
  waits _ := by simp [WaitsOn, nextChannel, waiting]

theorem Rests.refl (h : Hub) : h.Rests h :=
  rests_of_waiting rfl rfl rfl fun _ => rfl

theorem rests_counts (h : Hub) (published failed : Nat) :
    h.Rests { h with publishCount := published, sendErrorCount := failed } :=
  rests_of_waiting rfl rfl rfl fun _ => rfl

theorem rests_modifyChannel {f : Channel → Channel}
    (waiting : (f (h.channel n)).waiting = (h.channel n).waiting) :
    h.Rests (h.modifyChannel n f) :=
  rests_of_waiting rfl rfl rfl (field_modifyChannel Channel.waiting waiting)

theorem rests_retain (h : Hub) (n : Nat) : h.Rests (h.retain n).2 :=
  rests_modifyChannel (f := fun c => { c with senders := c.senders + 1 }) rfl

theorem rests_release (h : Hub) (s : Sender) : h.Rests (h.release s) :=
  rests_modifyChannel rfl

theorem rests_attach (h : Hub) (s : Sender) (label : String) : h.Rests (h.attach s label).2 := by
  refine rests_of_waiting rfl rfl rfl ?_
  intro n
  rw [channel_attach]
  split
  · rename_i same
    rw [same]
  · rfl

theorem rests_detach (h : Hub) (sub : Subscription) : h.Rests (h.detach sub) :=
  rests_modifyChannel rfl

theorem rests_receive (h : Hub) (sub : Subscription) : h.Rests (h.receive sub).2 := by
  refine rests_modifyChannel (f := fun c => (c.receive sub.number).2) ?_
  unfold Channel.receive
  split <;> rfl

/-- Nobody waits on a new channel yet. -/
theorem rests_register (h : Hub) (name : String) : h.Rests (h.register name).2 where
  nextTask := Nat.le_refl _
  ready _ := by simp [register]
  waits {task n} _ := by
    rw [not_false_eq_true, and_true]
    unfold WaitsOn
    rw [channel_register]
    change n < h.nextChannel + 1 ∧ _ ↔ _
    split
    · rename_i same
      subst same
      simp
    · rename_i differs
      refine and_congr_left fun _ => ?_
      omega

theorem rests_openChannel (h : Hub) (name : String) : h.Rests (h.openChannel name).2 := by
  unfold openChannel
  split
  · exact Rests.refl h
  · dsimp only
    split
    · exact rests_retain h _
    · exact (rests_retain _ _).after_rests (rests_register h name)

theorem rests_subscribe (h : Hub) (name : String) : h.Rests (h.subscribe name).2 := by
  have opened := rests_openChannel h name
  unfold subscribe
  generalize h.openChannel name = result at opened
  rcases result with ⟨_ | s, h'⟩
  · exact opened
  · exact (rests_release _ s).after_rests ((rests_attach h' s name).after_rests opened)

theorem waiting_park (h : Hub) (s : Sender) (n : Nat) : ((h.park s).2.channel n).waiting =
    if s.channel = n then (h.channel n).waiting ++ [h.nextTask] else (h.channel n).waiting := by
  unfold park wait
  rw [channel_modifyChannel]
  split
  · rename_i same
    rw [same]
    rfl
  · rfl

/-- A task that comes to wait disturbs none of those that were there. -/
theorem rests_park (h : Hub) (s : Sender) : h.Rests (h.park s).2 where
  nextTask := Nat.le_succ _
  ready _ := by simp [park, wait, modifyChannel, setChannel]
  waits {task n} apart := by
    have differs : task ≠ h.nextTask := by
      change task < h.nextTask ∨ h.nextTask + 1 ≤ task at apart
      omega
    rw [not_false_eq_true, and_true]
    unfold WaitsOn
    rw [waiting_park]
    refine and_congr Iff.rfl ?_
    split
    · simp [differs]
    · rfl

/-! ### What wakes -/

theorem stirs_wake (known : n < h.nextChannel) : h.Stirs (h.wake n) (· = n) where
  nextTask := Nat.le_refl _
  ready {task} _ := by
    change task ∈ h.ready ++ (h.channel n).waiting ↔ _
    rw [List.mem_append]
    refine or_congr Iff.rfl ⟨fun waits => ⟨n, rfl, known, waits⟩, ?_⟩
    rintro ⟨n, rfl, -, waits⟩
    exact waits
  waits {task k} _ := by
    unfold WaitsOn
    rw [channel_wake]
    change k < h.nextChannel ∧ _ ↔ _
    split
    · rename_i same
      simp [same]
    · rename_i differs
      simp [Ne.symm differs]

theorem stirs_send (known : n < h.nextChannel) (m : Message) :
    h.Stirs (h.send n m).2 fun k => k = n ∧ 0 < (h.channel n).receiverCount := by
  by_cases nobody : (h.channel n).receiverCount = 0
  · rw [send_of_nobody nobody]
    refine (Rests.refl h).congr ?_
    intro k
    simp [nobody]
  · have put : h.Rests (h.setChannel n ((h.channel n).broadcast h.slots m)) :=
      rests_modifyChannel (f := fun c => c.broadcast h.slots m) rfl
    unfold send
    dsimp only
    rw [if_neg nobody]
    refine ((stirs_wake (h := h.setChannel n _) known).after_rests put).congr ?_
    intro k
    rw [and_iff_left (Nat.pos_of_ne_zero nobody)]

theorem stirs_publish (balanced : h.Balanced held) (name : String) (m : Message) :
    h.Stirs (h.publish name m).2 fun n => h.Registered name n ∧ 0 < (h.publish name m).1 := by
  have counted : h.Rests { h with publishCount := h.publishCount + 1 } := rests_counts h _ _
  rw [reached_publish]
  unfold receiverCount
  rcases Option.eq_none_or_eq_some h.names[name]? with named | ⟨n, named⟩
  · rw [publish_of_free named, named]
    refine (rests_counts h _ _).congr ?_
    intro n
    simp
  · have sent := (stirs_send (h := { h with publishCount := h.publishCount + 1 })
      (balanced.name_lt named) m).after_rests counted
    have left : h.Stirs (h.publish name m).2 fun k =>
        k = n ∧ 0 < (h.channel n).receiverCount := by
      rw [publish_of_registered named]
      generalize send { h with publishCount := h.publishCount + 1 } n m = result at sent
      rcases result with ⟨_ | _, h'⟩
      · exact sent.trans_rests (rests_counts h' _ _)
      · exact sent
    rw [named]
    refine left.congr ?_
    intro k
    rw [Registered, named, Option.some.injEq, eq_comm]

theorem stirs_close (balanced : h.Balanced held) (name : String) :
    h.Stirs (h.close name).2 (h.Registered name) := by
  rcases Option.eq_none_or_eq_some h.names[name]? with named | ⟨n, named⟩
  · rw [close_of_free named]
    refine (Rests.refl h).congr ?_
    intro n
    simp [Registered, named]
  · let unnamed : Hub := { h with names := h.names.erase name }
    have rests : h.Rests unnamed := rests_of_waiting rfl rfl rfl fun _ => rfl
    have released := (rests_release unnamed ⟨n⟩).after_rests rests
    have woke := stirs_wake (h := unnamed.release ⟨n⟩) (balanced.name_lt named)
    unfold close
    rw [named]
    refine (woke.after_rests released).congr ?_
    intro k
    rw [Registered, named, Option.some.injEq, eq_comm]

theorem stirs_closeAll (names : List String) : ∀ {h : Hub}, h.Balanced held →
    h.Stirs (names.foldl (fun h name => (h.close name).2) h) fun n =>
      ∃ name ∈ names, h.Registered name n := by
  induction names with
  | nil =>
    intro h balanced
    refine (Rests.refl h).congr ?_
    simp
  | cons name rest ih =>
    intro h balanced
    have first := stirs_close balanced name
    have others := ih (balanced_close balanced name)
    refine (first.trans others).congr ?_
    intro n
    simp only [List.mem_cons, exists_eq_or_imp, Registered, names_close]
    by_cases named : h.names[name]? = some n
    · simp [named]
    · -- what is registered under another name is not touched by the first close
      refine or_congr Iff.rfl (exists_congr fun other => and_congr Iff.rfl ?_)
      split
      · rename_i same
        subst same
        simp [named]
      · rfl

theorem stirs_shutdown (balanced : h.Balanced held) :
    h.Stirs h.shutdown fun n => ∃ name, h.Registered name n := by
  have down : h.Rests { h with isShutDown := true } :=
    rests_of_waiting rfl rfl rfl fun _ => rfl
  refine ((stirs_closeAll h.names.keys balanced.refusing).after_rests down).congr ?_
  intro n
  constructor
  · rintro ⟨name, -, named⟩
    exact ⟨name, named⟩
  · rintro ⟨name, named⟩
    refine ⟨name, Std.ExtTreeMap.mem_keys.mpr ?_, named⟩
    exact Std.ExtTreeMap.mem_iff_isSome_getElem?.mpr (Option.isSome_iff_exists.mpr ⟨n, named⟩)

end Hub

namespace Traffic

/-- The move wakes the tasks that wait on channel `n`. -/
inductive Wakes (n : Nat) (s : Hub × Guests) : Traffic → Prop
  /-- A message sent into the channel reaches somebody. -/
  | send {i x m reached} (holds : s.2.senders[i]? = some x) (same : x.channel = n)
    (reaches : (s.1.sendThrough x m).1 = .ok reached) : Wakes n s (guest (.send i m))
  /-- A message published under the name of the channel reaches somebody. -/
  | publish {name m} (named : s.1.Registered name n) (reaches : 0 < (s.1.publish name m).1) :
    Wakes n s (guest (.publish name m))
  /-- The channel loses its name. -/
  | close {name} (named : s.1.Registered name n) : Wakes n s (closes name)
  | shutdown {name} (named : s.1.Registered name n) : Wakes n s shutsDown

variable {s : Hub × Guests} {move : Traffic} {n task : Nat}

/-- What becomes of a name is of no concern to the tasks of another channel. -/
theorem not_wakes_of_publish {name : String} {m : Message} (apart : ¬ s.1.Registered name n) :
    ¬ (guest (.publish name m)).Wakes n s := by
  rintro ⟨⟩
  exact apart ‹_›

theorem not_wakes_of_close {name : String} (apart : ¬ s.1.Registered name n) :
    ¬ (closes name).Wakes n s := by
  rintro ⟨⟩
  exact apart ‹_›

theorem sendThrough_ok (h : Hub) (x : Sender) (m : Message) :
    (∃ reached, (h.sendThrough x m).1 = .ok reached) ↔
      0 < (h.channel x.channel).receiverCount := by
  unfold Hub.sendThrough Hub.send
  dsimp only
  split <;> simp <;> omega

theorem Handles.rests {left : Hub × Guests} (handles : Handles s left) : s.1.Rests left.1 := by
  cases handles with
  | unmoved => exact Hub.Rests.refl s.1
  | retain n => exact Hub.rests_retain s.1 n
  | park x => exact Hub.rests_park s.1 x

theorem step_stirs (sane : Sane s) (move : Traffic) :
    s.1.Stirs (step s move).1 fun n => move.Wakes n s := by
  have quiet (rests : s.1.Rests (step s move).1) (never : ∀ n, ¬ move.Wakes n s) :
      s.1.Stirs (step s move).1 fun n => move.Wakes n s :=
    rests.congr fun n => (iff_false_intro (never n)).symm
  obtain ⟨h, g⟩ := s
  have beyond := step_handles (h, g) move
  cases move with
  | guest move =>
    cases move with
    | openChannel name =>
      refine quiet ?_ nofun
      rw [hub_openChannel]
      exact Hub.rests_openChannel h name
    | subscribe name =>
      refine quiet ?_ nofun
      rw [hub_subscribe]
      exact Hub.rests_subscribe h name
    | publish name m =>
      refine (Hub.stirs_publish sane name m).congr ?_
      intro n
      constructor
      · rintro ⟨named, reaches⟩
        exact .publish named reaches
      · rintro ⟨⟩
        exact ⟨‹_›, ‹_›⟩
    | close name =>
      refine (Hub.stirs_close sane name).congr ?_
      intro n
      constructor
      · exact .close
      · rintro ⟨⟩
        assumption
    | shutdown =>
      refine (Hub.stirs_shutdown sane).congr ?_
      intro n
      constructor
      · rintro ⟨name, named⟩
        exact .shutdown named
      · rintro ⟨⟩
        exact ⟨_, ‹_›⟩
    | send i m =>
      cases holds : g.senders[i]? with
      | none =>
        refine quiet ?_ ?_
        · unfold step Guests.Move.run
          dsimp only
          rw [holds]
          exact Hub.Rests.refl h
        · rintro n ⟨holds', -, -⟩
          cases holds.symm.trans holds'
      | some x =>
        have known : x.channel < h.nextChannel :=
          sane.sender_lt (Multiset.mem_coe.mpr (List.mem_of_getElem? holds))
        have moved : (step (h, g) (guest (.send i m))).1 = (h.send x.channel m).2 := by
          unfold step Guests.Move.run
          dsimp only
          rw [holds]
        rw [moved]
        refine (Hub.stirs_send known m).congr ?_
        intro n
        constructor
        · rintro ⟨rfl, somebody⟩
          obtain ⟨reached, reaches⟩ := (sendThrough_ok h x m).mpr somebody
          exact .send holds rfl reaches
        · rintro ⟨holds', same, reaches⟩
          obtain rfl := Option.some.inj (holds.symm.trans holds')
          exact ⟨same.symm, (sendThrough_ok h x m).mp ⟨_, reaches⟩⟩
    | attach i label =>
      refine quiet ?_ nofun
      unfold step Guests.Move.run
      dsimp only
      split
      · exact Hub.Rests.refl h
      · exact Hub.rests_attach h _ label
    | receive i =>
      refine quiet ?_ nofun
      unfold step Guests.Move.run
      dsimp only
      split
      · exact Hub.Rests.refl h
      · exact Hub.rests_receive h _
    | dropSender i =>
      refine quiet ?_ nofun
      unfold step Guests.Move.run
      dsimp only
      split
      · exact Hub.Rests.refl h
      · exact Hub.rests_release h _
    | dropSubscription i =>
      refine quiet ?_ nofun
      unfold step Guests.Move.run
      dsimp only
      split
      · exact Hub.Rests.refl h
      · exact Hub.rests_detach h _
  | sender _ | duplicate _ | park _ =>
    obtain ⟨_, ⟨⟩⟩ | handles := beyond
    exact quiet handles.rests nofun

/-! ### A run -/

/-- No task has had the number `task` so far. -/
def Unused (h : Hub) (task : Nat) : Prop :=
  task ∉ h.ready ∧ ∀ n, ¬ h.WaitsOn task n

theorem run_unused (capacity : Nat) (moves : List Traffic) :
    let s := run moves (initial capacity)
    ∀ task, s.1.nextTask ≤ task → Unused s.1 task := by
  induction moves using List.reverseRecOn with
  | nil =>
    intro s task _
    refine ⟨List.not_mem_nil, ?_⟩
    rintro n ⟨known, -⟩
    exact absurd known (Nat.not_lt_zero n)
  | append_singleton moves move ih =>
    intro s task new
    have last : s = step (run moves (initial capacity)) move := run_append moves [move] _
    have stirs := step_stirs (run_sane moves (initial_sane capacity)).1 move
    rw [← last] at stirs
    obtain ⟨asleep, nowhere⟩ := ih task (Nat.le_trans stirs.nextTask new)
    refine ⟨?_, ?_⟩
    · rw [stirs.ready (Or.inr new)]
      rintro (ready | ⟨n, -, waits⟩)
      · exact asleep ready
      · exact nowhere n waits
    · intro n waits
      exact nowhere n ((stirs.waits (Or.inr new)).mp waits).1

/-- Some move wakes the tasks that wait on channel `n`. -/
def Woken (n : Nat) (s : Hub × Guests) (moves : List Traffic) : Prop :=
  ∃ front move since, moves = front ++ move :: since ∧ move.Wakes n (run front s)

theorem woken_append (s : Hub × Guests) (moves : List Traffic) (move : Traffic) :
    Woken n s (moves ++ [move]) ↔ Woken n s moves ∨ move.Wakes n (run moves s) := by
  constructor
  · rintro ⟨front, first, since, split, wakes⟩
    rcases split_concat split with ⟨-, rfl, rfl⟩ | ⟨rest, rfl⟩
    · exact Or.inr wakes
    · exact Or.inl ⟨front, first, rest, rfl, wakes⟩
  · rintro (⟨front, first, since, rfl, wakes⟩ | wakes)
    · exact ⟨front, first, since ++ [move], by simp, wakes⟩
    · exact ⟨moves, move, [], rfl, wakes⟩

/-- `task` waits on channel `n` and nowhere else, or was woken if `woken` holds. -/
structure Awaits (h : Hub) (task n : Nat) (woken : Prop) : Prop where
  used : task < h.nextTask
  ready : task ∈ h.ready ↔ woken
  waits (k : Nat) : h.WaitsOn task k ↔ k = n ∧ ¬ woken

theorem run_awaits (sane : Sane s) (begun : Awaits s.1 task n False) (moves : List Traffic) :
    Awaits (run moves s).1 task n (Woken n s moves) := by
  induction moves using List.reverseRecOn with
  | nil =>
    have nothing : ¬ Woken n s [] := by
      rintro ⟨front, move, since, split, -⟩
      exact List.append_ne_nil_of_right_ne_nil front (List.cons_ne_nil move since) split.symm
    rwa [eq_false nothing]
  | append_singleton moves move ih =>
    have stirs := step_stirs (run_sane moves sane).1 move
    have last : run (moves ++ [move]) s = step (run moves s) move := run_append moves [move] s
    rw [last]
    refine ⟨Nat.lt_of_lt_of_le ih.used stirs.nextTask, ?_, ?_⟩
    · rw [stirs.ready (Or.inl ih.used), ih.ready, woken_append]
      simp only [ih.waits]
      constructor
      · rintro (already | ⟨_, wakes, rfl, -⟩)
        · exact Or.inl already
        · exact Or.inr wakes
      · rintro (already | wakes)
        · exact Or.inl already
        · by_cases already : Woken n s moves
          · exact Or.inl already
          · exact Or.inr ⟨n, wakes, rfl, already⟩
    · intro k
      rw [stirs.waits (Or.inl ih.used), ih.waits, woken_append, not_or, and_assoc]
      refine and_congr_right ?_
      rintro rfl
      rfl

theorem awaits_park {x : Sender} (known : x.channel < s.1.nextChannel)
    (unused : Unused s.1 s.1.nextTask) :
    Awaits (s.1.park x).2 s.1.nextTask x.channel False := by
  obtain ⟨asleep, nowhere⟩ := unused
  refine ⟨Nat.lt_succ_self _, iff_false_intro asleep, ?_⟩
  intro k
  rw [not_false_eq_true, and_true]
  unfold Hub.WaitsOn
  rw [Hub.waiting_park]
  split
  · rename_i same
    exact iff_of_true ⟨same ▸ known, List.mem_append_right _ List.mem_cons_self⟩ same.symm
  · rename_i differs
    exact iff_of_false (nowhere k) (Ne.symm differs)

/-- Over every run of a hub, a task that came to wait through a sender was woken if and only if,
since then, a message was sent into the channel of that sender and reached somebody, or the channel
lost its name. The sender itself may have been given back before. -/
theorem run_wakes (capacity : Nat) (before since : List Traffic) {x : Sender}
    (known : x.channel < (run before (initial capacity)).1.nextChannel) :
    let s := run before (initial capacity)
    let start := ((s.1.park x).2, s.2)
    (run since start).1.isReady (s.1.park x).1 = true ↔
      ∃ front move rest, since = front ++ move :: rest ∧
        move.Wakes x.channel (run front start) := by
  intro s start
  have sane : Sane s := (run_sane before (initial_sane capacity)).1
  have parked : Sane start := sane.similar (similar_park s.1 x)
  have unused := run_unused capacity before s.1.nextTask (Nat.le_refl _)
  have awaits := run_awaits parked (awaits_park known unused) since
  rw [Hub.isReady, List.contains_iff_mem]
  exact awaits.ready

/-- A task that waits on a channel which was closed and whose name leads to another one by now is
not woken by what becomes of the name, but by a message sent through the old sender. -/
theorem run_wakes_orphaned :
    let m : Message := { id := ⟨7⟩, destination := "r", body := [], timestamp := 0 }
    let before : List Traffic := [guest (.openChannel "r"), guest (.subscribe "r"), closes "r",
      guest (.openChannel "r"), guest (.subscribe "r")]
    let elsewhere : List Traffic := [guest (.publish "r" m), closes "r"]
    let s := run before (initial 4)
    let start := ((s.1.park ⟨0⟩).2, s.2)
    0 < s.1.nextChannel ∧
      (run elsewhere start).1.isReady (s.1.park ⟨0⟩).1 = false ∧
      (run (elsewhere ++ [guest (.send 1 m)]) start).1.isReady (s.1.park ⟨0⟩).1 = true := by
  intro m before elsewhere s start
  have known : 0 < s.1.nextChannel := by decide +kernel
  have unnamed : ¬ start.1.Registered "r" 0 := by decide +kernel
  have unnamed' : ¬ (run [guest (.publish "r" m)] start).1.Registered "r" 0 := by decide +kernel
  have holds : (run elsewhere start).2.senders[1]? = some ⟨0⟩ := by decide +kernel
  have reaches : ((run elsewhere start).1.sendThrough ⟨0⟩ m).1 = .ok 1 := rfl
  have quiet : (run elsewhere start).1.isReady (s.1.park ⟨0⟩).1 = true → ∃ front move rest,
      elsewhere = front ++ move :: rest ∧ move.Wakes 0 (run front start) :=
    (run_wakes 4 before elsewhere known).mp
  have loud : (run (elsewhere ++ [guest (.send 1 m)]) start).1.isReady (s.1.park ⟨0⟩).1 = true :=
    (run_wakes 4 before _ known).mpr
      ⟨elsewhere, guest (.send 1 m), [], rfl, .send holds rfl reaches⟩
  clear_value s start
  refine ⟨known, ?_, loud⟩
  rw [Bool.eq_false_iff]
  intro woken
  obtain ⟨front, move, rest, split, wakes⟩ := quiet woken
  change [guest (.publish "r" m), closes "r"] = front ++ move :: rest at split
  rcases front with _ | ⟨first, _ | ⟨second, front⟩⟩
  · cases split
    exact not_wakes_of_publish unnamed wakes
  · cases split
    exact not_wakes_of_close unnamed' wakes
  · simp at split

end Traffic

end Switchboard
