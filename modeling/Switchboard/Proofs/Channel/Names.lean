import Mathlib.Data.String.Basic
import Switchboard.Proofs.Channel.Traffic

/-!
# Names and channels

A name is registered from the first open or subscribe that succeeds until it is closed, and nothing
is registered after a shutdown. The senders given for one name belong to the same channel as long as
the name is not closed in between, and to different ones otherwise (`run_names`).
-/

namespace Switchboard

namespace Hub

variable {h : Hub} {name other : String} {n : Nat}

theorem contains_iff : h.contains name = true ↔ ∃ n, h.Registered name n := by
  rw [contains, Std.ExtTreeMap.contains_eq_isSome_getElem?, Option.isSome_iff_exists]

theorem names_openChannel (h : Hub) (name other : String) :
    (h.openChannel name).2.names[other]? =
      if name = other ∧ h.isShutDown = false ∧ h.names[name]? = none then some h.nextChannel
      else h.names[other]? := by
  unfold openChannel
  cases h.isShutDown with
  | true => simp
  | false =>
    cases named : h.names[name]? with
    | some n => simp [retain, modifyChannel, setChannel]
    | none =>
      simp [retain, modifyChannel, setChannel, register, Std.ExtTreeMap.getElem?_insert]

theorem openChannel_ok : (∃ s, (h.openChannel name).1 = .ok s) ↔ h.isShutDown = false := by
  unfold openChannel
  cases h.isShutDown <;> simp

theorem names_subscribe (h : Hub) (name : String) :
    (h.subscribe name).2.names = (h.openChannel name).2.names := by
  unfold subscribe
  rcases h.openChannel name with ⟨_ | s, h'⟩ <;> rfl

theorem subscribe_ok : (∃ sub, (h.subscribe name).1 = .ok sub) ↔ h.isShutDown = false := by
  rw [← @openChannel_ok h name]
  unfold subscribe
  rcases h.openChannel name with ⟨_ | s, h'⟩ <;> simp

theorem sender?_isSome (h : Hub) (name : String) :
    (h.sender? name).1.isSome = h.contains name := by
  rw [contains, Std.ExtTreeMap.contains_eq_isSome_getElem?]
  unfold sender?
  cases h.names[name]? <;> rfl

theorem mem_channelNames : name ∈ h.channelNames ↔ h.contains name = true := by
  rw [channelNames, Std.ExtTreeMap.mem_keys, contains, Std.ExtTreeMap.contains_iff_mem]

theorem channelNames_ascending (h : Hub) : h.channelNames.Pairwise (· < ·) := by
  refine Std.ExtTreeMap.ordered_keys.imp ?_
  intro a b before
  exact compareOfLessAndEq_eq_lt.mp before

end Hub

namespace Traffic

/-- The move is an open or a subscribe of `name` that succeeds. -/
def Opens (name : String) (h : Hub) : Traffic → Prop
  | guest (.openChannel other) => other = name ∧ ∃ s, (h.openChannel other).1 = .ok s
  | guest (.subscribe other) => other = name ∧ ∃ sub, (h.subscribe other).1 = .ok sub
  | _ => False

/-- The move gives the sender `s` of the channel that goes by `name`. -/
def Gives (name : String) (s : Sender) (h : Hub) : Traffic → Prop
  | guest (.openChannel other) => other = name ∧ (h.openChannel other).1 = .ok s
  | sender other => other = name ∧ (h.sender? other).1 = some s
  | _ => False

variable {s : Hub × Guests} {move : Traffic} {moves front middle : List Traffic}
  {name other : String} {n : Nat}

/-! ### Which names are registered -/

theorem Opens.up {h : Hub} (opens : move.Opens name h) :
    h.isShutDown = false ∧ (∀ other, move ≠ closes other) ∧ move ≠ shutsDown := by
  cases move with
  | guest move =>
    cases move with
    | openChannel other =>
      exact ⟨Hub.openChannel_ok.mp opens.2, by simp [closes], by simp [shutsDown]⟩
    | subscribe other =>
      exact ⟨Hub.subscribe_ok.mp opens.2, by simp [closes], by simp [shutsDown]⟩
    | _ => exact opens.elim
  | _ => exact opens.elim

theorem spared_of_up (up : (run moves s).1.isShutDown = false) : shutsDown ∉ moves := by
  intro member
  rw [(down_of_shutdown member s).shutDown] at up
  cases up

theorem contains_open (h : Hub) (name other : String) :
    (∃ n, (h.openChannel name).2.Registered other n) ↔
      (name = other ∧ h.isShutDown = false) ∨ ∃ n, h.Registered other n := by
  simp only [Hub.Registered, Hub.names_openChannel]
  by_cases new : name = other ∧ h.isShutDown = false ∧ h.names[name]? = none
  · rw [if_pos new]
    exact iff_of_true ⟨_, rfl⟩ (Or.inl ⟨new.1, new.2.1⟩)
  · rw [if_neg new]
    refine (or_iff_right_of_imp ?_).symm
    rintro ⟨rfl, up⟩
    refine Option.isSome_iff_exists.mp (Option.isSome_iff_ne_none.mpr ?_)
    exact fun free => new ⟨rfl, up, free⟩

theorem contains_step (s : Hub × Guests) (move : Traffic) (name : String) :
    (step s move).1.contains name = true ↔
      (move.Opens name s.1 ∨ s.1.contains name = true) ∧ move ≠ closes name ∧
        move ≠ shutsDown := by
  obtain ⟨h, g⟩ := s
  simp only [Hub.contains_iff]
  have quiet (same : (step (h, g) move).1.names = h.names) (unopened : ¬ move.Opens name h)
      (kept : move ≠ closes name) (up : move ≠ shutsDown) :
      (∃ n, (step (h, g) move).1.Registered name n) ↔
        (move.Opens name h ∨ ∃ n, h.Registered name n) ∧ move ≠ closes name ∧
          move ≠ shutsDown := by
    simp [Hub.Registered, same, unopened, kept, up]
  have beyond := step_handles (h, g) move
  cases move with
  | guest move =>
    cases move with
    | openChannel other =>
      rw [hub_openChannel, contains_open]
      simp [Opens, Hub.openChannel_ok, closes, shutsDown]
    | subscribe other =>
      have opened := contains_open h other name
      rw [hub_subscribe]
      simp only [Hub.Registered, Hub.names_subscribe] at opened ⊢
      rw [opened]
      simp [Opens, Hub.subscribe_ok, closes, shutsDown]
    | close other =>
      have closed : (step (h, g) (guest (.close other))).1.names[name]? =
          if other = name then none else h.names[name]? := Hub.names_close h other name
      simp only [Hub.Registered, closed]
      by_cases same : other = name <;> simp [same, Opens, closes, shutsDown]
    | shutdown =>
      have free : (step (h, g) (guest .shutdown)).1.names[name]? = none :=
        (Hub.down_shutdown h).free name
      simp [Hub.Registered, free, shutsDown]
    | publish other m =>
      exact quiet (Hub.similar_publish h other m).names id (by simp [closes]) (by simp [shutsDown])
    | send i m =>
      refine quiet ?_ id (by simp [closes]) (by simp [shutsDown])
      unfold step Guests.Move.run
      dsimp only
      split
      · rfl
      · exact (Hub.similar_send h _ m).names
    | _ =>
      refine quiet ?_ id (by simp [closes]) (by simp [shutsDown])
      unfold step Guests.Move.run
      dsimp only
      split <;> rfl
  | sender _ | duplicate _ | park _ =>
    obtain ⟨_, ⟨⟩⟩ | handles := beyond
    exact quiet handles.names id (by simp [closes]) (by simp [shutsDown])

/-- Some open or subscribe of `name` succeeded during the moves, and `name` was not closed since. -/
def Opened (name : String) (s : Hub × Guests) (moves : List Traffic) : Prop :=
  ∃ front move since, moves = front ++ move :: since ∧ move.Opens name (run front s).1 ∧
    closes name ∉ since

theorem opened_append (s : Hub × Guests) (moves : List Traffic) (move : Traffic) :
    Opened name s (moves ++ [move]) ↔
      move.Opens name (run moves s).1 ∨ Opened name s moves ∧ move ≠ closes name := by
  constructor
  · rintro ⟨front, first, since, split, opens, kept⟩
    rcases List.eq_nil_or_concat since with rfl | ⟨since, last, rfl⟩
    · obtain ⟨rfl, same⟩ := List.append_inj' split rfl
      cases same
      exact Or.inl opens
    · rw [List.concat_eq_append, ← List.cons_append, ← List.append_assoc] at split
      obtain ⟨rfl, same⟩ := List.append_inj' split rfl
      cases same
      refine Or.inr ⟨⟨front, first, since, rfl, opens, ?_⟩, ?_⟩
      · exact fun member => kept (by simp [member])
      · rintro rfl
        exact kept (by simp)
  · rintro (opens | ⟨⟨front, first, since, rfl, opens, kept⟩, spared⟩)
    · exact ⟨moves, move, [], rfl, opens, List.not_mem_nil⟩
    · refine ⟨front, first, since ++ [move], by simp, opens, ?_⟩
      rw [List.mem_append, List.mem_singleton]
      rintro (old | rfl)
      · exact kept old
      · exact spared rfl

theorem contains_run (free : s.1.contains name = false) (moves : List Traffic) :
    (run moves s).1.contains name = true ↔ Opened name s moves ∧ shutsDown ∉ moves := by
  induction moves using List.reverseRecOn with
  | nil =>
    have unopened : ¬ Opened name s [] := by
      rintro ⟨front, move, since, split, -⟩
      exact List.append_ne_nil_of_right_ne_nil front (List.cons_ne_nil move since) split.symm
    simp [run, free, unopened]
  | append_singleton moves move ih =>
    have last : run (moves ++ [move]) s = step (run moves s) move := run_append moves [move] s
    rw [last, contains_step, ih, opened_append, List.mem_append, List.mem_singleton, not_or]
    constructor
    · rintro ⟨opens | ⟨opened, up⟩, kept, now⟩
      · exact ⟨Or.inl opens, spared_of_up opens.up.1, Ne.symm now⟩
      · exact ⟨Or.inr ⟨opened, kept⟩, up, Ne.symm now⟩
    · rintro ⟨opens | ⟨opened, kept⟩, up, now⟩
      · exact ⟨Or.inl opens, opens.up.2.1 name, Ne.symm now⟩
      · exact ⟨Or.inr ⟨opened, up⟩, kept, Ne.symm now⟩

/-! ### Senders of one channel -/

variable {x y : Sender} {first second : Traffic}

theorem registered_of_gives (sane : Sane s) (gives : move.Gives name x s.1) :
    (step s move).1.Registered name x.channel ∧ s.1.Grows (step s move).1 := by
  obtain ⟨h, g⟩ := s
  cases move with
  | guest move =>
    cases move with
    | openChannel other =>
      obtain ⟨rfl, given⟩ := gives
      have opened := Hub.granted_openChannel sane other
      unfold step Guests.Move.run
      dsimp only at given ⊢
      generalize h.openChannel other = result at opened given
      cases opened with
      | refused e down => cases given
      | granted up balanced grows named =>
        cases given
        exact ⟨named, grows⟩
    | _ => exact gives.elim
  | sender other =>
    obtain ⟨rfl, given⟩ := gives
    unfold step
    unfold Hub.sender? at given ⊢
    dsimp only at given ⊢
    cases named : h.names[other]? with
    | none =>
      rw [named] at given
      cases given
    | some n =>
      rw [named] at given
      cases given
      exact ⟨named, Hub.grows_retain h n⟩
  | _ => exact gives.elim

theorem registered_step (sane : Sane s) (named : s.1.Registered name n) (move : Traffic) :
    (step s move).1.Registered name n ∨ (step s move).1.Down ∨ move = closes name := by
  by_cases closing : ∃ other, move = closes other
  · obtain ⟨other, rfl⟩ := closing
    by_cases same : other = name
    · exact Or.inr (Or.inr (congrArg closes same))
    · refine Or.inl ?_
      have kept : (step s (closes other)).1.names[name]? = _ := Hub.names_close s.1 other name
      rw [if_neg same] at kept
      exact kept.trans named
  · by_cases ending : move = shutsDown
    · subst ending
      exact Or.inr (Or.inl (Hub.down_shutdown s.1))
    · exact Or.inl (((step_sane sane move).2.2 (fun other same => closing ⟨other, same⟩)
        ending).kept named)

/-- A name keeps its channel until it is closed or the hub is shut down. -/
theorem registered_run (moves : List Traffic) : ∀ {s : Hub × Guests}, Sane s →
    s.1.Registered name n → (run moves s).1.Registered name n ∨ (run moves s).1.Down ∨
      ∃ before after, moves = before ++ closes name :: after ∧
        (run before s).1.contains name = true := by
  induction moves with
  | nil =>
    intro s sane named
    exact Or.inl named
  | cons move rest ih =>
    intro s sane named
    rcases registered_step sane named move with kept | down | rfl
    · rcases ih (step_sane sane move).1 kept with kept | down | ⟨before, after, rfl, contained⟩
      · exact Or.inl kept
      · exact Or.inr (Or.inl down)
      · exact Or.inr (Or.inr ⟨move :: before, after, rfl, contained⟩)
    · exact Or.inr (Or.inl (run_down rest down))
    · exact Or.inr (Or.inr ⟨[], rest, rfl, Hub.contains_iff.mpr ⟨n, named⟩⟩)

theorem not_gives_of_down (down : s.1.Down) : ¬ move.Gives name x s.1 := by
  intro gives
  obtain ⟨h, g⟩ := s
  cases move with
  | guest move =>
    cases move with
    | openChannel other =>
      obtain ⟨reason, refused⟩ := down.openChannel other
      obtain ⟨-, given⟩ := gives
      rw [refused] at given
      cases given
    | _ => exact gives.elim
  | sender other =>
    obtain ⟨-, given⟩ := gives
    have free : h.names[other]? = none := down.free other
    unfold Hub.sender? at given
    rw [free] at given
    cases given
  | _ => exact gives.elim

/-- The channel of a sender leads back to the one name it was given for. -/
theorem same_channel_iff (sane : Sane s) (gives : first.Gives name x s.1)
    (gives' : second.Gives other y (run middle (step s first)).1) :
    x.channel = y.channel ↔ name = other ∧ ¬ ∃ before after,
      middle = before ++ closes name :: after ∧
        (run before (step s first)).1.contains name = true := by
  have sane₁ := (step_sane sane first).1
  obtain ⟨named, -⟩ := registered_of_gives sane gives
  have known : x.channel < (step s first).1.nextChannel := sane₁.name_lt named
  obtain ⟨sane₂, later⟩ := run_sane middle sane₁
  obtain ⟨named', grows⟩ := registered_of_gives sane₂ gives'
  constructor
  · intro same
    rw [← same] at named'
    have old : (step s first).1.Registered other x.channel := by
      rcases (later.trans grows.toLater).names named' with old | new
      · exact old
      · exact absurd known (Nat.not_lt.mpr new)
    obtain rfl := sane₁.injective named old
    refine ⟨rfl, ?_⟩
    -- once the name is closed, it leads to channels that are opened later only
    rintro ⟨before, after, rfl, -⟩
    obtain ⟨sane₃, later₃⟩ := run_sane before sane₁
    have closed : (step (run before (step s first)) (closes name)).1.names[name]? = none := by
      have left : (step (run before (step s first)) (closes name)).1.names[name]? = _ :=
        Hub.names_close _ name name
      rw [left, if_pos rfl]
    obtain ⟨sane₄, later₄, -⟩ := step_sane sane₃ (closes name)
    obtain ⟨-, later₅⟩ := run_sane after sane₄
    rw [run_append] at named' grows
    rcases (later₅.trans grows.toLater).names named' with old | new
    · rw [Hub.Registered, closed] at old
      cases old
    · have := later₃.next_le
      have := later₄.next_le
      omega
  · rintro ⟨rfl, unclosed⟩
    rcases registered_run middle sane₁ named with kept | down | closed
    · exact Option.some.inj ((grows.kept kept).symm.trans named')
    · exact absurd gives' (not_gives_of_down down)
    · exact absurd closed unclosed

/-- Over every run of a hub, a name is registered if and only if it was opened and not closed since,
and there was no shutdown. Two senders belong to the same channel if and only if they were given for
the same name, which was not closed between them while it was registered. -/
theorem run_names (capacity : Nat) (moves : List Traffic) :
    let s := run moves (initial capacity)
    (∀ name, (s.1.contains name = true ↔ Opened name (initial capacity) moves ∧ shutsDown ∉ moves) ∧
        (s.1.sender? name).1.isSome = s.1.contains name ∧
        (name ∈ s.1.channelNames ↔ s.1.contains name = true)) ∧
      s.1.channelNames.Pairwise (· < ·) ∧
      (∀ move name, (step s move).1.contains name = true →
        move.Opens name s.1 ∨ s.1.contains name = true) ∧
      (shutsDown ∈ moves → ∀ name, s.1.contains name = false) ∧
      ∀ (first : Traffic) (name : String) (x : Sender), first.Gives name x s.1 →
        ∀ (middle : List Traffic) (second : Traffic) (other : String) (y : Sender),
          second.Gives other y (run middle (step s first)).1 →
            (x.channel = y.channel ↔ name = other ∧ ¬ ∃ before after,
              middle = before ++ closes name :: after ∧
                (run before (step s first)).1.contains name = true) := by
  intro s
  have sane : Sane s := (run_sane moves (initial_sane capacity)).1
  have free (name) : (initial capacity).1.contains name = false := by
    simp [initial, Hub.ofCapacity, Hub.contains]
  have registered (name) := contains_run (free name) moves
  refine ⟨?_, Hub.channelNames_ascending s.1, ?_, ?_, ?_⟩
  · intro name
    exact ⟨registered name, Hub.sender?_isSome s.1 name, Hub.mem_channelNames⟩
  · intro move name contained
    exact ((contains_step s move name).mp contained).1
  · intro down name
    rw [Bool.eq_false_iff]
    intro contained
    exact ((registered name).mp contained).2 down
  · intro first name x gives middle second other y gives'
    exact same_channel_iff sane gives gives'

/-- A name that was closed and opened again leads to another channel than before. -/
theorem run_names_reopened :
    let opens : Traffic := guest (.openChannel "r")
    let s := step (initial 4) opens
    ∃ x y z : Sender, opens.Gives "r" x (initial 4).1 ∧ (sender "r").Gives "r" y s.1 ∧
      opens.Gives "r" z (run [sender "r", closes "r"] s).1 ∧ x.channel = y.channel ∧
      x.channel ≠ z.channel ∧ (run [opens, closes "r", opens] (initial 4)).1.contains "r" = true ∧
      (run [opens, shutsDown] (initial 4)).1.contains "r" = false := by
  intro opens s
  obtain ⟨-, -, -, -, same⟩ := run_names 4 []
  have first : opens.Gives "r" ⟨0⟩ (initial 4).1 := ⟨rfl, rfl⟩
  have looked : (sender "r").Gives "r" ⟨0⟩ s.1 := ⟨rfl, rfl⟩
  have again : opens.Gives "r" ⟨1⟩ (run [sender "r", closes "r"] s).1 := ⟨rfl, rfl⟩
  refine ⟨⟨0⟩, ⟨0⟩, ⟨1⟩, first, looked, again, ?_, ?_, ?_, ?_⟩
  · refine (same opens "r" _ first [] _ "r" _ looked).mpr ⟨rfl, ?_⟩
    rintro ⟨before, after, split, -⟩
    exact List.append_ne_nil_of_right_ne_nil before (List.cons_ne_nil _ after) split.symm
  · intro equal
    exact ((same opens "r" _ first _ _ "r" _ again).mp equal).2 ⟨[sender "r"], [], rfl, rfl⟩
  · refine ((run_names 4 [opens, closes "r", opens]).1 "r").1.mpr ⟨⟨[opens, closes "r"], opens, [],
      rfl, ⟨rfl, _, rfl⟩, List.not_mem_nil⟩, ?_⟩
    simp [opens, closes, shutsDown]
  · exact (run_names 4 [opens, shutsDown]).2.2.2.1 (by simp) "r"

end Traffic

end Switchboard
