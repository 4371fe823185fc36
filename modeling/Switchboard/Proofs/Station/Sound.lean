import Switchboard.Proofs.Station.Timeline

/-!
# Stations in order

The hub of a station counts what its listener and its guests hold, and its timeline is in order.
Operations, traffic and looks into the slot keep it so (`Station.Sound`).
-/

namespace Switchboard

theorem Listener.start_of_filled {l : Listener} (filled : l.slot ≠ none) (h : Hub) :
    l.start h = (.ok (), l, h) := by
  unfold Listener.start Listener.isRunning
  rw [Option.isSome_iff_ne_none.mpr filled]
  rfl

namespace Station

variable {ε : Type} {origin p : Station ε} {h : Hub}

/-- The hub counts what the listener and the guests hold, and the timeline tells what the listener
reads. -/
structure Sound (origin p : Station ε) : Prop where
  alike : p.destination = origin.destination ∧ p.sink = origin.sink
  positive : 0 < origin.hub.slots
  slots_eq : p.hub.slots = origin.hub.slots
  balanced : p.hub.Balanced (Listener.held p.handle + p.guests.holdings)
  fits {l} (there : p.handle = some l) : l.Fits p.channel p.hub
  destined {l} (there : p.handle = some l) : l.destination = p.destination
  tells : Timeline.Tells origin.hub.slots p.destination p.hub p.slot? p.timeline

theorem Sound.kept (sound : origin.Sound p) :
    Listener.Kept p.hub p.channel p.guests.holdings p.handle p.hub :=
  ⟨sound.balanced, sound.fits, Hub.Grows.refl p.hub⟩

/-! ### Operations -/

/-- What an operation comes to: nothing is closed, and the slot is filled or emptied as `turns`
says. -/
structure Operated (channel destination : String) (rest : Holdings) (handle : Option Listener)
    (h : Hub) (left : Option Listener × Hub) : Prop where
  kept : Listener.Kept h channel rest left.1 left.2
  slots : left.2.slots = h.slots
  destined {l} (there : left.1 = some l) : l.destination = destination
  turns : Timeline.Turns h left.2 (handle.bind Listener.slot) (left.1.bind Listener.slot)

section

variable {channel destination : String} {rest : Holdings} {handle : Option Listener} {l : Listener}

theorem operated_same (kept : Listener.Kept h channel rest handle h)
    (destined : ∀ {l}, handle = some l → l.destination = destination) :
    Operated channel destination rest handle h (handle, h) :=
  ⟨kept, rfl, destined, .same fun _ _ => rfl⟩

theorem operated_acquire (kept : Listener.Kept h channel rest none h) :
    Operated channel destination rest none h
      (Operation.acquire.run (Listener.provider channel destination) none h) := by
  have made : Listener.Kept h channel rest
      ((Listener.provider channel destination).acquire h).1.toOption _ :=
    Listener.kept_acquire kept
  have slots := (Hub.tends_openChannel h channel).slots
  unfold Listener.provider at made
  unfold Operation.run Listener.provider
  dsimp only at made ⊢
  generalize h.openChannel channel = result at made slots
  rcases result with ⟨_ | s, h'⟩
  · exact ⟨made, slots, nofun, .same nofun⟩
  · refine ⟨made, slots, ?_, .same nofun⟩
    intro l there
    cases there
    rfl

theorem operated_start (kept : Listener.Kept h channel rest (some l) h)
    (destined : l.destination = destination) :
    Operated channel destination rest (some l) h (some (l.start h).2.1, (l.start h).2.2) := by
  cases filled : l.slot with
  | some sub =>
    rw [Listener.start_of_filled (filled ▸ Option.some_ne_none sub)]
    refine operated_same kept ?_
    rintro l' ⟨⟩
    exact destined
  | none =>
    have started := Listener.kept_start kept
    obtain ⟨s, bound⟩ := kept.fits rfl
    rw [Listener.start_of_bound bound filled] at started ⊢
    refine ⟨started, rfl, ?_, ?_⟩
    · rintro l' ⟨⟩
      exact destined
    · rw [Option.bind_some, filled]
      refine .starts ?_
      exact (Hub.inbox?_attach h s channel _).trans (if_pos ⟨rfl, rfl⟩)

theorem operated (kept : Listener.Kept h channel rest handle h)
    (destined : ∀ {l}, handle = some l → l.destination = destination) (op : Operation) :
    Operated channel destination rest handle h
      (op.run (Listener.provider channel destination) handle h) := by
  cases handle with
  | none =>
    cases op with
    | acquire => exact operated_acquire kept
    | start | stop | dispose => exact operated_same kept destined
  | some l =>
    cases op with
    | acquire => exact operated_same kept destined
    | start => exact operated_start kept (destined rfl)
    | stop =>
      refine ⟨Listener.kept_stop kept, ?_, ?_, .empties⟩
      · change (l.halt h).2.slots = h.slots
        unfold Listener.halt
        cases l.slot <;> rfl
      · rintro l' ⟨⟩
        exact destined (l := l) rfl
    | dispose =>
      refine ⟨@Listener.kept_dispose _ _ _ _ _ destination kept, ?_, nofun, .empties⟩
      change (l.drop h).2.slots = h.slots
      unfold Listener.drop Listener.halt
      cases l.slot <;> cases l.sender <;> rfl

end

theorem Sound.seat {left : Option Listener × Hub} (sound : origin.Sound p)
    (operated : Operated p.channel p.destination p.guests.holdings p.handle p.hub left) :
    origin.Sound (p.seat left.1 left.2) := by
  obtain ⟨kept, same, destined, turns⟩ := operated
  exact ⟨sound.alike, sound.positive, same.trans sound.slots_eq, kept.balanced, kept.fits, destined,
    sound.tells.turn turns⟩

/-! ### Traffic -/

theorem mem_held {sub : Subscription} (filled : p.slot? = some sub) :
    sub ∈ (Listener.held p.handle).2 := by
  obtain ⟨l, there, filled⟩ := Option.bind_eq_some_iff.mp filled
  rw [there]
  show sub ∈ (l.slot.toList : Multiset Subscription)
  rw [filled]
  exact List.mem_singleton_self sub

theorem traffic_sound (sound : origin.Sound p) (move : Traffic) :
    origin.Sound ((Move.traffic move).run p) := by
  have balanced : p.hub.Balanced (p.guests.holdings + Listener.held p.handle) :=
    add_comm (Listener.held p.handle) _ ▸ sound.balanced
  obtain ⟨kept, later, -⟩ := Traffic.step_balanced (s := (p.hub, p.guests)) balanced move
  have slots_eq := (Traffic.slots_step (p.hub, p.guests) move).trans sound.slots_eq
  refine ⟨sound.alike, sound.positive, slots_eq, add_comm (Listener.held p.handle) _ ▸ kept,
    fun there => (sound.fits there).later later, sound.destined, ?_⟩
  have tells := sound.tells
  change Timeline.Tells origin.hub.slots p.destination (move.step (p.hub, p.guests)).1 p.slot?
    (p.timeline ++ (p.sends move).map .sent)
  unfold sends
  cases filled : p.slot? with
  | none =>
    rw [filled] at tells
    exact tells.turn (.same nofun)
  | some sub =>
    have held := mem_held filled
    have quiet := Traffic.reads_eq_nil (s := (p.hub, p.guests)) balanced held move
    rw [filled] at tells
    cases tells.reads with
    | busy current found keeps =>
      have stays : sub ∈ ((move.step (p.hub, p.guests)).2.holdings + Listener.held p.handle).2 :=
        Multiset.mem_add.mpr (Or.inr held)
      obtain ⟨i', found', changes⟩ :=
        Traffic.step_changes balanced (Multiset.mem_add.mpr (Or.inr held)) found stays
      rw [quiet, sound.slots_eq] at changes
      rw [Option.elim_some]
      generalize Traffic.sends sub.channel (p.hub, p.guests) move = sent at changes
      cases changes with
      | idle =>
        refine tells.turn (.same ?_)
        intro sub' same
        cases same
        exact found'.trans found.symm
      | push m => exact tells.send sound.positive found found'

theorem move_sound (sound : origin.Sound p) (move : Move) : origin.Sound (move.run p) := by
  cases move with
  | operate op => exact sound.seat (operated sound.kept sound.destined op)
  | traffic move => exact traffic_sound sound move

theorem moves_sound (moves : List Move) : ∀ {p : Station ε}, origin.Sound p →
    origin.Sound (moves.foldl (fun p move => move.run p) p) := by
  induction moves with
  | nil => exact id
  | cons move rest ih => exact fun sound => ih (move_sound sound move)

/-! ### Looking into the slot -/

theorem Sound.hears {t : Timeline} (sound : origin.Sound p) (similar : p.hub.Similar h)
    (same : h.slots = p.hub.slots)
    (tells : Timeline.Tells origin.hub.slots p.destination h p.slot? t) :
    Sound origin { p with hub := h, timeline := t } :=
  ⟨sound.alike, sound.positive, same.trans sound.slots_eq, sound.balanced.similar similar,
    fun there => (sound.fits there).later similar.grows.toLater, sound.destined, tells⟩

theorem Sound.log (sound : origin.Sound p) {e : Event}
    (turns : e = Forwarding.running p.destination ∨ e = Forwarding.detached p.destination) :
    Sound origin (Journaled.record e p) :=
  sound.hears (Hub.Similar.refl p.hub) rfl (sound.tells.log turns)

theorem Sound.mark {l : Listener} (sound : origin.Sound p) (there : p.handle = some l) :
    origin.Sound (p.seat (some { l with begun := true }) p.hub) := by
  have same : l.SameEnds { l with begun := true } := ⟨rfl, rfl, rfl⟩
  have balanced := sound.balanced
  rw [there] at balanced
  have marked : Operated p.channel p.destination p.guests.holdings p.handle p.hub
      (some { l with begun := true }, p.hub) := by
    refine ⟨⟨balanced, ?_, Hub.Grows.refl p.hub⟩, rfl, ?_, ?_⟩
    · intro l' there'
      cases there'
      exact same.fits (sound.fits there)
    · intro l' there'
      cases there'
      exact (sound.destined there : l.destination = _)
    · rw [there]
      exact .same fun _ _ => rfl
  exact sound.seat marked

/-- What a task finds in the slot, and what its report makes of the station. -/
inductive Looked (origin : Station ε) (task : Nat) (p : Station ε) : Pull × Station ε → Prop
  | message {h m} (sound : origin.Sound (note { p with hub := h } [.given p.destination m])) :
    Looked origin task p (.message m, { p with hub := h })
  | lagged {h k} (positive : 0 < k)
    (sound : Sound origin (Journaled.record (Forwarding.lag p.destination k) { p with hub := h })) :
    Looked origin task p (.lagged k, { p with hub := h })
  | empty {h sub} (sound : Sound origin { p with hub := h }) (filled : p.slot? = some sub)
    (nothing : h.outstanding sub = 0) : Looked origin task p (.empty, { p with hub := h })
  | detached (gone : ∀ l, p.handle = some l → l.task = some task → l.slot = none) :
    Looked origin task p (.detached, p)

theorem pull_eq {task : Nat} {l : Listener} (found : Forwards.listener? task p = some l)
    (same : (l.pull p.hub).2.1 = l) :
    Forwarding.pull task p = ((l.pull p.hub).1, { p with hub := (l.pull p.hub).2.2 }) := by
  have there : p.handle = some l := (Option.filter_eq_some_iff.mp found).1
  unfold Forwarding.pull
  rw [found]
  dsimp only [Forwards.hub, Forwards.setHub, Forwards.setListener, seat, note, slot?]
  rw [same, there, Notice.ofSlot_self, List.append_nil]

/-- A listener holds a sender of the channel that it reads. -/
theorem Sound.isOpen {l : Listener} {sub : Subscription} (sound : origin.Sound p)
    (there : p.handle = some l) (filled : l.slot = some sub) :
    (p.hub.channel sub.channel).isOpen = true := by
  have balanced := sound.balanced
  rw [there] at balanced
  obtain ⟨s, bound⟩ := sound.fits there
  exact Listener.isOpen_of_filled bound balanced filled

theorem slot?_of_filled {l : Listener} {sub : Subscription} (there : p.handle = some l)
    (filled : l.slot = some sub) : p.slot? = some sub := by
  rw [slot?, there, Option.bind_some, filled]

theorem Sound.answers {l : Listener} {sub : Subscription} (sound : origin.Sound p)
    (there : p.handle = some l) (filled : l.slot = some sub) :
    Timeline.Answers origin.hub.slots p.destination (p.hub.receive sub).2 sub p.timeline
      (p.hub.receive sub).1 := by
  have tells := sound.tells
  rw [slot?_of_filled there filled] at tells
  cases tells.reads with
  | busy current inbox keeps =>
    have isOpen := sound.isOpen there filled
    have got := Hub.receive_eq inbox
    have taken := Hub.inbox?_receive p.hub sub sub
    rw [if_pos ⟨rfl, rfl⟩, inbox, Option.map_some, isOpen] at taken
    rw [isOpen] at got
    rw [got]
    exact tells.look inbox taken

theorem looked (sound : origin.Sound p) (task : Nat) :
    Looked origin task p (Forwarding.pull task p) := by
  cases found : Forwards.listener? task p with
  | none =>
    unfold Forwarding.pull
    rw [found]
    refine .detached ?_
    intro l there has
    have missed := Option.filter_eq_none_iff.mp found l there
    exact absurd has (of_decide_eq_false (Bool.eq_false_of_not_eq_true missed))
  | some l =>
    obtain ⟨there, has⟩ := Option.filter_eq_some_iff.mp found
    have balanced := sound.balanced
    rw [there] at balanced
    obtain ⟨same, similar⟩ := Listener.pull_keeps (sound.fits there) balanced
    rw [pull_eq found same]
    unfold Listener.pull at similar ⊢
    cases filled : l.slot with
    | none =>
      refine .detached ?_
      intro l' there' _
      cases there.symm.trans there'
      exact filled
    | some sub =>
      -- the answer is never that the channel is closed, as the listener holds a sender of it
      have slot := slot?_of_filled there filled
      have answers := sound.answers there filled
      have slots := (Hub.tends_receive p.hub sub).slots
      rw [filled] at similar
      dsimp only at similar ⊢
      rcases reached : p.hub.receive sub with ⟨read, h⟩
      rw [reached] at similar answers slots
      cases answers with
      | message tells =>
        rw [sound.destined there]
        exact .message (sound.hears similar slots (slot ▸ tells))
      | lagged positive tells => exact .lagged positive (sound.hears similar slots (slot ▸ tells))
      | empty tells nothing => exact .empty (sound.hears similar slots (slot ▸ tells)) slot nothing

end Station

end Switchboard
