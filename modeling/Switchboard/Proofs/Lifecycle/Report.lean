import Switchboard.Proofs.Lifecycle.Course
import Switchboard.Proofs.Lifecycle.Machine

/-!
# What an operation reports

An operation succeeds if and only if all its calls do. Otherwise it reports the first call that
failed, and the handle it leaves depends on which call that was (`run_reports`).
-/

namespace Switchboard.Coordinator

variable {ω η : Type}

/-- The first element of its kind splits a list in one way only. -/
theorem split_at_first {α : Type} {P : α → Prop} {front front' back back' : List α} {a a' : α}
    (before : ∀ x ∈ front, P x) (before' : ∀ x ∈ front', P x) (here : ¬ P a) (here' : ¬ P a')
    (same : front ++ a :: back = front' ++ a' :: back') :
    front = front' ∧ a = a' ∧ back = back' := by
  induction front generalizing front' with
  | nil =>
    cases front' with
    | nil =>
      obtain ⟨rfl, rfl⟩ := List.cons.inj same
      exact ⟨rfl, rfl, rfl⟩
    | cons x rest =>
      obtain ⟨rfl, -⟩ := List.cons.inj same
      exact absurd (before' a List.mem_cons_self) here
  | cons x front ih =>
    cases front' with
    | nil =>
      obtain ⟨rfl, -⟩ := List.cons.inj same
      exact absurd (before x List.mem_cons_self) here'
    | cons y rest =>
      obtain ⟨rfl, tails⟩ := List.cons.inj same
      obtain ⟨rfl, rfl, rfl⟩ := ih (fun z member => before z (List.mem_cons_of_mem x member))
        (fun z member => before' z (List.mem_cons_of_mem x member)) tails
      exact ⟨rfl, rfl, rfl⟩

section Concluded

variable {destination : String} {tears : Prop} {made earlier later : List Call} {call : Call}
  {outcome : Except LifecycleError Unit} {left : Option Nat} {e : ResourceError}

theorem Concluded.ok_iff (concluded : Concluded destination tears made outcome left) :
    outcome = .ok () ↔ ∀ call ∈ made, call.failure = none := by
  cases concluded with
  | done sound => exact iff_of_true rfl sound
  | @failed front last e sound failure final =>
    refine iff_of_false nofun fun all => ?_
    have contrary := all last (by simp)
    rw [failure] at contrary
    cases contrary
  | @torn halt last e tearing halts failure disposes same =>
    refine iff_of_false nofun fun all => ?_
    have contrary := all halt (by simp)
    rw [failure] at contrary
    cases contrary

theorem Concluded.first (concluded : Concluded destination tears made outcome left)
    (split : made = earlier ++ call :: later) (sound : ∀ other ∈ earlier, other.failure = none)
    (failed : call.failure = some e) :
    outcome = .error (call.kind.report destination e) ∧
      (¬ (call.kind = .stop ∧ tears) → later = [] ∧ left = call.left) ∧
      (call.kind = .stop ∧ tears → left = none ∧
        ∃ last, later = [last] ∧ last.kind = .dispose ∧ last.handle = call.handle) := by
  have broken : call.failure ≠ none := failed ▸ Option.some_ne_none e
  cases concluded with
  | done all => exact absurd (all call (by simp [split])) broken
  | failed sound' failure final =>
    obtain ⟨rfl, rfl, rfl⟩ :=
      split_at_first sound' sound (failure ▸ Option.some_ne_none _) broken split
    obtain rfl := Option.some.inj (failure.symm.trans failed)
    exact ⟨rfl, fun _ => ⟨rfl, rfl⟩, fun both => absurd both final⟩
  | torn tearing halts failure disposes same =>
    have before : ∀ other ∈ ([] : List Call), other.failure = none := by simp
    obtain ⟨rfl, rfl, rfl⟩ :=
      split_at_first before sound (failure ▸ Option.some_ne_none _) broken split
    obtain rfl := Option.some.inj (failure.symm.trans failed)
    exact ⟨rfl, fun other => absurd ⟨halts, tearing⟩ other, fun _ => ⟨rfl, _, rfl, disposes, same⟩⟩

end Concluded

/-- An operation succeeds if and only if none of its calls fails. Otherwise it reports the first one
that failed, with the destination and the error as it was. A failed acquisition or disposal leaves
no handle, a failed start or halt the handle it was called on, and nothing is called after a
failure, but for `stop`, which disposes of the listener after a failed halt and never leaves a
handle. -/
theorem run_reports (p : Provider ω η) (op : Operation) (c : Coordinator η) (w : ω) :
    let left := op.run p.traced c.tag { world := w }
    let calls := op.calls p c w
    erase left = op.run p c w ∧
    ((op.run p c w).1 = .ok () ↔ ∀ call ∈ calls, call.failure = none) ∧
    (∀ earlier call later e, calls = earlier ++ call :: later →
      (∀ other ∈ earlier, other.failure = none) → call.failure = some e →
      (op.run p c w).1 = .error (call.kind.report c.destination e) ∧
      (call.kind = .acquire ∨ call.kind = .dispose → (op.run p c w).2.1.held = none ∧
        (op.run p c w).2.1.state p (op.run p c w).2.2 = .uninitialized) ∧
      (call.kind = .start ∨ call.kind = .stop ∧ op ≠ .stop →
        ∃ h, left.2.1.held = some h ∧ h.number = call.handle) ∧
      (¬ (call.kind = .stop ∧ op = .stop) → later = []) ∧
      (call.kind = .stop ∧ op = .stop →
        ∃ last, later = [last] ∧ last.kind = .dispose ∧ last.handle = call.handle)) ∧
    (op = .stop → (op.run p c w).2.1.held = none) := by
  intro left calls
  have erased : erase left = op.run p c w := by
    have same := erase_run_traced p c.tag { world := w } op
    rwa [untag_tag] at same
  obtain ⟨made, course⟩ := course_run p c.tag { world := w } op
  have recorded : calls = made := course.recorded
  have concluded : Concluded c.destination (op = .stop) calls (op.run p c w).1
      (left.2.1.held.map Tagged.number) := by
    have ended := course.concluded
    rw [← recorded] at ended
    rw [← erased]
    exact ended
  refine ⟨erased, concluded.ok_iff, ?_, ?_⟩
  · intro earlier call later e split sound failed
    obtain ⟨reported, given_up, went_on⟩ := concluded.first split sound failed
    refine ⟨reported, ?_, ?_, fun other => (given_up other).1, fun both => (went_on both).2⟩
    · intro gone
      -- of all calls only the halt in a `stop` is followed by another one after it failed
      have other : ¬ (call.kind = .stop ∧ op = .stop) := by
        rintro ⟨halts, -⟩
        rcases gone with kind | kind <;> cases kind.symm.trans halts
      have nothing : left.2.1.held = none := by
        have numbers := (given_up other).2
        rcases gone with kind | kind <;> simpa [Call.left, kind] using numbers
      have free : (op.run p c w).2.1.held = none := by
        rw [← erased, erase, untag, nothing]
        rfl
      exact ⟨free, state_of_free free⟩
    · intro stays
      have other : ¬ (call.kind = .stop ∧ op = .stop) := by
        rintro ⟨halts, tears⟩
        rcases stays with kind | ⟨-, gentle⟩
        · cases kind.symm.trans halts
        · exact gentle tears
      have numbers := (given_up other).2
      have kept : call.left = some call.handle := by
        rcases stays with kind | ⟨kind, -⟩ <;> simp [Call.left, kind]
      rw [kept] at numbers
      exact Option.map_eq_some_iff.mp numbers
  · rintro rfl
    exact held_of_stop p c w

/-- Both the halt and the disposal fail: the halt is reported, and the handle is gone. -/
theorem run_reports_failed_halt :
    let w : Script := {
      running := true
      attempts := 1
      failures := [(.stop, some (.failed "stuck")), (.dispose, some (.unavailable "gone"))] }
    let c : Coordinator Nat := { destination := "quotes", held := some 1 }
    (Operation.stop.calls Script.provider c w).map Call.kind = [.stop, .dispose] ∧
      (Operation.stop.run Script.provider c w).1 =
        .error (.transition "quotes" .stop (.failed "stuck")) ∧
      (Operation.stop.run Script.provider c w).2.1.held = none := by
  intro w c
  obtain ⟨-, -, first, free⟩ := run_reports Script.provider .stop c w
  have calls : Operation.stop.calls Script.provider c w =
      [] ++ { kind := .stop, handle := 0, initialized := true, running := true,
              failure := some (.failed "stuck") } ::
        [{ kind := .dispose, handle := 0, initialized := true, running := true,
           failure := some (.unavailable "gone") }] := by decide
  obtain ⟨reported, -⟩ := first _ _ _ _ calls (by simp) rfl
  exact ⟨by rw [calls]; rfl, reported, free rfl⟩

end Switchboard.Coordinator
