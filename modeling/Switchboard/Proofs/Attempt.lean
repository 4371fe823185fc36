import Switchboard.Failure.Basic
import Switchboard.Journal.Event

/-!
# Running attempts

An attempt runs on a state and leaves it behind. With these lemmas `simp` runs one step by step.
-/

namespace Switchboard

@[simp]
theorem id_bind {α β : Type} (x : Id α) (f : α → Id β) : (x >>= f) = f x := rfl

@[simp]
theorem id_map {α β : Type} (x : Id α) (f : α → β) :
    @Functor.map Id Monad.toApplicative.toFunctor α β f x = f x := rfl

@[simp]
theorem id_pure {α : Type} (x : α) : (pure x : Id α) = x := rfl

@[simp]
theorem run_log {σ : Type} [Journaled σ] (e : Event) (s : σ) :
    (log e).run s = ((), Journaled.record e s) := rfl

theorem ok_of_toOption {ε α : Type} {outcome : Except ε α} {a : α}
    (there : outcome.toOption = some a) : outcome = .ok a := by
  cases outcome with
  | error e => cases there
  | ok a' =>
    cases there
    rfl

namespace Attempt

variable {σ α β : Type}

/-- Nothing is tried after a failure. -/
theorem exec_bind (x : Attempt σ α) (f : α → Attempt σ β) (s : σ) :
    exec (x >>= f) s = match exec x s with
      | (.ok a, s) => exec (f a) s
      | (.error e, s) => (.error e, s) := by
  rcases reached : exec x s with ⟨_ | _, s'⟩ <;>
    simp [exec, ExceptT.run_bind, show StateT.run (ExceptT.run x) s = _ from reached]

theorem exec_map (f : α → β) (x : Attempt σ α) (s : σ) :
    exec (f <$> x) s = ((exec x s).1.map f, (exec x s).2) := by
  rcases reached : exec x s with ⟨_ | _, s'⟩ <;>
    simp [exec, show StateT.run (ExceptT.run x) s = _ from reached, Except.map]

theorem exec_noting (x : Attempt σ α) (note : StateM σ String) (s : σ) :
    exec (x.noting note) s = match exec x s with
      | (.ok a, t) => (.ok a, t)
      | (.error f, t) => (.error (f.withNote (note.run t).1), (note.run t).2) := by
  rcases reached : exec x s with ⟨_ | _, s'⟩ <;>
    simp [exec, noting, show StateT.run (ExceptT.run x) s = _ from reached]

theorem exec_withNote (x : Attempt σ α) (note : String) (s : σ) :
    exec (x.withNote note) s = ((exec x s).1.mapError (·.withNote note), (exec x s).2) := by
  rw [withNote, exec_noting]
  rcases exec x s with ⟨_ | _, _⟩ <;> rfl

/-- An error of another kind may become a failure. -/
theorem exec_adapt {ε : Type} (into : ε → Failure) (x : ExceptT ε (StateM σ) α) (s : σ) :
    exec (x.adapt into) s = ((x.run.run s).1.mapError into, (x.run.run s).2) := rfl

@[simp]
theorem exec_throw (f : Failure) (s : σ) : exec (throw f : Attempt σ α) s = (.error f, s) := rfl

@[simp]
theorem exec_get (s : σ) : exec (get : Attempt σ σ) s = (.ok s, s) := rfl

@[simp]
theorem exec_set (s s' : σ) : exec (set s' : Attempt σ PUnit) s = (.ok ⟨⟩, s') := rfl

@[simp]
theorem exec_modify (f : σ → σ) (s : σ) :
    exec (modify f : Attempt σ PUnit) s = (.ok ⟨⟩, f s) := rfl

/-- A sequence of attempts succeeds if each that it gets to does. -/
theorem isOk_foldlM_iff (f : β → α → Attempt σ β) (xs : List α) (b : β) (s : σ) :
    (exec (xs.foldlM f b) s).1.isOk ↔ ∀ front x rest b' s', xs = front ++ x :: rest →
      exec (front.foldlM f b) s = (.ok b', s') → (exec (f b' x) s').1.isOk := by
  induction xs generalizing b s with
  | nil => exact ⟨fun _ front x rest _ _ split => by simp at split, fun _ => rfl⟩
  | cons y ys ih =>
    rw [List.foldlM_cons, exec_bind]
    rcases reached : exec (f b y) s with ⟨e | b₁, s₁⟩
    · constructor
      · intro ok
        cases ok
      · intro all
        have failed := all [] y ys b s rfl rfl
        rwa [reached] at failed
    · refine (ih b₁ s₁).trans ⟨?_, ?_⟩
      · intro all front x rest b' s' split got
        rcases front with _ | ⟨z, front⟩
        · obtain ⟨rfl, rfl⟩ : y = x ∧ ys = rest := by simpa using split
          cases got
          rw [reached]
          rfl
        · obtain ⟨rfl, rfl⟩ : y = z ∧ ys = front ++ x :: rest := by simpa using split
          rw [List.foldlM_cons, exec_bind, reached] at got
          exact all front x rest b' s' rfl got
      · intro all front x rest b' s' split got
        refine all (y :: front) x rest b' s' (by rw [split]; rfl) ?_
        rw [List.foldlM_cons, exec_bind, reached]
        exact got

end Attempt

end Switchboard
