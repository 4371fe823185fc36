import Switchboard.Proofs.Attempt

/-!
# Notes on the way out

An error begins as a failure without notes, and callers attach notes while it travels outwards: to
the failure at hand, or to an attempt that may have failed. In whatever order they do, the failure
lists their notes as they came and is otherwise told apart by its cause alone, and an attempt that
succeeds is passed on as it is (`outward_annotates`).
-/

namespace Switchboard

namespace Failure

/-- `f` with one note after the other, the oldest first. -/
def withNotes (notes : List String) (f : Failure) : Failure :=
  notes.foldl (fun f note => f.withNote note) f

variable (f : Failure) (note : String) (notes : List String)

@[simp]
theorem message_withNote : (f.withNote note).message = note ++ ": " ++ f.message := by
  simp [message, withNote, List.foldl_append]

@[simp]
theorem cause_withNotes : (f.withNotes notes).cause = f.cause := by
  induction notes generalizing f with
  | nil => rfl
  | cons note rest ih => exact ih (f.withNote note)

@[simp]
theorem notes_withNotes : (f.withNotes notes).notes = f.notes ++ notes := by
  induction notes generalizing f with
  | nil => exact (List.append_nil _).symm
  | cons note rest ih =>
    calc (f.withNotes (note :: rest)).notes
      _ = (f.withNote note).notes ++ rest := ih (f.withNote note)
      _ = f.notes ++ note :: rest := List.append_assoc ..

/-- The notes are stored in the order of their attachment and shown in the opposite one. -/
theorem message_withNotes : (f.withNotes notes).message =
    String.join (notes.reverse.map (· ++ ": ")) ++ f.message := by
  induction notes generalizing f with
  | nil => exact String.empty_append.symm
  | cons note rest ih =>
    calc (f.withNotes (note :: rest)).message
      _ = String.join (rest.reverse.map (· ++ ": ")) ++ (f.withNote note).message :=
        ih (f.withNote note)
      _ = String.join ((note :: rest).reverse.map (· ++ ": ")) ++ f.message := by
        simp [String.append_assoc]

/-- `f` is what `cause` began as with exactly the given notes, the oldest first: they precede the
text, the latest one in front, and nothing else that is told of the failure depends on them. -/
structure Annotates (f : Failure) (cause : Cause) (notes : List String) : Prop where
  contexts : f.notes = notes
  status : f.status = cause.status
  clientMessage : f.clientMessage = cause.clientMessage
  tags : f.tags = cause.tags
  level : f.level = cause.status.level
  sources : f.sources = cause.chain
  message : f.message = String.join (notes.reverse.map (· ++ ": ")) ++ cause.message

theorem annotates_withNotes (cause : Cause) :
    Annotates ((⟨cause, []⟩ : Failure).withNotes notes) cause notes := by
  have kept := cause_withNotes ⟨cause, []⟩ notes
  exact
    { contexts := notes_withNotes ⟨cause, []⟩ notes
      status := congrArg Cause.status kept
      clientMessage := congrArg Cause.clientMessage kept
      tags := congrArg Cause.tags kept
      level := congrArg (fun c : Cause => c.status.level) kept
      sources := congrArg Cause.chain kept
      message := message_withNotes ⟨cause, []⟩ notes }

end Failure

/-- A call that attaches a note to an error on its way outwards. -/
inductive NoteCall (σ : Type)
  /-- To the failure at hand. -/
  | direct (note : String)
  /-- To an attempt, in case it failed. -/
  | eager (note : String)
  /-- To an attempt, in case it failed, and the note is worked out only then. -/
  | onDemand (note : StateM σ String)

namespace NoteCall

variable {σ α : Type}

/-- Works out the note. -/
def text : NoteCall σ → StateM σ String
  | direct note => pure note
  | eager note => pure note
  | onDemand note => note

def attach (x : Attempt σ α) : NoteCall σ → Attempt σ α
  | direct note => x.adapt (Failure.withNote note)
  | eager note => x.withNote note
  | onDemand note => x.noting note

/-- The notes of all calls, worked out one after the other. -/
def texts (calls : List (NoteCall σ)) : StateM σ (List String) :=
  calls.mapM text

/-- What leaves the last of the calls: the error becomes a failure at the first one. -/
def outward (calls : List (NoteCall σ)) (x : ExceptT Cause (StateM σ) α) : Attempt σ α :=
  calls.foldl attach (x.adapt fun cause => ⟨cause, []⟩)

/-- One call attaches one note to a failure, and a success it leaves alone. -/
theorem exec_attach (call : NoteCall σ) (x : Attempt σ α) (s : σ) :
    (call.attach x).exec s = match x.exec s with
      | (.ok a, t) => (.ok a, t)
      | (.error f, t) => (.error (f.withNote (call.text.run t).1), (call.text.run t).2) := by
  cases call with
  | direct note =>
    have adapted : (attach x (direct note)).exec s =
        ((x.exec s).1.mapError (·.withNote note), (x.exec s).2) := Attempt.exec_adapt _ x s
    rw [adapted]
    rcases x.exec s with ⟨_ | _, t⟩ <;> rfl
  | eager note =>
    rw [attach, Attempt.exec_withNote]
    rcases x.exec s with ⟨_ | _, t⟩ <;> rfl
  | onDemand note => exact Attempt.exec_noting x note s

/-- The calls work their notes out in turn, on what the attempt left behind. -/
theorem exec_attachAll (calls : List (NoteCall σ)) (x : Attempt σ α) (s : σ) :
    Attempt.exec (calls.foldl attach x) s = match x.exec s with
      | (.ok a, t) => (.ok a, t)
      | (.error f, t) =>
        (.error (f.withNotes ((texts calls).run t).1), ((texts calls).run t).2) := by
  induction calls generalizing x with
  | nil =>
    rw [List.foldl_nil]
    rcases x.exec s with ⟨_ | _, t⟩ <;> rfl
  | cons call rest ih =>
    rw [List.foldl_cons, ih, exec_attach]
    rcases x.exec s with ⟨f | a, t⟩
    · simp [texts, Failure.withNotes]
    · rfl

/-- An error that notes are attached to in any mixture of calls leaves as a failure with these notes
in the order of the calls, all of them worked out once. A success leaves unchanged, and no note is
worked out for it. -/
theorem outward_annotates (calls : List (NoteCall σ)) (x : ExceptT Cause (StateM σ) α) (s t : σ) :
    (∀ a, x.run.run s = (.ok a, t) → (outward calls x).exec s = (.ok a, t)) ∧
    ∀ cause, x.run.run s = (.error cause, t) →
      ∃ f, (outward calls x).exec s = (.error f, ((texts calls).run t).2) ∧
        f.Annotates cause ((texts calls).run t).1 := by
  constructor
  · intro a succeeded
    rw [outward, exec_attachAll, Attempt.exec_adapt, succeeded]
    rfl
  · intro cause failed
    refine ⟨(⟨cause, []⟩ : Failure).withNotes ((texts calls).run t).1, ?_,
      Failure.annotates_withNotes _ cause⟩
    rw [outward, exec_attachAll, Attempt.exec_adapt, failed]
    rfl

/-- Three notes, one of them numbered, on the way of a request for an unknown destination. -/
theorem outward_annotates_unknown_destination :
    let calls : List (NoteCall Nat) := [.direct "subscribe",
      .onDemand (modifyGet fun n => ("attempt " ++ toString n, n + 1)), .eager "dispatch"]
    let unknown : Cause := .broker (.destinationNotFound "prices")
    let refused : ExceptT Cause (StateM Nat) Unit := throw unknown
    let served : ExceptT Cause (StateM Nat) Unit := pure ()
    (served.run.run 7 = (.ok (), 7) ∧ (outward calls served).exec 7 = (.ok (), 7)) ∧
    refused.run.run 7 = (.error unknown, 7) ∧
    ∃ f, (outward calls refused).exec 7 = (.error f, 8) ∧
      f.notes = ["subscribe", "attempt 7", "dispatch"] ∧ f.level = .debug ∧
      f.message = "dispatch: attempt 7: subscribe: destination not found: prices" := by
  intro calls unknown refused served
  refine ⟨⟨rfl, (outward_annotates calls served 7 7).1 () rfl⟩, rfl, ?_⟩
  obtain ⟨f, left, annotates⟩ := (outward_annotates calls refused 7 7).2 unknown rfl
  refine ⟨f, left, annotates.contexts, annotates.level, annotates.message.trans ?_⟩
  decide

end NoteCall

end Switchboard
