import Switchboard.Failure.Cause
import Switchboard.Journal.Event
import Switchboard.Text.Quoted

/-!
# Failures

A failure is a cause together with the notes attached while it travelled outwards. Notes change
its text but neither its status nor anything else a client or a log reader is told.
-/

namespace Switchboard

structure Failure where
  cause : Cause
  /-- The notes, oldest first. -/
  notes : List String := []
deriving DecidableEq, Repr

namespace Failure

def broker (e : BrokerError) : Failure := ⟨.broker e, []⟩

def lifecycle (e : LifecycleError) : Failure := ⟨.lifecycle e, []⟩

/-- `f` with one more note. -/
def withNote (note : String) (f : Failure) : Failure :=
  { f with notes := f.notes ++ [note] }

def status (f : Failure) : Status := f.cause.status

def clientMessage (f : Failure) : String := f.cause.clientMessage

def tags (f : Failure) : List (String × String) := f.cause.tags

def level (f : Failure) : Level := f.status.level

/-- The texts of the cause and of what caused it in turn. -/
def sources (f : Failure) : List String := f.cause.chain

/-- The latest note first, the cause last. -/
def message (f : Failure) : String :=
  f.notes.foldl (fun text note => note ++ ": " ++ text) f.cause.message

/-- The whole failure in one line. `place` tells where a note was attached. -/
def inspect (f : Failure) (place : String) : String :=
  Text.braced "StackError"
    [("status_code", f.status.name), ("origin", f.cause.message),
      ("notes", Text.bracketed (f.notes.map fun n => Text.quoted (n ++ " at " ++ place)))]

/-- The tags as log events show them. -/
def renderTags (tags : List (String × String)) : String :=
  Text.bracketed (tags.map fun t => "(" ++ Text.quoted t.1 ++ ", " ++ Text.quoted t.2 ++ ")")

/-- The log event that reports `f`: its level is the one its status asks for. -/
def report (f : Failure) (message : String) : Event where
  level := f.level
  target := "flexlink::error::report"
  message := message
  fields := [("error", .rendered f.message), ("status", .rendered f.status.display),
    ("tags", .rendered (renderTags f.tags))]

end Failure

/-- An operation on a state that may fail. What it did to the state before it failed stays. -/
abbrev Attempt (σ α : Type) := ExceptT Failure (StateM σ) α

namespace Attempt

variable {σ α : Type}

/-- The outcome and the state left behind. -/
abbrev exec (x : Attempt σ α) (s : σ) : Except Failure α × σ :=
  (ExceptT.run x).run s

/-- Adds a note to the failure of `x`. The note is worked out only if there is one. -/
def noting (x : Attempt σ α) (note : StateM σ String) : Attempt σ α :=
  ExceptT.mk do
    match ← ExceptT.run x with
    | .ok a => return .ok a
    | .error f => return .error (f.withNote (← note))

/-- Adds the note `note` to the failure of `x`. -/
def withNote (x : Attempt σ α) (note : String) : Attempt σ α :=
  x.noting (pure note)

/-- The outcome of `x` as a value. -/
def outcome (x : Attempt σ α) : StateM σ (Except Failure α) :=
  ExceptT.run x

end Attempt

end Switchboard
