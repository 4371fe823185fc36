import Switchboard.Status

/-!
# Log events

An event has a level, a target naming the part of the broker that logged it, a message and named
fields. It may stand inside spans, which carry fields of their own.
-/

namespace Switchboard

/-- A value attached to an event. Layouts quote a `text` but show a `rendered` value as it is. -/
inductive FieldValue
  | rendered (form : String)
  | text (s : String)
  | number (n : Nat)
  /-- The event has the field, but nothing to show in it. -/
  | absent
deriving DecidableEq, Repr

namespace FieldValue

/-- The value without any quotes of a layout. -/
def plain : FieldValue → String
  | rendered form => form
  | text s => s
  | number n => toString n
  | absent => ""

end FieldValue

abbrev Fields := List (String × FieldValue)

/-- The fields that have something to show. -/
def Fields.shown (fields : Fields) : Fields :=
  fields.filter fun f => f.2 ≠ .absent

/-- A stretch of work that events may stand in. -/
structure Span where
  name : String
  fields : Fields
deriving DecidableEq, Repr

structure Event where
  level : Level
  target : String
  message : String
  fields : Fields := []
  /-- The spans around the event, outermost first. -/
  spans : List Span := []
deriving DecidableEq, Repr

/-- The same event inside one more span. -/
def Event.within (span : Span) (e : Event) : Event :=
  { e with spans := span :: e.spans }

/-- A state that remembers the events logged so far. -/
class Journaled (σ : Type) where
  record : Event → σ → σ

/-- Logs `e`. -/
def log {σ : Type} [Journaled σ] (e : Event) : StateM σ Unit :=
  modify (Journaled.record e)

/-- The events logged so far, oldest first. -/
abbrev Journal := List Event

instance : Journaled Journal where
  record e journal := journal ++ [e]

end Switchboard
