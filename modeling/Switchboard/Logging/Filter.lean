import Switchboard.Journal.Event
import Switchboard.Logging.Config
import Switchboard.Logging.Directive

/-!
# Filters

A filter is a list of directives with commas between them. The most specific directive that
concerns an event decides on it. Of two directives for the same target and fields the later one
counts. An event that no directive concerns does not get through.
-/

namespace Switchboard

structure Filter where
  /-- The directives that decide on events, in the order they were written. -/
  directives : List Directive
deriving DecidableEq, Repr

namespace Filter

/-- Reads a filter. Empty parts are passed over. -/
def ofText? (s : String) : Option Filter := do
  let parts := (s.toList.splitOn ',').filter (· ≠ [])
  let ds ← parts.mapM Directive.ofChars?
  return ⟨ds.filter Directive.isStatic⟩

/-- The length of the target in bytes. Having a target counts for more than having none. -/
def targetSize (d : Directive) : Nat :=
  match d.target with
  | none => 0
  | some target => target.utf8ByteSize + 1

/-- Whether `a` is at least as specific as `b`: the longer target goes first, then the greater
number of fields, then the names of the fields in descending order. -/
def outranks (a b : Directive) : Bool :=
  if targetSize a ≠ targetSize b then targetSize b < targetSize a
  else if a.fields.length ≠ b.fields.length then b.fields.length < a.fields.length
  else !decide (a.fields.map (·.name) < b.fields.map (·.name))

/-- The most specific of the directives, the last one of these. -/
def strongest (ds : List Directive) : Option Directive :=
  ds.foldl (fun best d =>
    match best with
    | none => some d
    | some b => if outranks d b then some d else some b) none

/-- Whether an event of the given level, target and fields gets through. -/
def allows (f : Filter) (level : Level) (target : String) (fieldNames : List String) : Bool :=
  match strongest (f.directives.filter fun d => d.concerns target fieldNames) with
  | none => false
  | some d => d.threshold.allows level

/-- Whether an event gets through. -/
def passes (f : Filter) (e : Event) : Bool :=
  f.allows e.level e.target ("message" :: e.fields.map (·.1))

/-- The filter that the environment asks for, if it can be read, and otherwise the one of the
configuration. -/
def ofConfig (requested : Option String) (c : LoggingConfig) : Except LoggingError Filter :=
  match requested.bind ofText? with
  | some f => .ok f
  | none =>
    match ofText? c.directive with
    | some f => .ok f
    | none => .error (.invalidDirective c.directive)

end Filter

end Switchboard
