import Switchboard.Json.Basic
import Std.Data.ExtTreeMap

/-!
# Records in JSON

A record is read from an object, whose unknown members are passed over if they can be, or from an
array of its fields in order, whose last fields may be missing. A known member may not be repeated.
-/

namespace Switchboard

/-- Texts by name. -/
abbrev Dict := Std.ExtTreeMap String String

namespace Json

/-- The fields of a record with the given field names. -/
def record (names : List String) : Json → Option (List (String × Json))
  | obj members =>
    let (known, unknown) := members.partition fun m => names.contains m.1
    if (known.map (·.1)).Nodup ∧ unknown.all (·.2.isPassable) then some known else none
  | arr items => if items.length ≤ names.length then some (names.zip items) else none
  | _ => none

/-- Reads the field `name`, which has to be there. -/
def required (fields : List (String × Json)) (name : String) (read : Json → Option α) : Option α :=
  (fields.lookup name).bind read

/-- Reads the field `name`, which is `default` if it is missing. -/
def withDefault (fields : List (String × Json)) (name : String) (read : Json → Option α)
    (default : α) : Option α :=
  match fields.lookup name with
  | none => some default
  | some v => read v

/-- Reads a value that may be null. -/
def nullable (read : Json → Option α) : Json → Option (Option α)
  | null => some none
  | v => (read v).map some

def asText : Json → Option String
  | str s => some s
  | _ => none

def asBool : Json → Option Bool
  | bool b => some b
  | _ => none

/-- Reads a whole number from `low` up to and including `high`. -/
def asIntBetween (low high : Int) : Json → Option Int
  | int n => if low ≤ n ∧ n ≤ high then some n else none
  | _ => none

def asInt64 (v : Json) : Option Int64 :=
  (asIntBetween Int64.minValue.toInt Int64.maxValue.toInt v).map Int64.ofInt

def asUInt64 (v : Json) : Option UInt64 :=
  (asIntBetween 0 (UInt64.size - 1) v).map fun n => UInt64.ofNat n.toNat

def asByte (v : Json) : Option UInt8 :=
  (asIntBetween 0 255 v).map fun n => UInt8.ofNat n.toNat

def asList (read : Json → Option α) : Json → Option (List α)
  | arr items => items.mapM read
  | _ => none

/-- Reads bytes from an array of numbers or from a string. -/
def asBytes : Json → Option Bytes
  | str s => some (Bytes.ofText s)
  | loose bytes _ => some bytes
  | arr items => items.mapM asByte
  | _ => none

/-- Reads texts by name. Of a repeated name the last text counts. -/
def asDict : Json → Option Dict
  | obj members => members.foldlM (fun d m => (asText m.2).map (d.insert m.1 ·)) ∅
  | _ => none

/-- Reads one of finitely many names, alone or as the only member of an object over null. -/
def asName (choices : List (String × α)) : Json → Option α
  | str s => choices.lookup s
  | obj [(s, null)] => choices.lookup s
  | _ => none

def ofBytes (bytes : Bytes) : Json :=
  arr (bytes.map fun b => int b.toNat)

def ofDict (d : Dict) : Json :=
  obj (d.toList.map fun e => (e.1, str e.2))

def ofTexts (texts : List String) : Json :=
  arr (texts.map str)

end Json

end Switchboard
