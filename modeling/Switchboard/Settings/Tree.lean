import Switchboard.Decimal.Double
import Switchboard.Decimal.Whole
import Switchboard.Text.Lower

/-!
# Configuration trees

What all configuration texts and environment variables are read into before settings are made of
it. A value is turned into the kind that is wanted: texts and numbers count as truth values and as
each other where they read as such.
-/

namespace Switchboard

inductive ConfigTree
  | nil
  | bool (b : Bool)
  | int (n : Int)
  | float (d : Double)
  | text (s : String)
  | list (items : List ConfigTree)
  | table (members : List (String × ConfigTree))
deriving Repr, Inhabited

/-- Values by the names of the places they are set at. -/
abbrev Layer := List (String × ConfigTree)

namespace ConfigTree

/-- The members of a table. Anything else has none. -/
def members : ConfigTree → List (String × ConfigTree)
  | table members => members
  | _ => []

/-- The items of a list. Anything else has none. -/
def items : ConfigTree → List ConfigTree
  | list items => items
  | _ => []

/-- Sets a member, in its place if there is one of that name. -/
def put (key : String) (v : ConfigTree) : List (String × ConfigTree) → List (String × ConfigTree)
  | [] => [(key, v)]
  | (k, w) :: rest => if k = key then (k, v) :: rest else (k, w) :: put key v rest

/-- The table of the given members, of which the last one of a name counts. -/
def ofMembers (members : List (String × ConfigTree)) : ConfigTree :=
  table (members.foldl (fun ms m => put m.1 m.2 ms) [])

/-- The member of a name, or nothing. -/
def child (key : String) (members : List (String × ConfigTree)) : ConfigTree :=
  (members.lookup key).getD nil

/-! ### Conversion to the kind that is wanted -/

/-- The truth value that a word stands for. -/
def truth? (s : String) : Option Bool :=
  let s := Text.lower s
  if ["true", "on", "yes"].contains s then some true
  else if ["false", "off", "no"].contains s then some false
  else none

/-- A number of 64 bits. A fraction is rounded, a half away from zero, and kept in range. -/
def asUInt64 : ConfigTree → Option UInt64
  | int n => if 0 ≤ n ∧ n < Int.pow 2 64 then some (UInt64.ofNat n.toNat) else none
  | bool b => some (if b then 1 else 0)
  | float d => some (UInt64.ofNat (d.toNatClamped (Nat.pow 2 64 - 1)))
  | text s =>
    match truth? s with
    | some b => some (if b then 1 else 0)
    | none =>
      match Decimal.natural? s.toList with
      | some n => if n < Nat.pow 2 64 then some (UInt64.ofNat n) else none
      | none => none
  | _ => none

def asBool : ConfigTree → Option Bool
  | bool b => some b
  | int n => some (n != 0)
  | float d => some (!d.isZero)
  | text s => if s = "1" then some true else if s = "0" then some false else truth? s
  | _ => none

def asText : ConfigTree → Option String
  | text s => some s
  | bool b => some (if b then "true" else "false")
  | int n => some (toString n)
  | float d => some d.display
  | _ => none

def asList (read : ConfigTree → Option α) : ConfigTree → Option (List α)
  | list items => items.mapM read
  | _ => none

def nullable (read : ConfigTree → Option α) : ConfigTree → Option (Option α)
  | nil => some none
  | v => (read v).map some

/-- One of finitely many names, alone or as the only member of a table. -/
def asName (choices : List (String × α)) : ConfigTree → Option α
  | text s => choices.lookup s
  | table [(s, _)] => choices.lookup s
  | _ => none

/-- The fields of a record: the members of a table, or the items of a list in order. -/
def record (names : List String) : ConfigTree → Option (List (String × ConfigTree))
  | table members => some members
  | list items => some (names.zip items)
  | _ => none

def required (fields : List (String × ConfigTree)) (name : String)
    (read : ConfigTree → Option α) : Option α :=
  (fields.lookup name).bind read

def withDefault (fields : List (String × ConfigTree)) (name : String)
    (read : ConfigTree → Option α) (default : α) : Option α :=
  match fields.lookup name with
  | none => some default
  | some v => read v

end ConfigTree

end Switchboard
