import Switchboard.Json.Record

/-!
# Reading members

Look-ups in JSON objects that take a default for what is missing or of another kind.
-/

namespace Switchboard.Json

def member? (v : Json) (name : String) : Option Json :=
  match v with
  | obj members => members.lookup name
  | _ => none

/-- The member `name`, or null. -/
def field (v : Json) (name : String) : Json :=
  (v.member? name).getD null

def text? (v : Json) (name : String) : Option String :=
  (v.member? name).bind asText

def text (v : Json) (name : String) (default : String := "") : String :=
  (v.text? name).getD default

def nat? (v : Json) (name : String) : Option Nat :=
  match v.member? name with
  | some (int n) => some n.toNat
  | _ => none

def nat (v : Json) (name : String) (default : Nat := 0) : Nat :=
  (v.nat? name).getD default

/-- Whether the member `name` is `true`. -/
def flag (v : Json) (name : String) (default : Bool := false) : Bool :=
  ((v.member? name).bind asBool).getD default

def elements : Json → List Json
  | arr items => items
  | _ => []

def members : Json → List (String × Json)
  | obj members => members
  | _ => []

def toText (v : Json) : String :=
  v.asText.getD ""

/-- The elements of the member `name`. -/
def items (v : Json) (name : String) : List Json :=
  (v.field name).elements

def texts (v : Json) (name : String) : List String :=
  (v.items name).map toText

end Switchboard.Json
