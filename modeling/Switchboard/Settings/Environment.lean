import Switchboard.Settings.Tree

/-!
# Settings from environment variables

Variables whose names begin with `FLEXLINK_`, in letters of any case, make up a layer. Two
underscores in the rest of a name separate the steps of a path. A value is a truth value, a whole
number or a number if it reads as one, and a text otherwise.
-/

namespace Switchboard

/-- Environment variables, none of them twice. -/
abbrev Environment := List (String × String)

namespace Environment

/-- What the names begin with, in lower case. -/
def start : List Char := "flexlink_".toList

/-- Puts a point in place of each two underscores. -/
def separate : List Char → List Char
  | '_' :: '_' :: rest => '.' :: separate rest
  | c :: rest => c :: separate rest
  | [] => []

/-- The path that a variable sets, if it is about settings. -/
def key? (name : String) : Option String :=
  let cs := (Text.lower name).toList
  if start.isPrefixOf cs then some (String.ofList (separate (cs.drop start.length))) else none

/-- The value that a text stands for. -/
def value (s : String) : ConfigTree :=
  let word := Text.lower s
  if word = "true" then .bool true
  else if word = "false" then .bool false
  else match (Decimal.integer? s.toList).filter Decimal.fitsInt64 with
    | some n => .int n
    | none =>
      match Double.ofText? s with
      | some d => .float d
      | none => .text s

/-- The layer of the variables that are about settings. -/
def layer (env : Environment) : Layer :=
  (ConfigTree.ofMembers (env.filterMap fun v => (key? v.1).map (·, value v.2))).members

end Environment

end Switchboard
