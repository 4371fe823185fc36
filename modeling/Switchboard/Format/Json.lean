import Switchboard.Json.Reader
import Switchboard.Settings.Tree

/-!
# Settings in JSON

Whole numbers of 64 bits, with or without a sign, stay whole numbers.
-/

namespace Switchboard.Format.Json

/-- How deeply lists and objects may be nested. -/
def maxDepth : Nat := 127

/-- The tree of a value that is nested at most `depth` levels deep. -/
def tree : Nat → Json → Option ConfigTree
  | _, .null => some .nil
  | _, .bool b => some (.bool b)
  | _, .int n =>
    if -Int.pow 2 63 ≤ n ∧ n < Int.pow 2 64 then some (.int n)
    else some (.float (.ofDecimal (n < 0) n.natAbs 0))
  | _, .decimal negative mantissa exponent =>
    match Double.ofDecimal negative mantissa exponent with
    | .infinite _ => none
    | d => some (.float d)
  | _, .str s => some (.text s)
  | _, .loose .. => none
  | 0, .arr _ | 0, .obj _ => none
  | depth + 1, .arr items => do
    return .list (← items.mapM (tree depth))
  | depth + 1, .obj members => do
    return .ofMembers (← members.mapM fun m => return (m.1, ← tree depth m.2))

def read (text : String) : Option ConfigTree :=
  (Json.parse text).bind (tree maxDepth)

end Switchboard.Format.Json
