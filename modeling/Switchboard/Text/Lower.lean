import Switchboard.Text.CaseTable
import Switchboard.Text.Ranges

/-!
# Lower case

`lower` maps a text to lower case in every script. Two characters need more than a table: the
dotted capital I becomes two characters, and the Greek sigma has a form of its own at the end of
a word.
-/

namespace Switchboard.Text

/-- The character that a run of the case table maps `n` to. -/
def shifted (n : Nat) : List (Nat × Nat × Nat × Int) → Option Nat
  | [] => none
  | (first, last, step, shift) :: rest =>
    if first ≤ n && n ≤ last && (n - first) % step == 0 then some (n + shift).toNat
    else shifted n rest

/-- Whether the nearest character of `cs` that counts for a word has a case. -/
def startsCased (cs : List Char) : Bool :=
  match cs.dropWhile (inRanges caseIgnorableRanges) with
  | [] => false
  | c :: _ => inRanges casedRanges c

/-- The lower case of `c`, which stands after `before` (nearest first) and before `after`. -/
def lowerChar (before : List Char) (c : Char) (after : List Char) : List Char :=
  if c.toNat < 128 then [c.toLower]
  else if c.toNat == 0x130 then ['i', Char.ofNat 0x307]
  else if c.toNat == 0x3A3 then
    if startsCased before && !startsCased after then [Char.ofNat 0x3C2] else [Char.ofNat 0x3C3]
  else match shifted c.toNat lowerRuns with
    | some n => [Char.ofNat n]
    | none => [c]

def lowerChars (before : List Char) : List Char → List Char
  | [] => []
  | c :: rest => lowerChar before c rest ++ lowerChars (c :: before) rest

/-- `s` in lower case. -/
def lower (s : String) : String :=
  String.ofList (lowerChars [] s.toList)

end Switchboard.Text
