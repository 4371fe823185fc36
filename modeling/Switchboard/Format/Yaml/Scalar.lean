import Switchboard.Settings.Tree
import Switchboard.Text.Bytes
import Switchboard.Text.Scan

/-!
# Scalars in YAML

What a word without quotes stands for, and texts in the two kinds of quotes. A line end inside
quotes counts as a blank, and an empty line as a line end.
-/

namespace Switchboard.Format.Yaml

open Scan

/-- What a scalar without quotes may be besides a text. -/
inductive Word
  | null
  | bool (b : Bool)
  | int (n : Int)
  /-- Looks like a number with a fraction or an exponent. -/
  | real (s : String)
  | text (s : String)
deriving Repr

/-- A whole number to a base, if it fits into 64 bits. -/
def based? (base : Nat) (cs : List Char) : Option Int :=
  if cs ≠ [] ∧ cs.all (fun c => (Bytes.nibble? c).any (· < base)) then
    let n := (cs.filterMap Bytes.nibble?).foldl (fun n d => base * n + d) 0
    if n < Nat.pow 2 63 then some n else none
  else none

def whole? (cs : List Char) : Option Int :=
  (Decimal.integer? cs).filter Decimal.fitsInt64

/-- A whole number with the mark of its base or a plus sign. -/
def marked? : List Char → Option Int
  | '0' :: 'x' :: cs => based? 16 cs
  | '0' :: 'o' :: cs => based? 8 cs
  | '+' :: cs => whole? cs
  | _ => none

/-- The names of infinity and of no number. -/
def specialReals : List String :=
  [".inf", ".Inf", ".INF", "+.inf", "+.Inf", "+.INF", "-.inf", "-.Inf", "-.INF", ".nan", ".NaN",
    ".NAN"]

def isReal (s : String) : Bool :=
  specialReals.contains s || (s.toList.any Char.isDigit && (Double.ofText? s).isSome)

def Word.ofText (s : String) : Word :=
  match marked? s.toList with
  | some n => .int n
  | none =>
    if s = "" ∨ s = "~" ∨ s = "null" then .null
    else if s = "true" then .bool true
    else if s = "false" then .bool false
    else match whole? s.toList with
      | some n => .int n
      | none => if isReal s then .real s else .text s

/-- The value of a word. The names of infinity and of no number have none. -/
def Word.tree? : Word → Option ConfigTree
  | null => some .nil
  | bool b => some (.bool b)
  | int n => some (.int n)
  | real s => (Double.ofText? s).map .float
  | text s => some (.text s)

/-- The name that a word gives to a member. -/
def Word.key? : Word → Option String
  | null => none
  | bool b => some (if b then "true" else "false")
  | int n => some (toString n)
  | real s | text s => some s

/-- The value of a word under a tag. A value that does not fit the tag is null. -/
def tagged (tag s : String) : Option ConfigTree :=
  if tag = "!!bool" then
    some (if s = "true" then .bool true else if s = "false" then .bool false else .nil)
  else if tag = "!!int" then
    some (match whole? s.toList with
      | some n => .int n
      | none => .nil)
  else if tag = "!!float" then if isReal s then (Double.ofText? s).map .float else some .nil
  else if tag = "!!null" then some .nil
  else some (.text s)

def isBlank (c : Char) : Bool := c = ' ' || c = '\t'

/-- Takes a line end inside quotes, with the blanks around it. -/
def foldedEnd : Scan (Option (List Char)) := do
  match (← get).dropWhile isBlank with
  | '\n' :: rest =>
    let empty := rest.takeWhile fun c => isBlank c || c = '\n'
    set (rest.dropWhile fun c => isBlank c || c = '\n')
    let n := empty.count '\n'
    return some (if n = 0 then [' '] else List.replicate n '\n')
  | _ => return none

/-- Takes an escape after its backslash. -/
def escape : Scan (List Char) := do
  let c ← next
  match escapes.lookup c with
  | some n => return [Char.ofNat n]
  | none =>
    if c = 'x' then numbered 2
    else if c = 'u' then numbered 4
    else if c = 'U' then numbered 8
    else if c = '\n' then
      skipWhile isBlank
      return []
    else fail
where
  escapes : List (Char × Nat) :=
    [('0', 0), ('a', 7), ('b', 8), ('t', 9), ('\t', 9), ('n', 10), ('v', 11), ('f', 12), ('r', 13),
      ('e', 0x1B), (' ', 0x20), ('"', 0x22), ('/', 0x2F), ('\\', 0x5C), ('N', 0x85), ('_', 0xA0),
      ('L', 0x2028), ('P', 0x2029)]
  numbered (n : Nat) : Scan (List Char) := do
    let code ← hexNumber Bytes.nibble? n 0
    guard code.isValidChar
    return [Char.ofNat code]

/-- Takes the rest of a text in double quotes. -/
def doubleQuoted : Scan String := do
  let pieces ← many do
    if let some cs ← foldedEnd then return some cs
    let c ← next
    if c = '"' then return none
    if c = '\\' then return some (← escape)
    return some [c]
  return String.ofList pieces.flatten

/-- Takes the rest of a text in single quotes. -/
def singleQuoted : Scan String := do
  let pieces ← many do
    if let some cs ← foldedEnd then return some cs
    if ← accept "''" then return some ['\'']
    let c ← next
    if c = '\'' then return none
    return some [c]
  return String.ofList pieces.flatten

/-- Takes a text in quotes, if one comes next. -/
def quoted? : Scan (Option String) := do
  if ← accept "\"" then return some (← doubleQuoted)
  if ← accept "'" then return some (← singleQuoted)
  return none

end Switchboard.Format.Yaml
