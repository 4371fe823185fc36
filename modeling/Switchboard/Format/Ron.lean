import Switchboard.Settings.Tree
import Switchboard.Text.Blank
import Switchboard.Text.Bytes
import Switchboard.Text.Scan

/-!
# Settings in object notation

Records `(name: value)`, tuples `(a, b)`, lists, maps, optional values, texts, characters and
numbers. The name of a record or a variant is passed over. Attributes in front of the value are not
part of what is read here.
-/

namespace Switchboard.Format.Ron

open Scan

/-- Takes the rest of a comment that has `depth` more comments around it. -/
def blockComment : Nat → List Char → Option (List Char)
  | _, [] => none
  | 0, '*' :: '/' :: rest => some rest
  | depth + 1, '*' :: '/' :: rest => blockComment depth rest
  | depth, '/' :: '*' :: rest => blockComment (depth + 1) rest
  | depth, _ :: rest => blockComment depth rest

/-- Takes spaces and comments. -/
def skip : Scan Unit := do
  let _ ← many do
    skipWhile Text.isBlank
    if ← accept "//" then
      skipWhile (· ≠ '\n')
      return some ()
    if ← accept "/*" then
      set (← given (blockComment 0 (← get)))
      return some ()
    return none

/-- Takes an escape after its backslash. -/
def escape : Scan Char := do
  let c ← next
  if c = '"' || c = '\'' || c = '\\' then return c
  else if c = 'n' then return '\n'
  else if c = 'r' then return '\r'
  else if c = 't' then return '\t'
  else if c = '0' then return Char.ofNat 0
  else if c = 'x' then return Char.ofNat (← hexNumber Bytes.nibble? 2 0)
  else if c = 'u' then
    expect "\x7b"
    let ds ← takeSome fun c => (Bytes.nibble? c).isSome
    expect "\x7d"
    guard (ds.length ≤ 6)
    let n := ds.foldl (fun n c => 16 * n + (Bytes.nibble? c).getD 0) 0
    guard n.isValidChar
    return Char.ofNat n
  else fail

/-- Takes the rest of a text after its opening quote. -/
def quotedText : Scan String := do
  let cs ← many do
    let c ← next
    if c = '"' then return none
    if c = '\\' then return some (← escape)
    return some c
  return String.ofList cs

/-- Takes a text without escapes, whose end may be set off by marks. -/
def rawText : Scan String := do
  expect "r"
  let close := String.ofList ('"' :: (← takeWhile (· = '#')))
  expect "\""
  let cs ← many do
    if ← accept close then return none
    return some (← next)
  return String.ofList cs

def isNameStart (c : Char) : Bool := c.isAlpha || c = '_'

def isNamePart (c : Char) : Bool := c.isAlphanum || c = '_'

def name? : Scan (Option String) := do
  match ← peek? with
  | some c =>
    if isNameStart c then return some (String.ofList (← takeWhile isNamePart)) else return none
  | none => return none

/-- Takes the digits of a number to the base `base`. Underscores between them do not count. -/
def digits (base : Nat) : Scan Nat := do
  let ds ← takeSome fun c => c = '_' || (Bytes.nibble? c).any (· < base)
  guard (ds.head? ≠ some '_')
  return (ds.filterMap Bytes.nibble?).foldl (fun n d => base * n + d) 0

def whole (negative : Bool) (n : Nat) : ConfigTree :=
  let n : Int := if negative then -n else n
  if Decimal.fitsInt64 n then .int n else .float (.ofDecimal negative n.natAbs 0)

/-- Takes a number after its sign. -/
def magnitude (negative : Bool) : Scan ConfigTree := do
  if ← accept "inf" then return .float (.infinite negative)
  if ← accept "NaN" then return .float .nan
  if ← accept "0x" then return whole negative (← digits 16)
  if ← accept "0o" then return whole negative (← digits 8)
  if ← accept "0b" then return whole negative (← digits 2)
  let cs ← takeSome fun c => c.isDigit || c = '_'  || c = '.' || c = 'e' || c = 'E'
  let tail ← if cs.getLast?.any (fun c => c = 'e' || c = 'E') then
      takeWhile fun c => c.isDigit || c = '_' || c = '+' || c = '-'
    else pure []
  let cs := (cs ++ tail).filter (· ≠ '_')
  match Decimal.ofDigits? cs with
  | some n => return whole negative n
  | none => return .float (← given (Double.readDecimal negative cs))

def number : Scan ConfigTree := do
  let minus ← accept "-"
  unless minus do let _ ← accept "+"
  magnitude minus

/-- Whether a record follows, that is, a name and a colon. -/
def seesField : Scan Bool := fun cs =>
  let field : Scan Bool := do
    skip
    match ← name? with
    | none => return false
    | some _ =>
      skip
      sees ":"
  some (((field.run cs).map (·.1)).getD false, cs)

def member (key value : Scan α) : Scan (α × α) := do
  let k ← key
  skip
  expect ":"
  skip
  return (k, ← value)

/-- The key of a member as a text. -/
def keyed : ConfigTree × ConfigTree → Option (String × ConfigTree)
  | (.text key, v) => some (key, v)
  | _ => none

def fieldName : Scan ConfigTree := do
  return .text (← given (← name?))

mutual

/-- Takes a value that is nested at most `depth` levels deep. -/
def value : Nat → Scan ConfigTree
  | 0 => fail
  | depth + 1 => do
    match ← peek? with
    | some '(' => group depth
    | some '[' =>
      let _ ← next
      return .list (← items skip (value depth) "," "]" true)
    | some '\x7b' =>
      let _ ← next
      let members ← items skip (member (value depth) (value depth)) "," "\x7d" true
      return .ofMembers (← given (members.mapM keyed))
    | some '"' =>
      let _ ← next
      return .text (← quotedText)
    | some '\'' =>
      let _ ← next
      let c ← next
      let c ← if c = '\\' then escape else pure c
      expect "'"
      return .text (String.ofList [c])
    | some c =>
      if c.isDigit || c = '+' || c = '-' || c = '.' then number
      else if (← sees "r\"") || (← sees "r#") then return .text (← rawText)
      else named depth (← given (← name?))
    | none => fail

/-- Takes what follows a name. -/
def named : Nat → String → Scan ConfigTree
  | 0, _ => fail
  | depth + 1, name => do
    if name = "true" then return .bool true
    if name = "false" then return .bool false
    if name = "None" then return .nil
    if name = "inf" then return .float (.infinite false)
    if name = "NaN" then return .float .nan
    skip
    if ← sees "(" then
      if name = "Some" then
        expect "("
        skip
        let v ← value depth
        skip
        let _ ← accept ","
        skip
        expect ")"
        return v
      group depth
    else return .nil

/-- Takes a record or a tuple. Empty brackets hold nothing. -/
def group : Nat → Scan ConfigTree
  | 0 => fail
  | depth + 1 => do
    expect "("
    if ← accept ")" then return .nil
    if ← seesField then
      let members ← items skip (member fieldName (value depth)) "," ")" true
      return .ofMembers (← given (members.mapM keyed))
    return .list (← items skip (value depth) "," ")" true)

end

def read (text : String) : Option ConfigTree :=
  Scan.whole? (do
    skip
    let v ← value (2 * text.length + 2)
    skip
    return v) text

end Switchboard.Format.Ron
