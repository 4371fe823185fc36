import Switchboard.Settings.Tree
import Switchboard.Text.Alphanumeric
import Switchboard.Text.Blank
import Switchboard.Text.Bytes
import Switchboard.Text.Scan

/-!
# Settings in relaxed JSON

JSON with comments, names without quotes, texts in either kind of quotes, hexadecimal numbers and a
comma after the last item.
-/

namespace Switchboard.Format.JsonFive

open Scan

def isLineEnd (c : Char) : Bool :=
  c = '\n' || c = '\r' || c.toNat = 0x2028 || c.toNat = 0x2029

def isSpace (c : Char) : Bool :=
  (Text.isBlank c && c.toNat ≠ 0x85) || c.toNat = 0xFEFF

/-- Takes the rest of a comment up to the end of it. -/
def blockComment : List Char → Option (List Char)
  | [] => none
  | '*' :: '/' :: rest => some rest
  | _ :: rest => blockComment rest

/-- Takes spaces and comments. -/
def skip : Scan Unit := do
  let _ ← many do
    skipWhile isSpace
    if ← accept "//" then
      skipWhile (!isLineEnd ·)
      return some ()
    if ← accept "/*" then
      set (← given (blockComment (← get)))
      return some ()
    return none

/-- Takes the four digits of a numbered character, and a second number if the first one is half of
a pair. -/
def unit : Scan Char := do
  let n ← hexNumber Bytes.nibble? 4 0
  if 0xD800 ≤ n && n < 0xDC00 then
    expect "\\u"
    let m ← hexNumber Bytes.nibble? 4 0
    guard (0xDC00 ≤ m && m < 0xE000)
    return Char.ofNat (0x10000 + (n - 0xD800) * 0x400 + (m - 0xDC00))
  guard (!(0xDC00 ≤ n && n < 0xE000))
  return Char.ofNat n

/-- Takes an escape after its backslash. The end of a line is passed over. -/
def escape : Scan (List Char) := do
  let c ← next
  if c = 'b' then return [Char.ofNat 8]
  else if c = 'f' then return [Char.ofNat 12]
  else if c = 'n' then return ['\n']
  else if c = 'r' then return ['\r']
  else if c = 't' then return ['\t']
  else if c = 'v' then return [Char.ofNat 11]
  else if c = '0' then return [Char.ofNat 0]
  else if c = 'x' then return [Char.ofNat (← hexNumber Bytes.nibble? 2 0)]
  else if c = 'u' then return [← unit]
  else if c = '\r' then
    let _ ← accept "\n"
    return []
  else if isLineEnd c then return []
  else
    guard (!c.isDigit)
    return [c]

/-- Takes the rest of a text up to the quote that it began with. -/
def quotedText (quote : Char) : Scan String := do
  let pieces ← many do
    let c ← next
    if c = quote then return none
    if c = '\\' then return some (← escape)
    guard (!isLineEnd c)
    return some [c]
  return String.ofList pieces.flatten

def isNameStart (c : Char) : Bool :=
  c = '$' || c = '_' || (Text.isAlphanumeric c && !c.isDigit)

def isNamePart (c : Char) : Bool :=
  isNameStart c || c.isDigit || c.toNat = 0x200C || c.toNat = 0x200D

/-- Takes the name of a member. -/
def key : Scan String := do
  match ← peek? with
  | some '"' | some '\'' => quotedText (← next)
  | some c =>
    guard (isNameStart c || c = '\\')
    let cs ← many do
      match ← peek? with
      | some '\\' =>
        expect "\\u"
        return some (← unit)
      | some c => if isNamePart c then return some (← next) else return none
      | none => return none
    return String.ofList cs
  | none => fail

/-- Takes the digits of a hexadecimal number. -/
def hexDigits : Scan Nat := do
  let ds ← takeSome fun c => (Bytes.nibble? c).isSome
  return ds.foldl (fun n c => 16 * n + (Bytes.nibble? c).getD 0) 0

/-- Takes a decimal number: the part before the point, the one after it and the exponent. -/
def decimal (negative : Bool) : Scan ConfigTree := do
  let whole ← takeWhile Char.isDigit
  guard (whole.head? ≠ some '0' || whole.length = 1)
  let point ← accept "."
  let fraction ← if point then takeWhile Char.isDigit else pure []
  guard (whole ≠ [] || fraction ≠ [])
  let exponent ← exponent?
  if !point && exponent.isNone then
    let n : Int := Decimal.value whole
    let n := if negative then -n else n
    guard (Decimal.fitsInt64 n)
    return .int n
  match Double.ofDecimal negative (Decimal.value (whole ++ fraction))
      (exponent.getD 0 - fraction.length) with
  | .infinite _ => fail
  | d => return .float d
where
  exponent? : Scan (Option Int) := do
    if ← acceptAny ["e", "E"] then
      let minus ← accept "-"
      unless minus do let _ ← accept "+"
      let n : Int := Decimal.value (← takeSome Char.isDigit)
      return some (if minus then -n else n)
    else return none

/-- Takes a number. Only a number without a sign may be hexadecimal, and it has to fit into 32
bits. -/
def number : Scan ConfigTree := do
  let minus ← accept "-"
  let plus ← if minus then pure false else accept "+"
  if ← accept "Infinity" then
    guard (!plus)
    return .float (.infinite minus)
  if ← accept "NaN" then
    guard (!plus)
    return .float .nan
  if ← acceptAny ["0x", "0X"] then
    let n ← hexDigits
    guard (!minus && !plus && n < Nat.pow 2 32)
    return .int n
  decimal minus

/-- Takes a value that is nested at most `depth` levels deep. -/
def value : Nat → Scan ConfigTree
  | 0 => fail
  | depth + 1 => do
    match ← peek? with
    | some '[' =>
      let _ ← next
      return .list (← items skip (value depth) "," "]" true)
    | some '\x7b' =>
      let _ ← next
      return .ofMembers (← items skip (member (value depth)) "," "\x7d" true)
    | some '"' | some '\'' => return .text (← quotedText (← next))
    | _ =>
      if ← accept "null" then return .nil
      if ← accept "true" then return .bool true
      if ← accept "false" then return .bool false
      number
where
  member (value : Scan ConfigTree) : Scan (String × ConfigTree) := do
    let name ← key
    skip
    expect ":"
    skip
    return (name, ← value)

def read (text : String) : Option ConfigTree :=
  Scan.whole? (do
    skip
    let v ← value (text.length + 1)
    skip
    return v) text

end Switchboard.Format.JsonFive
