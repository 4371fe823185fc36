import Switchboard.Format.Toml.Date
import Switchboard.Settings.Tree
import Switchboard.Text.Bytes
import Switchboard.Text.Scan

/-!
# Values in TOML

Texts in four forms, whole numbers to four bases, numbers, truth values, dates as texts, lists and
inline tables.
-/

namespace Switchboard.Format.Toml

open Scan

/-- Whether a character may stand in a text or a comment. -/
def isPlain (c : Char) : Bool :=
  c = '\t' || (0x20 ≤ c.toNat && c.toNat ≠ 0x7F)

def skipBlanks : Scan Unit :=
  skipWhile fun c => c = ' ' || c = '\t'

/-- Takes the end of a line. -/
def lineEnd? : Scan Bool :=
  acceptAny ["\n", "\r\n"]

def skipComment : Scan Unit := do
  if ← accept "#" then skipWhile isPlain

/-- Takes blanks, comments and line ends. -/
def skip : Scan Unit := do
  let _ ← many do
    skipBlanks
    skipComment
    if ← lineEnd? then return some () else return none

/-! ### Texts -/

/-- Takes a character by its number in `n` digits. -/
def numbered (n : Nat) : Scan (List Char) := do
  let code ← hexNumber Bytes.nibble? n 0
  guard code.isValidChar
  return [Char.ofNat code]

/-- Takes an escape after its backslash. -/
def escape : Scan (List Char) := do
  let c ← next
  if c = 'b' then return [Char.ofNat 8]
  else if c = 't' then return ['\t']
  else if c = 'n' then return ['\n']
  else if c = 'f' then return [Char.ofNat 12]
  else if c = 'r' then return ['\r']
  else if c = '"' || c = '\\' then return [c]
  else if c = 'u' then numbered 4
  else if c = 'U' then numbered 8
  else fail

/-- Takes a text on one line after its opening quote. -/
def basicText : Scan String := do
  let pieces ← many do
    let c ← next
    if c = '"' then return none
    if c = '\\' then return some (← escape)
    guard (isPlain c)
    return some [c]
  return String.ofList pieces.flatten

def literalText : Scan String := do
  let cs ← takeWhile fun c => isPlain c && c ≠ '\''
  expect "'"
  return String.ofList cs

/-- Takes the quotes that end a text over several lines: three of them, and up to two in front that
belong to the text. -/
def closing (quote : Char) : Scan (Option (List Char)) := do
  let quotes := (← get).takeWhile (· = quote)
  if quotes.length < 3 then return none
  let n := min quotes.length 5
  modify (·.drop n)
  return some (List.replicate (n - 3) quote)

/-- Takes a character of a text over several lines. -/
def longChar : Scan (List Char) := do
  if ← lineEnd? then return ['\n']
  let c ← next
  guard (isPlain c)
  return [c]

/-- Takes the rest of a text over several lines. `escapes` are taken after a backslash if there
are any. -/
def longText (quote : Char) (escapes : Option (Scan (List Char))) : Nat → Scan (List Char)
  | 0 => fail
  | fuel + 1 => do
    match ← closing quote with
    | some quotes => return quotes
    | none =>
      let piece ← match escapes, ← peek? with
        | some escapes, some '\\' =>
          let _ ← next
          escapes
        | _, _ => longChar
      return piece ++ (← longText quote escapes fuel)

/-- Takes an escape, or a line end and all blanks after it. -/
def longEscape : Scan (List Char) := do
  let rest := (← get).dropWhile fun c => c = ' ' || c = '\t'
  match rest with
  | '\n' :: _ | '\r' :: '\n' :: _ =>
    skipWhile fun c => c = ' ' || c = '\t' || c = '\n' || c = '\r'
    return []
  | _ => escape

/-- Takes a text over several lines after its opening quotes. A line end right there does not
count. -/
def longTextOf (quote : Char) (escapes : Option (Scan (List Char))) : Scan String := do
  let _ ← lineEnd?
  let cs ← longText quote escapes ((← get).length + 1)
  return String.ofList cs

/-! ### Keys -/

def isBare (c : Char) : Bool :=
  c.isAlphanum || c = '_' || c = '-'

def key : Scan String := do
  if ← accept "\"" then basicText
  else if ← accept "'" then literalText
  else return String.ofList (← takeSome isBare)

/-- Takes names with points between them. -/
def keyPath : Scan (List String) := do
  let first ← key
  let more ← many do
    skipBlanks
    if ← accept "." then
      skipBlanks
      return some (← key)
    else return none
  return first :: more

/-! ### Numbers and words -/

/-- The digits, if each underscore stands between two of them. -/
def digits? (isDigit : Char → Bool) (cs : List Char) : Option (List Char) :=
  let groups := cs.splitOn '_'
  if groups.all fun g => g ≠ [] && g.all isDigit then some groups.flatten else none

/-- A whole number to a base. -/
def based (base : Nat) (cs : List Char) : Option ConfigTree := do
  let ds ← digits? (fun c => (Bytes.nibble? c).any (· < base)) cs
  let n := (ds.filterMap Bytes.nibble?).foldl (fun n d => base * n + d) 0
  if n < Nat.pow 2 63 then return .int n else none

/-- Refuses a leading zero. -/
def wholePart (cs : List Char) : Option (List Char) := do
  let ds ← digits? Char.isDigit cs
  if ds.head? = some '0' ∧ ds.length ≠ 1 then none else return ds

/-- A fraction with its point and an exponent. -/
def numberOf (negative : Bool) (whole rest : List Char) : Option ConfigTree := do
  let whole ← wholePart whole
  let (fraction, rest) ← match rest with
    | '.' :: rest => do
      let ds ← digits? Char.isDigit (rest.takeWhile fun c => c.isDigit || c = '_')
      some (ds, rest.dropWhile fun c => c.isDigit || c = '_')
    | rest => some ([], rest)
  let exponent : Int ← match rest with
    | [] => some 0
    | c :: rest =>
      if c = 'e' || c = 'E' then
        match rest with
        | '-' :: ds => (digits? Char.isDigit ds).map fun ds => -(Decimal.value ds : Int)
        | '+' :: ds | ds => (digits? Char.isDigit ds).map fun ds => (Decimal.value ds : Int)
      else none
  return .float (.ofDecimal negative (Decimal.value (whole ++ fraction))
    (exponent - fraction.length))

/-- The number that the characters write after a sign. -/
def decimal (negative : Bool) (cs : List Char) : Option ConfigTree :=
  let isPart (c : Char) : Bool := c.isDigit || c = '_'
  if cs = "inf".toList then some (.float (.infinite negative))
  else if cs = "nan".toList then some (.float .nan)
  else match cs.dropWhile isPart with
    | [] => do
      let n : Int := Decimal.value (← wholePart cs)
      let n := if negative then -n else n
      if Decimal.fitsInt64 n then return .int n else none
    | rest => numberOf negative (cs.takeWhile isPart) rest

/-- What a word stands for: a truth value, a number or a date. -/
def ofWord (cs : List Char) : Option ConfigTree :=
  match cs with
  | '0' :: 'x' :: ds => based 16 ds
  | '0' :: 'o' :: ds => based 8 ds
  | '0' :: 'b' :: ds => based 2 ds
  | '-' :: ds => decimal true ds
  | '+' :: ds => decimal false ds
  | cs =>
    if cs = "true".toList then some (.bool true)
    else if cs = "false".toList then some (.bool false)
    else match decimal false cs with
      | some v => some v
      | none => (Date.ofChars? cs).map fun d => .text d

def isWordChar (c : Char) : Bool :=
  c.isAlphanum || c = '_' || c = '-' || c = '+' || c = '.' || c = ':'

/-- Takes a word. A date may be set off from a time of day by a blank. -/
def word : Scan (List Char) := do
  let first ← takeSome isWordChar
  match ← get with
  | ' ' :: a :: b :: ':' :: _ =>
    if Date.isDate first && a.isDigit && b.isDigit then
      let _ ← next
      return first ++ 'T' :: (← takeSome isWordChar)
    else return first
  | _ => return first

/-- Puts a value at the end of a path of names. Only tables that paths have made are entered. -/
def insertAt (v : ConfigTree) : List String → List (String × ConfigTree) →
    Option (List (String × ConfigTree))
  | [], _ => none
  | [name], members =>
    if (members.lookup name).isSome then none else some (members ++ [(name, v)])
  | name :: rest, members =>
    match members.lookup name with
    | none => do return members ++ [(name, .table (← insertAt v rest []))]
    | some (.table inner) => do
      return ConfigTree.put name (.table (← insertAt v rest inner)) members
    | some _ => none

/-- Takes a value that is nested at most `depth` levels deep. -/
def value : Nat → Scan ConfigTree
  | 0 => fail
  | depth + 1 => do
    if ← accept "\"\"\"" then return .text (← longTextOf '"' (some longEscape))
    if ← accept "'''" then return .text (← longTextOf '\'' none)
    if ← accept "\"" then return .text (← basicText)
    if ← accept "'" then return .text (← literalText)
    if ← accept "[" then return .list (← items skip (value depth) "," "]" true)
    if ← accept "\x7b" then
      let members ← items skipBlanks (member (value depth)) "," "\x7d" false
      return .table (← given (members.foldlM (fun ms m => insertAt m.2 m.1 ms) []))
    given (ofWord (← word))
where
  member (value : Scan ConfigTree) : Scan (List String × ConfigTree) := do
    let path ← keyPath
    skipBlanks
    expect "="
    skipBlanks
    return (path, ← value)

end Switchboard.Format.Toml
