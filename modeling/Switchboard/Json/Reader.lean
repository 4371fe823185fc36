import Switchboard.Decimal.Whole
import Switchboard.Json.Basic

/-!
# Reading JSON text

A text is read if it is one value with nothing but spaces around it. Each step of the reader
takes at least one character, so the length of the text bounds the depth of the recursion.
-/

namespace Switchboard.Json

def isSpace (c : Char) : Bool :=
  c = ' ' || c = '\n' || c = '\r' || c = '\t'

def skipSpaces (cs : List Char) : List Char :=
  cs.dropWhile isSpace

/-- A piece of a string: a character, a bare control character or half of a surrogate pair. -/
inductive Piece
  | char (c : Char)
  | bare (c : Char)
  | half (unit : Nat)
deriving Repr

/-- The value of four hexadecimal digits. -/
def hex4 (a b c d : Char) : Option Nat := do
  let a ← Bytes.nibble? a
  let b ← Bytes.nibble? b
  let c ← Bytes.nibble? c
  let d ← Bytes.nibble? d
  return ((a * 16 + b) * 16 + c) * 16 + d

def isHighHalf (n : Nat) : Bool := 0xD800 ≤ n && n ≤ 0xDBFF

def isLowHalf (n : Nat) : Bool := 0xDC00 ≤ n && n ≤ 0xDFFF

/-- The piece that the code unit `n` stands for. -/
def unitPiece (n : Nat) : Piece :=
  if isHighHalf n || isLowHalf n then .half n else .char (Char.ofNat n)

/-- The character of a surrogate pair. -/
def joinHalves (high low : Nat) : Char :=
  Char.ofNat (0x10000 + (high - 0xD800) * 0x400 + (low - 0xDC00))

def simpleEscape (c : Char) : Option Char :=
  if c = '"' then some '"'
  else if c = '\\' then some '\\'
  else if c = '/' then some '/'
  else if c = 'b' then some (Char.ofNat 8)
  else if c = 'f' then some (Char.ofNat 12)
  else if c = 'n' then some '\n'
  else if c = 'r' then some '\r'
  else if c = 't' then some '\t'
  else none

/-- Reads the rest of a string after its opening quote. -/
def readPieces : List Char → Option (List Piece × List Char)
  | [] => none
  | '"' :: rest => some ([], rest)
  | '\\' :: 'u' :: a :: b :: c :: d :: rest => do
    let n ← hex4 a b c d
    let (pieces, after) ← readPieces rest
    match pieces with
    | .half m :: more =>
      if isHighHalf n && isLowHalf m then return (.char (joinHalves n m) :: more, after)
      else return (unitPiece n :: pieces, after)
    | _ => return (unitPiece n :: pieces, after)
  | '\\' :: c :: rest => do
    let e ← simpleEscape c
    let (pieces, after) ← readPieces rest
    return (.char e :: pieces, after)
  | c :: rest => do
    if c = '\\' then none
    else
      let (pieces, after) ← readPieces rest
      return ((if c.toNat < 0x20 then .bare c else .char c) :: pieces, after)

/-- The text of the pieces, if they are all characters. -/
def textOf : List Piece → Option (List Char)
  | [] => some []
  | .char c :: rest => (textOf rest).map (c :: ·)
  | _ :: _ => none

def Piece.isBare : Piece → Bool
  | .bare _ => true
  | _ => false

/-- The bytes of a piece. Half of a surrogate pair is encoded like a character of its number. -/
def Piece.bytes : Piece → Bytes
  | .char c | .bare c => Bytes.ofText (String.ofList [c])
  | .half n =>
    [UInt8.ofNat (0xE0 + n / 0x1000), UInt8.ofNat (0x80 + n / 0x40 % 0x40),
      UInt8.ofNat (0x80 + n % 0x40)]

/-- The value of a string made of `pieces`. -/
def ofPieces (pieces : List Piece) : Json :=
  match textOf pieces with
  | some cs => .str (String.ofList cs)
  | none => .loose (pieces.flatMap Piece.bytes) (pieces.any Piece.isBare)

/-- The digits of a fraction, if a point follows. A point needs digits after it. -/
def readFraction : List Char → Option (Option (List Char) × List Char)
  | '.' :: rest =>
    match Decimal.takeDigits rest with
    | ([], _) => none
    | (ds, after) => some (some ds, after)
  | cs => some (none, cs)

/-- Splits off a sign, if there is one, and tells whether it is a minus. -/
def takeSign : List Char → Bool × List Char
  | '-' :: rest => (true, rest)
  | '+' :: rest => (false, rest)
  | rest => (false, rest)

/-- The power of ten of an exponent, if one follows. -/
def readExponent : List Char → Option (Option Int × List Char)
  | [] => some (none, [])
  | c :: rest =>
    if c = 'e' || c = 'E' then
      let (minus, rest) := takeSign rest
      match Decimal.takeDigits rest with
      | ([], _) => none
      | (ds, after) =>
        some (some (if minus then -(Decimal.value ds : Int) else Decimal.value ds), after)
    else some (none, c :: rest)

/-- Reads a number after its sign. A leading zero stands alone, and a negative zero is no whole
number. -/
def readNumber (negative : Bool) (cs : List Char) : Option (Json × List Char) :=
  match Decimal.takeDigits cs with
  | ([], _) => none
  | (whole, rest) =>
    if whole.head? = some '0' && whole.length ≠ 1 then none
    else do
      let (fraction, rest) ← readFraction rest
      let (exponent, rest) ← readExponent rest
      match fraction, exponent with
      | none, none =>
        let n := Decimal.value whole
        if negative then
          return (if n = 0 then .decimal true 0 0 else .int (-(n : Int)), rest)
        else return (.int n, rest)
      | _, _ =>
        let ds := fraction.getD []
        return (.decimal negative (Decimal.value (whole ++ ds)) (exponent.getD 0 - ds.length), rest)

mutual

/-- Reads a value. `fuel` bounds the nesting. -/
def readValue : Nat → List Char → Option (Json × List Char)
  | 0, _ => none
  | fuel + 1, cs =>
    match skipSpaces cs with
    | 'n' :: 'u' :: 'l' :: 'l' :: rest => some (.null, rest)
    | 't' :: 'r' :: 'u' :: 'e' :: rest => some (.bool true, rest)
    | 'f' :: 'a' :: 'l' :: 's' :: 'e' :: rest => some (.bool false, rest)
    | '"' :: rest => (readPieces rest).map fun (pieces, after) => (ofPieces pieces, after)
    | '-' :: rest => readNumber true rest
    | '[' :: rest =>
      match skipSpaces rest with
      | ']' :: after => some (.arr [], after)
      | rest => do
        let (v, rest) ← readValue fuel rest
        let (vs, after) ← readItems fuel rest
        return (.arr (v :: vs), after)
    | '\x7b' :: rest =>
      match skipSpaces rest with
      | '\x7d' :: after => some (.obj [], after)
      | rest => do
        let (m, rest) ← readMember fuel rest
        let (ms, after) ← readMembers fuel rest
        return (.obj (m :: ms), after)
    | rest => readNumber false rest

/-- Reads the items after the first one, up to the closing bracket. -/
def readItems : Nat → List Char → Option (List Json × List Char)
  | 0, _ => none
  | fuel + 1, cs =>
    match skipSpaces cs with
    | ']' :: after => some ([], after)
    | ',' :: rest => do
      let (v, rest) ← readValue fuel rest
      let (vs, after) ← readItems fuel rest
      return (v :: vs, after)
    | _ => none

/-- Reads a member: a name, a colon and a value. -/
def readMember : Nat → List Char → Option ((String × Json) × List Char)
  | 0, _ => none
  | fuel + 1, cs =>
    match skipSpaces cs with
    | '"' :: rest => do
      let (pieces, rest) ← readPieces rest
      let name ← textOf pieces
      match skipSpaces rest with
      | ':' :: rest =>
        let (v, after) ← readValue fuel rest
        return ((String.ofList name, v), after)
      | _ => none
    | _ => none

/-- Reads the members after the first one, up to the closing brace. -/
def readMembers : Nat → List Char → Option (List (String × Json) × List Char)
  | 0, _ => none
  | fuel + 1, cs =>
    match skipSpaces cs with
    | '\x7d' :: after => some ([], after)
    | ',' :: rest => do
      let (m, rest) ← readMember fuel rest
      let (ms, after) ← readMembers fuel rest
      return (m :: ms, after)
    | _ => none

end

/-- The value that the characters write, if they write one. -/
def parseChars (cs : List Char) : Option Json :=
  match readValue (cs.length + 1) cs with
  | some (v, rest) => if (skipSpaces rest).isEmpty then some v else none
  | none => none

/-- The value that `text` writes, if it writes one. -/
def parse (text : String) : Option Json :=
  parseChars text.toList

end Switchboard.Json
