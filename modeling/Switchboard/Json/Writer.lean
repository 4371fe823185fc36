import Switchboard.Json.Basic

/-!
# JSON text

The text of a value without any spaces. In a string only quotes, backslashes and control
characters are escaped.
-/

namespace Switchboard.Json

/-- The escape of a control character by its number. -/
def numberedEscape (n : Nat) : List Char :=
  ['\\', 'u', '0', '0', Bytes.nibble (n / 16), Bytes.nibble (n % 16)]

/-- The written form of a character of a string. -/
def writeChar (c : Char) : List Char :=
  if c = '"' then ['\\', '"']
  else if c = '\\' then ['\\', '\\']
  else if c.toNat < 0x20 then
    if c = '\n' then ['\\', 'n']
    else if c = '\r' then ['\\', 'r']
    else if c = '\t' then ['\\', 't']
    else if c.toNat = 8 then ['\\', 'b']
    else if c.toNat = 12 then ['\\', 'f']
    else numberedEscape c.toNat
  else [c]

def writeString (s : String) : List Char :=
  '"' :: (s.toList.flatMap writeChar ++ ['"'])

def writeInt (n : Int) : List Char :=
  if n < 0 then '-' :: Nat.toDigits 10 n.natAbs else Nat.toDigits 10 n.natAbs

/-- The characters of a value's text. A string that is no text is written as the array of its
bytes. -/
def write : Json → List Char
  | null => ['n', 'u', 'l', 'l']
  | bool true => ['t', 'r', 'u', 'e']
  | bool false => ['f', 'a', 'l', 's', 'e']
  | int n => writeInt n
  | decimal negative mantissa exponent =>
    (if negative then ['-'] else []) ++ Nat.toDigits 10 mantissa ++ ['e'] ++ writeInt exponent
  | str s => writeString s
  | loose bytes _ => '[' :: (writeBytes bytes ++ [']'])
  | arr [] => ['[', ']']
  | arr (v :: vs) => '[' :: (write v ++ writeItems vs)
  | obj [] => ['\x7b', '\x7d']
  | obj ((k, v) :: ms) => '\x7b' :: (writeString k ++ ':' :: (write v ++ writeMembers ms))
where
  writeBytes : Bytes → List Char
    | [] => []
    | [b] => Nat.toDigits 10 b.toNat
    | b :: bs => Nat.toDigits 10 b.toNat ++ ',' :: writeBytes bs
  writeItems : List Json → List Char
    | [] => [']']
    | v :: vs => ',' :: (write v ++ writeItems vs)
  writeMembers : List (String × Json) → List Char
    | [] => ['\x7d']
    | (k, v) :: ms => ',' :: (writeString k ++ ':' :: (write v ++ writeMembers ms))

/-- The text of a value. -/
def render (v : Json) : String :=
  String.ofList v.write

end Switchboard.Json
