/-!
# Bytes

Message bodies are bytes. They are shown as text where they are well-formed UTF-8 and in
hexadecimal otherwise.
-/

namespace Switchboard

abbrev Bytes := List UInt8

namespace Bytes

def ofText (s : String) : Bytes :=
  s.toUTF8.toList

/-- The text that `bytes` encodes, if they are well-formed UTF-8. -/
def text? (bytes : Bytes) : Option String :=
  String.fromUTF8? (ByteArray.mk bytes.toArray)

def nibble (n : Nat) : Char :=
  if n < 10 then Char.ofNat ('0'.toNat + n) else Char.ofNat ('a'.toNat + (n - 10))

/-- Two lower-case hexadecimal digits for each byte. -/
def hex (bytes : Bytes) : String :=
  String.ofList (bytes.flatMap fun b => [nibble (b.toNat / 16), nibble (b.toNat % 16)])

/-- The value of a hexadecimal digit of either case. -/
def nibble? (c : Char) : Option Nat :=
  if '0' ≤ c ∧ c ≤ '9' then some (c.toNat - '0'.toNat)
  else if 'a' ≤ c ∧ c ≤ 'f' then some (c.toNat - 'a'.toNat + 10)
  else if 'A' ≤ c ∧ c ≤ 'F' then some (c.toNat - 'A'.toNat + 10)
  else none

theorem nibble?_nibble {n : Nat} (small : n < 16) : nibble? (nibble n) = some n := by
  have all : ∀ m < 16, nibble? (nibble m) = some m := by decide
  exact all n small

/-- The bytes written by pairs of hexadecimal digits. -/
def ofHexDigits? : List Char → Option Bytes
  | [] => some []
  | [_] => none
  | a :: b :: rest => do
    let high ← nibble? a
    let low ← nibble? b
    let others ← ofHexDigits? rest
    return UInt8.ofNat (16 * high + low) :: others

end Bytes

end Switchboard
