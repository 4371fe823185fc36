import Switchboard.Text.Bytes

/-!
# Identifiers

Universally unique identifiers. They are written in five groups of lower-case digits, and read in
that form, with digits of either case, without hyphens, in braces or as a `urn:uuid:` name.
-/

namespace Switchboard

structure Uuid where
  value : BitVec 128
deriving DecidableEq, Repr, Inhabited

namespace Uuid

/-- The identifier of version 4 that holds the given random bits. -/
def random (bits : BitVec 128) : Uuid :=
  ⟨(bits &&& ~~~(0xF000#128 <<< 64) &&& ~~~(0xC000#128 <<< 48)) |||
    (0x4000#128 <<< 64) ||| (0x8000#128 <<< 48)⟩

def version (u : Uuid) : Nat :=
  (u.value >>> 76).toNat % 16

/-- The `n` lowest hexadecimal digits of a number, the highest one first. -/
def digits : Nat → Nat → List Char
  | 0, _ => []
  | n + 1, v => digits n (v / 16) ++ [Bytes.nibble (v % 16)]

/-- Thirty-two digits cut into groups of 8, 4, 4, 4 and 12. -/
def hyphenate (ds : List Char) : List Char :=
  ds.take 8 ++ '-' :: (ds.drop 8).take 4 ++ '-' :: (ds.drop 12).take 4 ++
    '-' :: (ds.drop 16).take 4 ++ '-' :: ds.drop 20

def toText (u : Uuid) : String :=
  String.ofList (hyphenate (digits 32 u.value.toNat))

/-- Reads thirty-two digits. -/
def ofDigits? (ds : List Char) : Option Uuid :=
  if ds.length = 32 then do
    let n ← ds.foldlM (fun n c => (Bytes.nibble? c).map (16 * n + ·)) 0
    return ⟨BitVec.ofNat 128 n⟩
  else none

/-- The digits of the hyphenated form. -/
def unhyphenate? (cs : List Char) : Option (List Char) :=
  let ds := cs.take 8 ++ (cs.drop 9).take 4 ++ (cs.drop 14).take 4 ++ (cs.drop 19).take 4 ++
    cs.drop 24
  if cs = hyphenate ds ∧ ds.length = 32 then some ds else none

/-- The form inside braces or after the name prefix, if there are any. -/
def unwrapped (cs : List Char) : List Char :=
  match cs with
  | '\x7b' :: rest => if rest.getLast? = some '\x7d' then rest.dropLast else cs
  | 'u' :: 'r' :: 'n' :: ':' :: 'u' :: 'u' :: 'i' :: 'd' :: ':' :: rest => rest
  | _ => cs

def ofText? (s : String) : Option Uuid :=
  let cs := s.toList
  if cs.length = 32 then ofDigits? cs else (unhyphenate? (unwrapped cs)).bind ofDigits?

end Uuid

end Switchboard
