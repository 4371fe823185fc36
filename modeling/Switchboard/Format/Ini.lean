import Switchboard.Settings.Tree
import Switchboard.Text.Blank
import Switchboard.Text.Scan

/-!
# Settings in sections

Lines `key = value` under headings in square brackets. All values are texts. A heading that comes
again replaces the section before it.
-/

namespace Switchboard.Format.Ini

open Scan

/-- The character of an escape after its backslash, if it stands for one. -/
def escape (c : Char) : Option Char :=
  if c = '0' then some (Char.ofNat 0)
  else if c = 'a' then some (Char.ofNat 7)
  else if c = 'b' then some (Char.ofNat 8)
  else if c = 't' then some '\t'
  else if c = 'r' then some '\r'
  else if c = 'n' then some '\n'
  else if c = '\n' then none
  else some c

/-- Takes characters and escapes up to one of `stops`, which is left. Only if `toEnd` may the text
end before. -/
def textUntil (stops : List Char) (toEnd : Bool) : Scan (List Char) := do
  let pieces ← many do
    match ← peek? with
    | none => if toEnd then return none else fail
    | some c =>
      if stops.contains c then return none
      let c ← next
      if c ≠ '\\' then return some [c]
      let e ← next
      if e = 'x' then
        let n ← hexNumber hexDigit? 4 0
        guard n.isValidChar
        return some [Char.ofNat n]
      return some (escape e).toList
  return pieces.flatten
where
  hexDigit? (c : Char) : Option Nat :=
    if c.isDigit then some (c.toNat - '0'.toNat)
    else if 'a' ≤ c.toLower ∧ c.toLower ≤ 'f' then some (c.toLower.toNat - 'a'.toNat + 10)
    else none

/-- Takes a value: quoted parts, then whatever is left of the line without the blanks around. -/
def value : Scan String := do
  skipWhile fun c => c ≠ '\n' && c ≠ '\r' && Text.isBlank c
  let parts ← many do
    match ← peek? with
    | some '"' =>
      let _ ← next
      let part ← textUntil ['"'] false
      expect "\""
      return some part
    | some '\'' =>
      let _ ← next
      let part ← textUntil ['\''] false
      expect "'"
      return some part
    | _ => return none
  let last ← textUntil ['\n', '\r'] true
  let last := if parts.isEmpty then Text.trimBlanks last
    else (last.reverse.dropWhile Text.isBlank).reverse
  return String.ofList (parts.flatten ++ last)

/-- A line of a text. -/
inductive Line
  | comment
  | heading (name : String)
  | entry (key value : String)

def trimmed (cs : List Char) : String :=
  String.ofList (Text.trimBlanks cs)

/-- Takes a line. A comment has to begin at the start of its line. -/
def line (atStart : Bool) : Scan Line := do
  match ← peek? with
  | some '[' =>
    let _ ← next
    let name ← textUntil [']'] false
    expect "]"
    return .heading (trimmed name)
  | some c =>
    if c = ';' || c = '#' then
      guard atStart
      skipWhile (· ≠ '\n')
      return .comment
    let key := trimmed (← textUntil ['=', ':'] false)
    let _ ← next
    guard (key ≠ "")
    return .entry key (← value)
  | none => fail

/-- Takes blanks and tells whether a new line begins after them. -/
def skipToLine (first : Bool) : Scan Bool := do
  let blanks ← takeWhile Text.isBlank
  return match blanks.getLast? with
    | none => first
    | some c => c = '\n'

/-- Takes all lines. -/
def lines : Nat → Bool → Scan (List Line)
  | 0, _ => fail
  | fuel + 1, first => do
    let atStart ← skipToLine first
    if ← atEnd then return []
    let l ← line atStart
    return l :: (← lines fuel (l matches .comment))

/-- The sections of a text: the open one, and the members of the root before it. -/
structure Sections where
  root : List (String × ConfigTree) := []
  current : Option (String × List (String × ConfigTree)) := none

/-- The root with the open section put in. -/
def Sections.close (s : Sections) : List (String × ConfigTree) :=
  match s.current with
  | none => s.root
  | some (name, members) => ConfigTree.put name (.table members) s.root

def Sections.add (s : Sections) : Line → Sections
  | .comment => s
  | .heading name => { root := s.close, current := some (name, []) }
  | .entry key value =>
    match s.current with
    | none => { s with root := ConfigTree.put key (.text value) s.root }
    | some (name, members) =>
      { s with current := some (name, ConfigTree.put key (.text value) members) }

def read (text : String) : Option ConfigTree :=
  ((lines (text.length + 1) true).whole? text).map fun ls =>
    .table (ls.foldl Sections.add {}).close

end Switchboard.Format.Ini
