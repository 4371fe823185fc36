import Switchboard.Format.Yaml.Scalar

/-!
# Bracketed collections in YAML

Lists in square brackets and maps in braces. Line ends count as blanks inside. A pair in a list is
a map of one member, and a key alone stands for nothing.
-/

namespace Switchboard.Format.Yaml

open Scan

/-- Values that were given names before. -/
abbrev Anchors := List (String × ConfigTree)

/-- What may stand in front of a value. -/
structure Marks where
  anchor : Option String := none
  tag : Option String := none

/-- Takes blanks, line ends and comments. -/
def skip : Scan Unit := do
  let _ ← many do
    let blanks ← takeWhile fun c => isBlank c || c = '\n'
    if !blanks.isEmpty && (← get).head? = some '#' then
      skipWhile (· ≠ '\n')
      return some ()
    else return none

def isBracket (c : Char) : Bool :=
  c = ',' || c = '[' || c = ']' || c = '\x7b' || c = '\x7d'

def isNameChar (c : Char) : Bool :=
  !isBlank c && c ≠ '\n' && !isBracket c

/-- Takes the marks in front of a value, if any. -/
def marks : Scan Marks := do
  let found ← many do
    if ← accept "&" then
      let name := String.ofList (← takeSome isNameChar)
      skip
      return some (some name, none)
    if (← get).head? = some '!' then
      let tag := String.ofList (← takeSome isNameChar)
      skip
      return some (none, some tag)
    return none
  return { anchor := found.findSome? (·.1), tag := found.findSome? (·.2) }

/-- Whether `c` has a meaning of its own in front of a value. -/
def isMarkChar (c : Char) : Bool :=
  c = '#' || c = '&' || c = '*' || c = '!' || c = '|' || c = '>' || c = '\'' || c = '"' ||
    c = '%' || c = '@' || c.toNat = 0x60

/-- Whether a scalar without quotes may begin with `c`, which `after` follows. -/
def startsPlain (inBrackets : Bool) (c : Char) (after : Option Char) : Bool :=
  if c = '-' || c = '?' || c = ':' then
    match after with
    | none => false
    | some d => !isBlank d && d ≠ '\n' && !(inBrackets && isBracket d)
  else !isBlank c && c ≠ '\n' && !isBracket c && !isMarkChar c

/-- Whether the text is at the end of a key. -/
def atColon (inBrackets : Bool) : List Char → Bool
  | [':'] => true
  | ':' :: c :: _ => isBlank c || c = '\n' || (inBrackets && isBracket c)
  | _ => false

/-- Takes the characters of a scalar without quotes on one line. Blanks at its end are left. -/
def plainLine (inBrackets : Bool) : Scan (List Char) := do
  let pieces ← many do
    let cs ← get
    match cs with
    | [] => return none
    | c :: rest =>
      if c = '\n' || atColon inBrackets cs || (inBrackets && isBracket c) then return none
      if isBlank c then
        let blanks := cs.takeWhile isBlank
        let after := cs.dropWhile isBlank
        match after with
        | [] => return none
        | d :: _ =>
          if d = '#' || d = '\n' || atColon inBrackets after || (inBrackets && isBracket d) then
            return none
          set after
          return some blanks
      set rest
      return some [c]
  return pieces.flatten

/-- Takes a scalar without quotes inside brackets. -/
def bracketPlain : Scan String := do
  let cs ← get
  match cs with
  | c :: rest => guard (startsPlain true c rest.head?)
  | [] => fail
  let first ← plainLine true
  let more ← many do
    let cs ← get
    match ← foldedEnd with
    | none => return none
    | some fold =>
      match ← get with
      | c :: _ =>
        if isBracket c || c = '#' || atColon true (← get) then
          set cs
          return none
        return some (fold ++ (← plainLine true))
      | [] => fail
  return String.ofList (first ++ more.flatten)

/-- A value with its text, if it is a scalar that may name a member. -/
structure Item where
  value : Option ConfigTree
  key : Option String

def Item.ofWord (tag : Option String) (s : String) : Item :=
  match tag with
  | none => ⟨(Word.ofText s).tree?, (Word.ofText s).key?⟩
  | some tag => ⟨tagged tag s, some s⟩

def Item.ofText (s : String) : Item := ⟨some (.text s), some s⟩

def Item.ofTree (v : ConfigTree) : Item := ⟨some v, none⟩

/-- Puts a member into a map that has none of that name. -/
def addMember (members : List (String × ConfigTree)) (m : String × ConfigTree) :
    Option (List (String × ConfigTree)) :=
  if (members.lookup m.1).isSome then none else some (members ++ [m])

/-- Takes an item with the marks in front of it. `nested` takes collections. -/
def item (anchors : Anchors) (list map : Scan ConfigTree) : Scan Item := do
  let m ← marks
  if ← accept "*" then
    let name := String.ofList (← takeSome isNameChar)
    return .ofTree (← given (anchors.lookup name))
  if ← accept "[" then return .ofTree (← list)
  if ← accept "\x7b" then return .ofTree (← map)
  if let some s ← quoted? then return .ofText s
  match ← get with
  | c :: rest =>
    if startsPlain true c rest.head? then return .ofWord m.tag (← bracketPlain)
    else return .ofWord m.tag ""
  | [] => fail

/-- Takes the value after a colon. -/
def valueAfter (item : Scan Item) : Scan ConfigTree := do
  expect ":"
  skip
  given (← item).value

/-- Takes a bracketed list after its opening. -/
def listOf (item : Scan Item) : Scan ConfigTree := do
  let vs ← items skip (do
    let i ← item
    skip
    if ← sees ":" then
      let v ← valueAfter item
      return .table [(← given i.key, v)]
    given i.value) "," "]" true
  return .list vs

/-- Takes a map in braces after its opening. -/
def mapOf (item : Scan Item) : Scan ConfigTree := do
  let ms ← items skip (do
    let i ← item
    skip
    let key ← given i.key
    if ← sees ":" then return (key, ← valueAfter item)
    return (key, .nil)) "," "\x7d" true
  return .table (← given (ms.foldlM addMember []))

/-- Takes an item that is nested at most `depth` levels deep. -/
def nested (anchors : Anchors) : Nat → Scan Item
  | 0 => fail
  | depth + 1 =>
    item anchors (listOf (nested anchors depth)) (mapOf (nested anchors depth))

end Switchboard.Format.Yaml
