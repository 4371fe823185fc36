import Switchboard.Settings.Tree

/-!
# Paths into configuration trees

A name such as `broker.channel_capacity` or `destinations[0].id` leads into a tree. Setting a value
at a path lays it over what is there: tables are merged member by member, everything else is
replaced. Names that are no path stand for a member of the root.
-/

namespace Switchboard

/-- A step down from a value. -/
inductive PathStep
  | key (name : String)
  /-- A place in a list. A negative place counts from the end. -/
  | index (place : Int)
deriving DecidableEq, Repr

abbrev Path := List PathStep

namespace Path

def isNameChar (c : Char) : Bool :=
  c.isAlphanum || c == '_' || c == '-'

/-- Reads a name and what follows it. -/
def readName (cs : List Char) : Option (String × List Char) :=
  match cs.takeWhile isNameChar with
  | [] => none
  | name => some (String.ofList name, cs.dropWhile isNameChar)

def skipBlanks (cs : List Char) : List Char :=
  cs.dropWhile fun c => c == ' ' || c == '\t'

/-- Reads the place in a list up to the closing bracket. -/
def readPlace (cs : List Char) : Option (Int × List Char) := do
  let (minus, cs) := match skipBlanks cs with
    | '-' :: cs => (true, cs)
    | cs => (false, cs)
  let n ← Decimal.ofDigits? (cs.takeWhile Char.isDigit)
  match skipBlanks (cs.dropWhile Char.isDigit) with
  | ']' :: rest =>
    let place : Int := if minus then -(n : Int) else n
    if Decimal.fitsInt64 place then return (place, rest) else none
  | _ => none

/-- Reads the steps after the first one. Each step takes a character, so `fuel` may be the number
of characters. -/
def readSteps : Nat → List Char → Option Path
  | _, [] => some []
  | 0, _ => none
  | fuel + 1, '.' :: cs => do
    let (name, rest) ← readName cs
    return .key name :: (← readSteps fuel rest)
  | fuel + 1, '[' :: cs => do
    let (place, rest) ← readPlace cs
    return .index place :: (← readSteps fuel rest)
  | _, _ => none

def ofText? (s : String) : Option Path := do
  let (name, rest) ← readName s.toList
  return .key name :: (← readSteps rest.length rest)

/-- The path that a name stands for. -/
def ofText (s : String) : Path :=
  (ofText? s).getD [.key s]

end Path

namespace ConfigTree

/-- Makes room for a place in a list, and gives the place counted from the front. -/
def reach (place : Int) (items : List ConfigTree) : Nat × List ConfigTree :=
  if 0 ≤ place then
    (place.toNat, items ++ List.replicate (place.toNat + 1 - items.length) nil)
  else
    let back := (-place).toNat
    if back ≤ items.length then (items.length - back, items)
    else (0, List.replicate (back - items.length) nil ++ items)

/-- Changes the value at a path. What stands in the way is replaced by a table or a list. -/
def alter (f : ConfigTree → ConfigTree) : Path → ConfigTree → ConfigTree
  | [], v => f v
  | .key name :: rest, v => table (put name (alter f rest (child name v.members)) v.members)
  | .index place :: rest, v =>
    let (n, items) := reach place v.items
    list (items.set n (alter f rest (items[n]?.getD nil)))

/-- Lays a value over another one. -/
def overlay : ConfigTree → ConfigTree → ConfigTree
  | table members, below => table (overMembers members below.members)
  | v, _ => v
where
  overMembers : List (String × ConfigTree) → List (String × ConfigTree) →
      List (String × ConfigTree)
    | [], below => below
    | (key, v) :: rest, below => overMembers rest (put key (overlay v (child key below)) below)

/-- Lays `v` over what is at `path`. -/
def set (path : Path) (v root : ConfigTree) : ConfigTree :=
  alter (overlay v) path root

/-- Sets each value of a layer at the path that its name stands for. -/
def apply (layer : Layer) (root : ConfigTree) : ConfigTree :=
  layer.foldl (fun root m => set (Path.ofText m.1) m.2 root) root

end ConfigTree

end Switchboard
