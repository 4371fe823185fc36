import Switchboard.Format.Toml.Value

/-!
# Documents in TOML

Headings open tables, or new elements of lists of tables; entries set values in the table that was
opened last. No table is opened twice and no value is set twice. A path of names in an entry goes
through tables that only paths have made.
-/

namespace Switchboard.Format.Toml

open Scan

/-- How a table came about. -/
inductive TableKind
  /-- On the way to another heading. -/
  | implied
  /-- By a heading of its own. -/
  | opened
  /-- On the way of an entry. -/
  | dotted
deriving DecidableEq, Repr

inductive Node
  | closed (v : ConfigTree)
  | table (kind : TableKind) (members : List (String × Node))
  /-- The elements of a list of tables. -/
  | tables (elements : List (List (String × Node)))

abbrev Members := List (String × Node)

/-- Sets a member, in its place if there is one of that name. -/
def putNode (name : String) (n : Node) : Members → Members
  | [] => [(name, n)]
  | (k, m) :: rest => if k = name then (k, n) :: rest else (k, m) :: putNode name n rest

/-- Changes the members of the table that a heading leads to. -/
def enter (f : Members → Option Members) : List String → Members → Option Members
  | [], members => f members
  | name :: rest, members => do
    match members.lookup name with
    | none => return members ++ [(name, .table .implied (← enter f rest []))]
    | some (.table kind inner) =>
      return putNode name (.table kind (← enter f rest inner)) members
    | some (.tables elements) =>
      let last := elements.getLast?.getD []
      return putNode name (.tables (elements.dropLast ++ [← enter f rest last])) members
    | some (.closed _) => none

/-- Opens the table `name`. -/
def openTable (name : String) (members : Members) : Option Members :=
  match members.lookup name with
  | none => some (members ++ [(name, .table .opened [])])
  | some (.table .implied inner) => some (putNode name (.table .opened inner) members)
  | some _ => none

/-- Opens a new element of the list of tables `name`. -/
def openElement (name : String) (members : Members) : Option Members :=
  match members.lookup name with
  | none => some (members ++ [(name, .tables [[]])])
  | some (.tables elements) => some (putNode name (.tables (elements ++ [[]])) members)
  | some _ => none

/-- Sets a value at the end of a path of names. -/
def assign (v : ConfigTree) : List String → Members → Option Members
  | [], _ => none
  | [name], members =>
    if (members.lookup name).isSome then none else some (members ++ [(name, .closed v)])
  | name :: rest, members => do
    match members.lookup name with
    | none => return members ++ [(name, .table .dotted (← assign v rest []))]
    | some (.table kind inner) =>
      if kind = .dotted ∨ (kind = .implied ∧ rest.length ≠ 1) then
        return putNode name (.table kind (← assign v rest inner)) members
      else none
    | some (.tables elements) =>
      if rest.length = 1 then none
      else
        let last := elements.getLast?.getD []
        return putNode name (.tables (elements.dropLast ++ [← assign v rest last])) members
    | some (.closed _) => none

mutual

def Node.tree : Node → ConfigTree
  | .closed v => v
  | .table _ members => .table (trees members)
  | .tables elements => .list (elementTrees elements)

def trees : Members → List (String × ConfigTree)
  | [] => []
  | (name, n) :: rest => (name, n.tree) :: trees rest

def elementTrees : List Members → List ConfigTree
  | [] => []
  | members :: rest => .table (trees members) :: elementTrees rest

end

/-- What a line says. -/
inductive Line
  | heading (path : List String)
  | element (path : List String)
  | entry (path : List String) (v : ConfigTree)

def bracketed (close : String) : Scan (List String) := do
  skipBlanks
  let path ← keyPath
  skipBlanks
  expect close
  return path

/-- Takes what a line says. -/
def line (depth : Nat) : Scan Line := do
  if ← accept "[[" then return .element (← bracketed "]]")
  if ← accept "[" then return .heading (← bracketed "]")
  let path ← keyPath
  skipBlanks
  expect "="
  skipBlanks
  return .entry path (← value depth)

/-- Takes all lines. -/
def lines (depth : Nat) : Scan (List Line) :=
  many do
    skip
    skipBlanks
    if ← atEnd then return none
    let l ← line depth
    skipBlanks
    skipComment
    unless ← atEnd do guard (← lineEnd?)
    return some l

/-- A document read so far: its members and the path of the open table. -/
structure Draft where
  members : Members := []
  current : List String := []

def Draft.add (d : Draft) : Line → Option Draft
  | .heading path => do
    let members ← enter (openTable (path.getLast?.getD "")) path.dropLast d.members
    return { members, current := path }
  | .element path => do
    let members ← enter (openElement (path.getLast?.getD "")) path.dropLast d.members
    return { members, current := path }
  | .entry path v => do
    let members ← enter (assign v path) d.current d.members
    return { d with members }

def read (text : String) : Option ConfigTree := do
  let ls ← (lines (text.length + 1)).whole? text
  let draft ← ls.foldlM Draft.add {}
  return .table (trees draft.members)

end Switchboard.Format.Toml
