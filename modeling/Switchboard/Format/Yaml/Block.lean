import Switchboard.Format.Yaml.Flow

/-!
# Indented collections in YAML

Lists and maps whose nesting shows in the indentation of their lines. A line whose beginning has
been read is kept with blanks in place of what was read, so that the columns of the rest stay. Keys
that are set off by a question mark, and anchors and tags in front of keys, are not part of what is
read here.
-/

namespace Switchboard.Format.Yaml

/-- The lines that are left, and the values that were given names. -/
structure Source where
  lines : List (List Char)
  anchors : Anchors := []

abbrev Block (α : Type) := StateT Source Option α

namespace Block

def fail : Block α := fun _ => none

def given (a? : Option α) : Block α :=
  match a? with
  | some a => pure a
  | none => fail

def indent (line : List Char) : Nat :=
  (line.takeWhile (· = ' ')).length

/-- Whether a line holds nothing but blanks and a comment. -/
def isBlankLine (line : List Char) : Bool :=
  match line.dropWhile isBlank with
  | [] => true
  | c :: _ => c = '#'

/-- Whether the rest of a line is empty but for a comment that is set off. -/
def isRestBlank (rest : List Char) : Bool :=
  match rest with
  | [] => true
  | c :: _ => isBlank c && isBlankLine rest

def skipBlankLines : Block Unit :=
  modify fun s => { s with lines := s.lines.dropWhile isBlankLine }

/-- The next line that is not blank: its column and the characters from there on. -/
def nextLine? : Block (Option (Nat × List Char)) := do
  skipBlankLines
  match (← get).lines with
  | [] => return none
  | line :: _ => return some (indent line, line.drop (indent line))

def takeLine : Block Unit :=
  modify fun s => { s with lines := s.lines.drop 1 }

/-- Puts `chars` in place of the next line, at a column. -/
def leave (column : Nat) (chars : List Char) : Block Unit :=
  modify fun s =>
    { s with lines := (List.replicate column ' ' ++ chars) :: s.lines.drop 1 }

/-- Whether an element of a list begins here. -/
def isDash : List Char → Bool
  | ['-'] => true
  | '-' :: c :: _ => isBlank c
  | _ => false

/-- Runs a scan over the rest of the text from `chars` on, which are the end of the next line. The
line in which it ends has to be blank from there on. -/
def scan (x : Scan α) (chars : List Char) : Block α := do
  let text := chars ++ (← get).lines.tail.flatMap ('\n' :: ·)
  let (a, rest) ← given (x.run text)
  let line := rest.takeWhile (· ≠ '\n')
  unless isRestBlank line do fail
  modify fun s => { s with lines := ((rest.dropWhile (· ≠ '\n')).drop 1).splitOn '\n' }
  return a

/-- The key at the front of a line, and what follows its colon. -/
def key? (chars : List Char) : Option (Option String × List Char) :=
  let found : Option (Option String × List Char) :=
    match Yaml.quoted?.run chars with
    | some (some s, rest) => some (some s, rest)
    | _ =>
      match chars with
      | c :: after =>
        if startsPlain false c after.head? || c = ':' then
          match (plainLine false).run chars with
          | some (cs, rest) => some ((Word.ofText (String.ofList cs)).key?, rest)
          | none => none
        else none
      | [] => none
  match found with
  | none => none
  | some (name, rest) =>
    let rest := rest.dropWhile isBlank
    if rest.head? = some ':' && atColon false rest then some (name, rest.drop 1) else none

/-! ### Scalars -/

/-- How the line ends after a block of text are kept. -/
inductive Chomp
  | strip
  | clip
  | keep
deriving DecidableEq

/-- Reads the marks after the sign of a block of text: how deep it is indented, if that is said,
and how it ends. -/
def blockMarks (chars : List Char) : Option (Option Nat × Chomp) :=
  let marks := chars.takeWhile (!isBlank ·)
  if !isRestBlank (chars.dropWhile (!isBlank ·)) then none
  else
    let depth := (marks.find? Char.isDigit).map fun c => c.toNat - '0'.toNat
    let chomp := if marks.contains '-' then .strip else if marks.contains '+' then .keep else .clip
    if marks.all (fun c => c.isDigit || c = '-' || c = '+') ∧ marks.length ≤ 2 ∧ depth ≠ some 0 ∧
        (marks.filter Char.isDigit).length ≤ 1 then some (depth, chomp)
    else none

/-- The lines of a block of text joined by line ends. -/
def literal (lines : List (List Char)) : List Char :=
  lines.flatMap (· ++ ['\n'])

/-- What stands between two lines of text that have `empty` empty lines between them. Only lines
that are not indented further are folded. -/
def fold (flat : Bool) (empty : Nat) : List Char :=
  if !flat then List.replicate (empty + 1) '\n'
  else if empty = 0 then [' ']
  else List.replicate empty '\n'

/-- The lines of a block of text folded. `before` tells whether the last full line was indented
further, if there was one, and `empty` counts the empty lines after it. -/
def folded (before : Option Bool) (empty : Nat) : List (List Char) → List Char
  | [] => if before.isSome then ['\n'] else []
  | line :: rest =>
    match line with
    | [] => folded before (empty + 1) rest
    | c :: _ =>
      let deep := isBlank c
      (match before with
        | none => List.replicate empty '\n'
        | some deepBefore => fold (!deep && !deepBefore) empty) ++
        line ++ folded (some deep) 0 rest

/-- Takes a block of text whose lines are indented by at least `least`. -/
def blockText (folding : Bool) (least : Nat) (chars : List Char) : Block String := do
  let (depth?, chomp) ← given (blockMarks chars)
  takeLine
  let lines := (← get).lines
  let first := (lines.find? fun l => !l.all isBlank).map indent
  let depth := match depth? with
    | some d => least - 1 + d
    | none => max least (first.getD least)
  let isInside (l : List Char) : Bool := depth ≤ indent l || l.all isBlank
  let inside := (lines.takeWhile isInside).map fun l => l.drop depth
  set { ← get with lines := lines.dropWhile isInside }
  let body := (inside.reverse.dropWhile (·.all isBlank)).reverse
  let tail := inside.length - body.length
  let text := if folding then folded none 0 body else literal body
  return String.ofList <| match chomp with
    | .strip => text.dropLast
    | .clip => text
    | .keep => text ++ List.replicate tail '\n'

/-- Takes the further lines of a scalar without quotes. -/
def moreLines (least : Nat) : Nat → Block (List Char)
  | 0 => fail
  | fuel + 1 => do
    let before := ← get
    let blank := before.lines.takeWhile (·.all isBlank)
    match before.lines.dropWhile (·.all isBlank) with
    | [] => return []
    | line :: rest =>
      let chars := line.drop (indent line)
      if indent line < least || chars.head? = some '#' then return []
      set { before with lines := rest }
      match (plainLine false).run chars with
      | none => fail
      | some (cs, after) =>
        unless isRestBlank after do fail
        let fold := if blank.isEmpty then [' '] else List.replicate blank.length '\n'
        if (after.dropWhile isBlank).isEmpty then return fold ++ cs ++ (← moreLines least fuel)
        else return fold ++ cs

/-- Takes a scalar without quotes whose further lines are indented by at least `least`. -/
def plain (least : Nat) (chars : List Char) : Block String := do
  match chars with
  | c :: rest => unless startsPlain false c rest.head? do fail
  | [] => fail
  let (first, after) ← given ((plainLine false).run chars)
  unless isRestBlank after do fail
  takeLine
  if (after.dropWhile isBlank).isEmpty then
    let more ← moreLines least ((← get).lines.length + 1)
    return String.ofList (first ++ more)
  else return String.ofList first

/-! ### Collections -/

/-- Takes the marks at the front of a line. -/
def lineMarks (chars : List Char) : Block (Marks × List Char) := do
  let step : Scan Marks := do
    let m ← Scan.many do
      if ← Scan.accept "&" then
        return some (some (String.ofList (← Scan.takeSome isNameChar)), none)
      if (← get).head? = some '!' then
        return some (none, some (String.ofList (← Scan.takeSome isNameChar)))
      match ← get with
      | c :: d :: _ =>
        if isBlank c && (isBlank d || d = '&' || d = '!') then
          let _ ← Scan.next
          return some (none, none)
        else return none
      | _ => return none
    return { anchor := m.findSome? (·.1), tag := m.findSome? (·.2) }
  let (m, rest) ← given (step.run chars)
  return (m, rest)

/-- Gives a value the name that stands in front of it. -/
def named (m : Marks) (v : ConfigTree) : Block ConfigTree := do
  if let some name := m.anchor then
    modify fun s => { s with anchors := (name, v) :: s.anchors }
  return v

/-- Takes a value that begins in the middle of the next line, with the characters `chars`, and
whose further lines are indented by at least `least`. `below` takes a value that begins in a later
line. -/
def inline (below : Block ConfigTree) (least : Nat) (chars : List Char) : Block ConfigTree := do
  let (m, chars) ← lineMarks (chars.dropWhile isBlank)
  let chars := chars.dropWhile isBlank
  match chars with
  | [] =>
    takeLine
    let v ← below
    match m.tag, v with
    | some tag, .nil => named m (← given (tagged tag ""))
    | _, v => named m v
  | c :: rest =>
    if c = '#' then
      takeLine
      named m (← below)
    else if c = '|' || c = '>' then named m (.text (← blockText (c = '>') least rest))
    else if c = '"' || c = '\'' then
      named m (.text (← scan (do Scan.given (← Yaml.quoted?)) chars))
    else if isBracket c || c = '*' then
      let anchors := (← get).anchors
      let fuel := chars.length + (← get).lines.flatten.length + 1
      let i ← scan (nested anchors fuel) chars
      named m (← given i.value)
    else
      let s ← plain least chars
      named m (← given (Item.ofWord m.tag s).value)

/-- Takes the elements of the list whose dashes stand at a column. -/
def elements (node : Nat → Block ConfigTree) (column : Nat) : Nat → Block (List ConfigTree)
  | 0 => fail
  | fuel + 1 => do
    match ← nextLine? with
    | none => return []
    | some (n, chars) =>
      if n < column || (n = column && !isDash chars) then return []
      if n ≠ column then fail
      leave (column + 1) (chars.drop 1)
      let v ← node (column + 1)
      return v :: (← elements node column fuel)

/-- Takes the members of the map whose keys stand at a column. -/
def membersAt (node : Nat → Block ConfigTree) (column : Nat) :
    Nat → List (String × ConfigTree) → Block (List (String × ConfigTree))
  | 0, _ => fail
  | fuel + 1, found => do
    match ← nextLine? with
    | none => return found
    | some (n, chars) =>
      if n < column then return found
      if n ≠ column then fail
      let (name?, rest) ← given (key? chars)
      let name ← given name?
      let below : Block ConfigTree := do
        match ← nextLine? with
        | some (k, cs) =>
          if k = column && isDash cs then node column
          else node (column + 1)
        | none => return .nil
      let v ← inline below (column + 1) rest
      membersAt node column fuel (← given (addMember found (name, v)))

/-- Takes a value whose lines are indented by at least `least`; if there are none, nothing. -/
def node : Nat → Nat → Block ConfigTree
  | 0, _ => fail
  | fuel + 1, least => do
    match ← nextLine? with
    | none => return .nil
    | some (n, chars) =>
      if n < least then return .nil
      if isDash chars then return .list (← elements (node fuel) n (fuel + 1))
      if (key? chars).isSome then
        return .table (← membersAt (node fuel) n (fuel + 1) [])
      inline (node fuel least) least chars

end Block

/-! ### Documents -/

/-- Whether a line begins with `mark`, alone or set off. -/
def isMark (mark : String) (line : List Char) : Bool :=
  mark.toList.isPrefixOf line &&
    match line.drop 3 with
    | [] => true
    | c :: _ => isBlank c

/-- Splits the lines of a text into documents. Blank lines alone make up none. -/
def documents : List (List Char) → Bool → List (List Char) → List (List (List Char))
  | [], started, found =>
    if started || !found.all Block.isBlankLine then [found.reverse] else []
  | line :: rest, started, found =>
    let ended := if started || !found.all Block.isBlankLine then [found.reverse] else []
    if isMark "---" line then
      ended ++ documents rest true [List.replicate 3 ' ' ++ line.drop 3]
    else if isMark "..." line then ended ++ documents rest false []
    else if !started && found.all Block.isBlankLine && line.head? = some '%' then
      documents rest started found
    else documents rest started (line :: found)

/-- The value of a document. -/
def document (lines : List (List Char)) : Option ConfigTree := do
  let fuel := lines.flatten.length + lines.length + 2
  let (v, rest) ← (Block.node fuel 0).run { lines }
  if rest.lines.all Block.isBlankLine then return v else none

/-- Reads a text of at most one document. -/
def read (text : String) : Option ConfigTree :=
  let lines := (text.toList.filter (· ≠ '\r')).splitOn '\n'
  match documents lines false [] with
  | [] => some (.table [])
  | [lines] => document lines
  | _ => none

end Switchboard.Format.Yaml
