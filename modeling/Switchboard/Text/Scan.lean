/-!
# Scanning text

A scan takes characters from the front of a text and gives a result, or refuses the text. Scans
are put together in order; of two alternatives the second one starts where the first one did.
-/

namespace Switchboard

abbrev Scan (α : Type) := StateT (List Char) Option α

namespace Scan

variable {α β : Type}

def fail : Scan α := fun _ => none

/-- Scans a whole text. -/
def whole? (scan : Scan α) (s : String) : Option α :=
  match scan.run s.toList with
  | some (a, []) => some a
  | _ => none

def peek? : Scan (Option Char) :=
  return (← get).head?

/-- Takes one character. -/
def next : Scan Char
  | [] => none
  | c :: cs => some (c, cs)

/-- Whether the text goes on with `word`. -/
def sees (word : String) : Scan Bool :=
  return word.toList.isPrefixOf (← get)

/-- Takes `word` if the text goes on with it. -/
def accept (word : String) : Scan Bool := do
  if ← sees word then
    modify (·.drop word.length)
    return true
  else return false

/-- Takes the first of `words` that the text goes on with. -/
def acceptAny : List String → Scan Bool
  | [] => return false
  | word :: words => do
    if ← accept word then return true
    acceptAny words

/-- Takes `word`, which has to come next. -/
def expect (word : String) : Scan Unit := do
  unless ← accept word do fail

def takeWhile (p : Char → Bool) : Scan (List Char) :=
  modifyGet fun cs => (cs.takeWhile p, cs.dropWhile p)

def skipWhile (p : Char → Bool) : Scan Unit :=
  modify (·.dropWhile p)

/-- Takes at least one character. -/
def takeSome (p : Char → Bool) : Scan (List Char) := do
  match ← takeWhile p with
  | [] => fail
  | cs => return cs

def atEnd : Scan Bool :=
  return (← get).isEmpty

/-- The result of `a?`, if there is one. -/
def given (a? : Option α) : Scan α :=
  match a? with
  | some a => pure a
  | none => fail

/-- Collects the results of `step` up to the first time it gives none. -/
def collect (step : Scan (Option α)) : Nat → Scan (List α)
  | 0 => fail
  | fuel + 1 => do
    match ← step with
    | none => return []
    | some a => return a :: (← collect step fuel)

/-- Collects the results of `step` up to the first time it gives none. Each step but the last has
to take a character. -/
def many (step : Scan (Option α)) : Scan (List α) := do
  collect step ((← get).length + 1)

/-- Takes exactly `n` characters with a hexadecimal value and gives the number they write. -/
def hexNumber (digit? : Char → Option Nat) : Nat → Nat → Scan Nat
  | 0, value => return value
  | n + 1, value => do
    hexNumber digit? n (16 * value + (← given (digit? (← next))))

/-- Items with `separate` between them up to `close`. The last item may be followed by another
separator if `trailing`. `skip` takes what may stand between all of these. -/
def items (skip : Scan Unit) (item : Scan α) (separate close : String) (trailing : Bool) :
    Scan (List α) := do
  skip
  if ← accept close then return []
  let first ← item
  skip
  let more ← many do
    if ← accept close then return none
    expect separate
    skip
    if trailing then
      if ← accept close then return none
    let a ← item
    skip
    return some a
  return first :: more

end Scan

end Switchboard
