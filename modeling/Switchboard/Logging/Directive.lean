import Switchboard.Decimal.Whole
import Switchboard.Status
import Switchboard.Text.Alphanumeric
import Switchboard.Text.Blank

/-!
# Filter directives

One part of a filter: `target[span{field=value}]=level`, in which everything but one of target,
span and level may be missing. A part without a level lets everything through, and a part that is
only a word is a level if it reads as one and a target otherwise.
-/

namespace Switchboard

/-- The least severe level that gets through, or nothing at all. -/
abbrev Threshold := Option Level

namespace Threshold

def allows (t : Threshold) (level : Level) : Bool :=
  match t with
  | none => false
  | some most => level.verbosity ≤ most.verbosity

/-- Names of levels, in lower case. -/
def names : List (String × Threshold) :=
  [("error", some .error), ("warn", some .warn), ("info", some .info), ("debug", some .debug),
    ("trace", some .trace), ("off", none)]

/-- The threshold that lets through the `n` most severe levels. -/
def ofCount? (n : Nat) : Option Threshold :=
  if n = 0 then some none
  else (Level.all.find? fun level => level.verbosity == n).map some

/-- Reads a number or a name in ASCII letters of any case. Nothing stands for errors. -/
def ofChars? (cs : List Char) : Option Threshold :=
  match (Decimal.natural? cs).bind ofCount? with
  | some t => some t
  | none =>
    if cs = [] then some (some .error)
    else names.lookup (String.ofList (cs.map Char.toLower))

end Threshold

/-- A field that an event needs, with the value it needs if any. -/
structure FieldMatch where
  name : String
  value : Option String
deriving DecidableEq, Repr

structure Directive where
  target : Option String := none
  span : Option String := none
  fields : List FieldMatch := []
  threshold : Threshold := some .trace
deriving DecidableEq, Repr

namespace Directive

/-- Whether a directive that begins with a name may begin with `c`. -/
def isStart (c : Char) : Bool :=
  c = '-' || c = ':' || c = '_' || Text.isAlphanumeric c

/-- Reads a name and, after an equals sign, a value up to the next one. -/
def fieldOf (cs : List Char) : FieldMatch :=
  let name := cs.takeWhile (· ≠ '=')
  { name := String.ofList name
    value := match cs.drop name.length with
      | [] => none
      | _ :: value => some (String.ofList (value.takeWhile (· ≠ '='))) }

/-- Reads the threshold after an equals sign. -/
def thresholdOf? (cs : List Char) : Option Threshold :=
  if cs = [] then some (some .trace) else Threshold.ofChars? cs

/-- The characters from `first` up to but not including `last`. -/
def cut (first last : Nat) (cs : List Char) : List Char :=
  (cs.take last).drop first

/-- Reads what follows the closing bracket at `place`. -/
def afterBracket (text part : List Char) (place : Nat) (d : Directive) : Option Directive :=
  match part.drop (place + 1) with
  | [] => some d
  | '=' :: _ => (thresholdOf? (text.drop (place + 2))).map fun t => { d with threshold := t }
  | _ => none

/-- The place of the first of `marks` from `first` on. -/
def find? (marks : List Char) (first : Nat) (part : List Char) : Option Nat :=
  ((part.drop first).findIdx? marks.contains).map (first + ·)

/-- Reads a span and fields after the opening bracket, which is followed by `first`. -/
def inBrackets (text part : List Char) (first : Nat) (d : Directive) : Option Directive := do
  let place ← find? [']', '\x7b'] first part
  let name := String.ofList (cut first place text)
  if part[place]? = some ']' then
    afterBracket text part place { d with span := some name }
  else
    let close ← find? ['\x7d'] (place + 1) part
    let field := cut (place + 1) close text
    let d := { d with span := if name = "" then none else some name, fields := [fieldOf field] }
    if field = [] ∨ part[close + 1]? ≠ some ']' then none
    else afterBracket text part (close + 1) d

/-- Reads a directive. Blanks around it are passed over to find the marks in it, but the places of
the marks are then counted from the very front. -/
def ofChars? (text : List Char) : Option Directive :=
  let part := Text.trimBlanks text
  match part with
  | [] => none
  | '[' :: _ => inBrackets text part 1 {}
  | c :: _ =>
    if !isStart c then none
    else match find? ['=', '['] 0 part with
      | none =>
        match Threshold.ofChars? text with
        | some t => some { threshold := t }
        | none => some { target := some (String.ofList text) }
      | some place =>
        let d : Directive := { target := some (String.ofList (cut 0 place text)) }
        if part[place]? = some '=' then
          (thresholdOf? (text.drop (place + 1))).map fun t => { d with threshold := t }
        else inBrackets text part (place + 1) d

/-- Whether the directive can enable an event whatever spans it stands in. -/
def isStatic (d : Directive) : Bool :=
  d.span.isNone && d.fields.all (·.value.isNone)

/-- Whether events of the given target and fields are the directive's business. -/
def concerns (d : Directive) (target : String) (fieldNames : List String) : Bool :=
  (match d.target with
    | none => true
    | some start => start.toList.isPrefixOf target.toList) &&
  d.fields.all fun f => fieldNames.contains f.name

end Directive

end Switchboard
