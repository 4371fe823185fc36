import Switchboard.Journal.Event
import Switchboard.Json.Basic
import Switchboard.Logging.Config
import Switchboard.Text.Quoted

/-!
# Log lines

The line that an event makes in each layout, from behind its time on. Colours and weights are the
escapes that terminals know. Lines of the pretty layout that tell a place in the source, and the
time, are no part of this.
-/

namespace Switchboard

inductive LogLine
  | text (s : String)
  | record (v : Json)

/-- How lines are laid out. -/
structure Layout where
  format : LogFormat
  /-- Whether terminal escapes are used. -/
  ansi : Bool
  /-- Whether targets are shown. -/
  target : Bool
deriving DecidableEq, Repr

namespace Layout

/-! ### Terminal escapes -/

/-- The escape that turns the given attributes on. -/
def escape (attributes : String) : String :=
  String.ofList [Char.ofNat 0x1B, '['] ++ attributes ++ "m"

/-- The escape that turns all attributes off. -/
def plain : String := escape "0"

/-- The number of the colour of a level. -/
def colour : Level → String
  | .error => "31"
  | .warn => "33"
  | .info => "32"
  | .debug => "34"
  | .trace => "35"

/-- `s` under the given attributes, if escapes are used. -/
def paint (l : Layout) (attributes s : String) : String :=
  if l.ansi then escape attributes ++ s ++ plain else s

/-- A character of a message. Characters that could steer a terminal are written out. -/
def tame (c : Char) : String :=
  if c.toNat = 0x1B then "\\x1b"
  else if c.toNat = 0x07 then "\\x07"
  else if c.toNat = 0x08 then "\\x08"
  else if c.toNat = 0x0C then "\\x0c"
  else if c.toNat = 0x7F then "\\x7f"
  else if 0x80 ≤ c.toNat ∧ c.toNat ≤ 0x9F then
    "\\u\x7b" ++ String.ofList (Text.hexDigits c.toNat) ++ "\x7d"
  else String.ofList [c]

def tamed (s : String) : String :=
  String.join (s.toList.map tame)

/-- A value in a line of text. -/
def shown : FieldValue → String
  | .rendered form => form
  | .text s => Text.quoted s
  | .number n => toString n
  | .absent => ""

/-- The name of a level, in five columns. -/
def column (level : Level) : String :=
  if level.label.length < 5 then " " ++ level.label else level.label

/-- What follows the time, up to the level. -/
def opening (l : Layout) (level : Level) : String :=
  (if l.ansi then plain else "") ++ " " ++ l.paint (colour level) (column level) ++ " "

/-! ### Layouts -/

def compactFields (l : Layout) (fields : Fields) : List String :=
  fields.shown.map fun f => l.paint "3" f.1 ++ l.paint "2" "=" ++ shown f.2

/-- One line: spans, target, message and fields, then the fields of the spans. -/
def compact (l : Layout) (e : Event) : String :=
  let spans := String.join (e.spans.map fun s => l.paint "1" s.name ++ ":")
  let target := if l.target then l.paint "2" e.target ++ l.paint "2" ":" ++ " " else ""
  let around := (e.spans.filter (!·.fields.shown.isEmpty)).map fun s =>
    l.paint "2" (" ".intercalate (l.compactFields s.fields))
  l.opening e.level ++ (if e.spans.isEmpty then "" else spans ++ " ") ++ target ++
    " ".intercalate (tamed e.message :: (l.compactFields e.fields ++ around))

/-- The message and the fields with commas between them, in the colour of the level. -/
def pretty (l : Layout) (e : Event) : String :=
  let on := if l.ansi then escape (colour e.level) else ""
  let bold := if l.ansi then escape ("1;" ++ colour e.level) else ""
  let back := if l.ansi then plain ++ on else ""
  let target := if l.target then bold ++ e.target ++ back ++ ":" else ""
  l.opening e.level ++ target ++ " " ++
    ", ".intercalate ((on ++ tamed e.message) ::
      e.fields.shown.map fun f => bold ++ f.1 ++ back ++ ": " ++ shown f.2) ++
    (if l.ansi then plain else "")

/-- The value of a field in an object. -/
def value : FieldValue → Json
  | .number n => Json.ofNat n
  | v => .str v.plain

def members (fields : Fields) : List (String × Json) :=
  fields.shown.map fun f => (f.1, value f.2)

def spanRecord (s : Span) : Json :=
  .obj (members s.fields ++ [("name", .str s.name)])

/-- An object. The innermost span is shown on its own and in the list of all of them. -/
def record (l : Layout) (e : Event) : Json :=
  .obj ([("level", .str e.level.label),
      ("fields", .obj (("message", .str e.message) :: members e.fields))] ++
    (if l.target then [("target", .str e.target)] else []) ++
    match e.spans.getLast? with
    | none => []
    | some inner => [("span", spanRecord inner), ("spans", Json.ofList spanRecord e.spans)])

/-- The line of an event. -/
def line (l : Layout) (e : Event) : LogLine :=
  match l.format with
  | .compact => .text (l.compact e)
  | .pretty => .text (l.pretty e)
  | .json => .record (l.record e)

end Layout

end Switchboard
