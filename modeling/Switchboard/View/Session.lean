import Switchboard.Json.Access
import Switchboard.Logging.Session

/-!
# Log lines and files as tools see them
-/

namespace Switchboard

def LogLine.view : LogLine → Json
  | .text s => .str s
  | .record v => v

/-- The name of a place with a mark in place of each digit. -/
def Place.view (p : Place) : String :=
  ("/".intercalate p).map fun c => if c.isDigit then '#' else c

namespace Disk

/-- The files below the working directory by their names, in ascending order. -/
def listing (d : Disk) : List (String × List LogLine) :=
  (d.files.map fun f => (Place.view f.1, f.2)).mergeSort fun a b => a.1 ≤ b.1

def viewNames (d : Disk) : Json :=
  Json.ofTexts (d.listing.map (·.1))

def view (d : Disk) : Json :=
  Json.ofList (fun f => .arr [.str f.1, Json.ofList LogLine.view f.2]) d.listing

end Disk

def Level.ofText (name : String) : Level :=
  (all.find? fun level => level.label == name.toUpper).getD .trace

/-- The event that a script describes: level, message and, if it is there, target. -/
def Event.ofScript (target : String) (v : Json) : Event :=
  match v.elements.map Json.toText with
  | [level, message] => { level := .ofText level, target, message }
  | [level, message, target] => { level := .ofText level, target, message }
  | _ => { level := .trace, target, message := "" }

end Switchboard
