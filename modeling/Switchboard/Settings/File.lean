import Switchboard.Format.Ini
import Switchboard.Format.Json
import Switchboard.Format.JsonFive
import Switchboard.Format.Ron
import Switchboard.Format.Toml.Document
import Switchboard.Format.Yaml.Block

/-!
# Settings files

The ending of a file's name tells what is written in it. A name that leads to no file may lack its
ending.
-/

namespace Switchboard

inductive FileFormat
  | toml
  | json
  | yaml
  | ini
  | ron
  | jsonFive
deriving DecidableEq, Repr

/-- A reader for each format. It gives the tree that a text writes. -/
abbrev FileReader := FileFormat → String → Option ConfigTree

namespace FileFormat

def endings : List (String × FileFormat) :=
  [("toml", toml), ("json", json), ("yaml", yaml), ("yml", yaml), ("ini", ini), ("ron", ron),
    ("json5", jsonFive)]

/-- The readers of this library. What is proved about loading holds for any others too. -/
def read : FileReader
  | toml => Format.Toml.read
  | json => Format.Json.read
  | yaml => Format.Yaml.read
  | ini => Format.Ini.read
  | ron => Format.Ron.read
  | jsonFive => Format.JsonFive.read

end FileFormat

/-- The regular files, as texts by their names. -/
abbrev Files := String → Option String

namespace SettingsFile

/-- What follows the last point of the last part of a name, unless the part begins with that
point. -/
def ending (name : String) : Option String :=
  let part := (name.toList.reverse.takeWhile (· ≠ '/')).reverse
  match part.reverse.dropWhile (· ≠ '.') with
  | [] | [_] => none
  | _ => some (String.ofList (part.reverse.takeWhile (· ≠ '.')).reverse)

/-- The text of the file and its format, if the file is found and the format is known. -/
def find? (files : Files) (name : String) : Option (String × FileFormat) :=
  match files name with
  | some text => do
    let format ← FileFormat.endings.lookup (← ending name)
    return (text, format)
  | none => FileFormat.endings.findSome? fun (ending, format) =>
    (files (name ++ "." ++ ending)).map (·, format)

/-- The text without a byte order mark at its front. -/
def withoutMark (text : String) : String :=
  match text.toList with
  | c :: rest => if c.toNat = 0xFEFF then String.ofList rest else text
  | [] => text

/-- The layer that a file makes up. The file has to hold a table. -/
def layer? (read : FileReader) (files : Files) (name : String) : Option Layer := do
  let (text, format) ← find? files name
  match read format (withoutMark text) with
  | some (.table members) => some members
  | _ => none

end SettingsFile

end Switchboard
