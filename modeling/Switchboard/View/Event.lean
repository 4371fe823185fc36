import Switchboard.Journal.Event
import Switchboard.Json.Access

/-!
# Log events as tools see them

All fields are shown as plain texts. Spans are left out where there are none.
-/

namespace Switchboard

def Fields.view (fields : Fields) : Json :=
  .obj (fields.shown.map fun f => (f.1, .str f.2.plain))

def Event.view (e : Event) : Json :=
  .obj ([("level", .str e.level.label), ("message", .str e.message),
      ("fields", e.fields.view)] ++
    if e.spans.isEmpty then []
    else [("spans", Json.ofList
      (fun s => .obj [("name", .str s.name), ("fields", s.fields.view)]) e.spans)])

def Journal.view (journal : Journal) : Json :=
  Json.ofList Event.view journal

end Switchboard
