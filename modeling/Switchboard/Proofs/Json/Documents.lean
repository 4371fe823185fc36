import Switchboard.Message
import Switchboard.Proofs.Json.Record
import Switchboard.Proofs.Uuid
import Switchboard.Request.Basic
import Switchboard.Settings.Basic

/-!
# Documents

Messages, principals and settings are written as JSON text. `documents_read_back` says that every
value of these types is read back from its text.
-/

namespace Switchboard

open Json

/-- Every value is read back from the text of its written form. -/
def Json.ReadsBack {α : Type} (write : α → Json) (read : Json → Option α) : Prop :=
  ∀ a, (parse (write a).render).bind read = some a

theorem Json.ReadsBack.of_inverse {α : Type} {write : α → Json} {read : Json → Option α}
    (textual : ∀ a, isTextual (write a)) (inverse : ∀ a, read (write a) = some a) :
    ReadsBack write read := by
  intro a
  rw [parse_render (textual a)]
  exact inverse a

namespace Message

theorem isTextual_toJson (m : Message) : isTextual m.toJson := by
  simp [toJson, isTextual, isTextual.members, isTextual_ofDict, isTextual_ofBytes]

theorem ofJson?_toJson (m : Message) : ofJson? m.toJson = some m := by
  have fields : m.toJson.record fieldNames = some _ := record_obj rfl (by decide)
  simp [ofJson?, fields, List.lookup_cons, required, withDefault, asText, asDict_ofDict,
    asBytes_ofBytes, asInt64_toInt, Uuid.ofText?_toText]

end Message

namespace Principal

theorem isTextual_toJson (p : Principal) : isTextual p.toJson := by
  simp [toJson, isTextual, isTextual.members, isTextual_ofTexts]

theorem ofJson?_toJson (p : Principal) : ofJson? p.toJson = some p := by
  have fields : p.toJson.record ["name", "roles"] = some _ := record_obj rfl (by decide)
  simp [ofJson?, fields, List.lookup_cons, required, withDefault, asText, asList_ofTexts]

end Principal

namespace DestinationConfig

theorem isTextual_toJson (d : DestinationConfig) : isTextual d.toJson := by
  have channel := isTextual_ofOption (f := .str) (fun _ => rfl) d.channel
  simp [toJson, isTextual, isTextual.members, isTextual_ofTexts, channel]

theorem ofJson?_toJson (d : DestinationConfig) : ofJson? d.toJson = some d := by
  have fields : d.toJson.record fieldNames = some _ := record_obj rfl (by decide)
  have channel : nullable asText (ofOption .str d.channel) = some d.channel :=
    nullable_ofOption (f := .str) (fun _ => rfl) (fun _ => by simp) d.channel
  simp [ofJson?, fields, List.lookup_cons, required, withDefault, asText, asList_ofTexts, channel]

end DestinationConfig

theorem Rotation.asName_name (r : Rotation) : asName Rotation.choices (.str r.name) = some r := by
  cases r <;> decide

theorem LogFormat.asName_name (f : LogFormat) :
    asName LogFormat.choices (.str f.name) = some f := by
  cases f <;> decide

namespace FileConfig

theorem isTextual_toJson (f : FileConfig) : isTextual f.toJson := by
  have format := isTextual_ofOption (f := fun l : LogFormat => .str l.name) (fun _ => rfl) f.format
  simp [toJson, isTextual, isTextual.members, format]

theorem ofJson?_toJson (f : FileConfig) : ofJson? f.toJson = some f := by
  have fields : f.toJson.record fieldNames = some _ := record_obj rfl (by decide)
  have format : nullable (asName LogFormat.choices) (ofOption (fun l => .str l.name) f.format) =
      some f.format :=
    nullable_ofOption LogFormat.asName_name (fun _ => by simp) f.format
  simp [ofJson?, fields, List.lookup_cons, withDefault, asText, Rotation.asName_name, format]

end FileConfig

namespace LoggingConfig

theorem isTextual_toJson (c : LoggingConfig) : isTextual c.toJson := by
  simp [toJson, isTextual, isTextual.members, isTextual_ofDict, isTextual_ofOption,
    FileConfig.isTextual_toJson]

theorem ofJson?_toJson (c : LoggingConfig) : ofJson? c.toJson = some c := by
  have fields : c.toJson.record fieldNames = some _ := record_obj rfl (by decide)
  have file : nullable FileConfig.ofJson? (ofOption FileConfig.toJson c.file) = some c.file :=
    nullable_ofOption FileConfig.ofJson?_toJson (fun _ => by simp [FileConfig.toJson]) c.file
  simp [ofJson?, fields, List.lookup_cons, withDefault, asText, asBool, LogFormat.asName_name,
    asDict_ofDict, file]

end LoggingConfig

namespace Settings

theorem isTextual_toJson (s : Settings) : isTextual s.toJson := by
  simp [toJson, isTextual, isTextual.members, isTextual_ofList, DestinationConfig.isTextual_toJson,
    LoggingConfig.isTextual_toJson]

theorem capacityOfJson?_obj (capacity : UInt64) :
    capacityOfJson? (.obj [("channel_capacity", .int capacity.toNat)]) = some capacity := by
  have fields : (Json.obj [("channel_capacity", .int capacity.toNat)]).record
      ["channel_capacity"] = some _ := record_obj rfl (by decide)
  simp [capacityOfJson?, fields, withDefault, asUInt64_toNat]

theorem ofJson?_toJson (s : Settings) : ofJson? s.toJson = some s := by
  have fields : s.toJson.record fieldNames = some _ := record_obj rfl (by decide)
  have destinations := asList_ofList DestinationConfig.ofJson?_toJson s.destinations
  simp [ofJson?, fields, List.lookup_cons, withDefault, capacityOfJson?_obj, destinations,
    LoggingConfig.ofJson?_toJson]

end Settings

/-- Whatever a message, a principal, a destination or settings hold, it comes back unchanged from
its text: any characters and bytes, numbers up to their limits, missing and present parts. -/
theorem documents_read_back :
    ReadsBack Message.toJson Message.ofJson? ∧
    ReadsBack Principal.toJson Principal.ofJson? ∧
    ReadsBack DestinationConfig.toJson DestinationConfig.ofJson? ∧
    ReadsBack LoggingConfig.toJson LoggingConfig.ofJson? ∧
    ReadsBack Settings.toJson Settings.ofJson? :=
  ⟨.of_inverse Message.isTextual_toJson Message.ofJson?_toJson,
    .of_inverse Principal.isTextual_toJson Principal.ofJson?_toJson,
    .of_inverse DestinationConfig.isTextual_toJson DestinationConfig.ofJson?_toJson,
    .of_inverse LoggingConfig.isTextual_toJson LoggingConfig.ofJson?_toJson,
    .of_inverse Settings.isTextual_toJson Settings.ofJson?_toJson⟩

end Switchboard
