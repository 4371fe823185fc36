import Switchboard.Json.Record
import Switchboard.Proofs.Json.Text

/-!
# Reading back the parts of records

Lists, bytes, texts by name and members that may be null are read back as they were written.
-/

namespace Switchboard.Json

variable {α : Type}

/-! ### Everything written is textual -/

theorem isTextual_arr {vs : List Json} (each : ∀ v ∈ vs, isTextual v) : isTextual (.arr vs) := by
  rw [isTextual]
  induction vs with
  | nil => rfl
  | cons v vs ih =>
    rw [isTextual.items, Bool.and_eq_true]
    exact ⟨each v List.mem_cons_self, ih fun w there => each w (List.mem_cons_of_mem v there)⟩

theorem isTextual_obj {ms : List (String × Json)} (each : ∀ m ∈ ms, isTextual m.2) :
    isTextual (.obj ms) := by
  rw [isTextual]
  induction ms with
  | nil => rfl
  | cons m ms ih =>
    rw [isTextual.members, Bool.and_eq_true]
    exact ⟨each m List.mem_cons_self, ih fun w there => each w (List.mem_cons_of_mem m there)⟩

theorem isTextual_ofList {f : α → Json} (each : ∀ a, isTextual (f a)) (as : List α) :
    isTextual (ofList f as) := by
  refine isTextual_arr fun v there => ?_
  obtain ⟨a, -, rfl⟩ := List.mem_map.mp there
  exact each a

theorem isTextual_ofOption {f : α → Json} (each : ∀ a, isTextual (f a)) (a? : Option α) :
    isTextual (ofOption f a?) := by
  cases a? with
  | none => rfl
  | some a => exact each a

theorem isTextual_ofTexts (texts : List String) : isTextual (ofTexts texts) :=
  isTextual_ofList (fun _ => rfl) texts

theorem isTextual_ofBytes (bytes : Bytes) : isTextual (ofBytes bytes) :=
  isTextual_ofList (fun _ => rfl) bytes

theorem isTextual_ofDict (d : Dict) : isTextual (ofDict d) := by
  refine isTextual_obj fun m there => ?_
  obtain ⟨e, -, rfl⟩ := List.mem_map.mp there
  rfl

/-! ### Reading what was written -/

/-- A record is read from all its fields. -/
theorem record_obj {names : List String} {members : List (String × Json)}
    (all : members.map (·.1) = names) (distinct : names.Nodup) :
    record names (obj members) = some members := by
  subst all
  have known : ∀ m ∈ members, (members.map (·.1)).contains m.1 := fun m there =>
    List.contains_iff_mem.mpr (List.mem_map_of_mem there)
  have split : members.partition (fun m => (members.map (·.1)).contains m.1) = (members, []) := by
    rw [List.partition_eq_filter_filter, List.filter_eq_self.mpr known]
    exact congrArg _ (List.filter_eq_nil_iff.mpr fun m there => by
      simp only [Function.comp_apply, known m there, Bool.not_true]
      exact Bool.false_ne_true)
  simp only [record, split]
  simp [distinct]

theorem mapM_map {f : α → Json} {read : Json → Option α} (inverse : ∀ a, read (f a) = some a)
    (as : List α) : (as.map f).mapM read = some as := by
  induction as with
  | nil => rfl
  | cons a as ih => simp [inverse a, ih]

theorem asList_ofList {f : α → Json} {read : Json → Option α} (inverse : ∀ a, read (f a) = some a)
    (as : List α) : asList read (ofList f as) = some as :=
  mapM_map inverse as

theorem asList_ofTexts (texts : List String) : asList asText (ofTexts texts) = some texts :=
  asList_ofList (f := str) (fun _ => rfl) texts

theorem nullable_ofOption {f : α → Json} {read : Json → Option α}
    (inverse : ∀ a, read (f a) = some a) (present : ∀ a, f a ≠ null) (a? : Option α) :
    nullable read (ofOption f a?) = some a? := by
  cases a? with
  | none => rfl
  | some a =>
    have written : nullable read (f a) = (read (f a)).map some := by
      unfold nullable
      split
      · rename_i absent
        exact absurd absent (present a)
      · rfl
    rw [ofOption, written, inverse]
    rfl

/-- Numbers within the bounds are read. -/
theorem asIntBetween_int {low high n : Int} (above : low ≤ n) (below : n ≤ high) :
    asIntBetween low high (int n) = some n :=
  if_pos ⟨above, below⟩

theorem asByte_toNat (b : UInt8) : asByte (int b.toNat) = some b := by
  have small := b.toNat_lt
  rw [asByte, asIntBetween_int (by omega) (by omega)]
  simp

theorem asBytes_ofBytes (bytes : Bytes) : asBytes (ofBytes bytes) = some bytes :=
  mapM_map asByte_toNat bytes

theorem asInt64_toInt (n : Int64) : asInt64 (int n.toInt) = some n := by
  rw [asInt64, asIntBetween_int n.minValue_le_toInt n.toInt_le]
  simp

theorem asUInt64_toNat (n : UInt64) : asUInt64 (int n.toNat) = some n := by
  have small := n.toNat_lt_size
  rw [asUInt64, asIntBetween_int (by omega) (by omega)]
  simp

theorem foldlM_texts (entries : List (String × String)) (d : Dict) :
    (entries.map fun e => (e.1, str e.2)).foldlM
        (fun (d : Dict) m => (asText m.2).map (d.insert m.1 ·)) d =
      some (entries.foldl (fun d e => d.insert e.1 e.2) d) := by
  induction entries generalizing d with
  | nil => rfl
  | cons e entries ih => exact ih (d.insert e.1 e.2)

/-- The entries of a dictionary make it up again. -/
theorem ofList_toList (d : Dict) : Std.ExtTreeMap.ofList d.toList = d := by
  apply Std.ExtTreeMap.ext_getElem?
  intro k
  cases there : d[k]? with
  | some v =>
    have entry := Std.ExtTreeMap.mem_toList_iff_getElem?_eq_some.mpr there
    exact Std.ExtTreeMap.getElem?_ofList_of_mem Std.ReflCmp.compare_self
      Std.ExtTreeMap.distinct_keys_toList entry
  | none =>
    apply Std.ExtTreeMap.getElem?_ofList_of_contains_eq_false
    simp only [List.contains_eq_mem, List.mem_map, decide_eq_false_iff_not]
    rintro ⟨⟨k', v⟩, entry, rfl⟩
    rw [Std.ExtTreeMap.mem_toList_iff_getElem?_eq_some.mp entry] at there
    cases there

theorem asDict_ofDict (d : Dict) : asDict (ofDict d) = some d := by
  rw [ofDict, asDict, foldlM_texts, ← Std.ExtTreeMap.ofList_eq_foldl, ofList_toList]

end Switchboard.Json
