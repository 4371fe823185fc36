import Mathlib.Algebra.Group.Nat.Defs
import Switchboard.Proofs.Settings
import Switchboard.Proofs.Settings.Paths
import Switchboard.Settings.Environment

/-!
# Variables and the layer they make up

The layer has one entry for each key that variables set, which says what the last of them says
(`mem_layer_iff`). A decimal text stands for its number and the name of a level for itself.
-/

namespace Switchboard

namespace ConfigTree

variable {key : String} {members : Layer} {v : ConfigTree}

theorem mem_put {m : String × ConfigTree} (there : m ∈ put key v members) :
    m = (key, v) ∨ m ∈ members := by
  induction members with
  | nil => exact Or.inl (List.mem_singleton.mp there)
  | cons m' rest ih =>
    rw [put] at there
    split at there
    · rename_i same
      rw [same] at there
      exact (List.mem_cons.mp there).imp_right (List.mem_cons_of_mem _)
    · rcases List.mem_cons.mp there with rfl | later
      · exact Or.inr List.mem_cons_self
      · exact (ih later).imp_right (List.mem_cons_of_mem _)

theorem nodup_put (key : String) (v : ConfigTree) (distinct : (members.map Prod.fst).Nodup) :
    ((put key v members).map Prod.fst).Nodup := by
  induction members with
  | nil => exact List.nodup_singleton key
  | cons m rest ih =>
    obtain ⟨new, others⟩ := List.nodup_cons.mp distinct
    rw [put]
    split
    · exact distinct
    · rename_i differs
      refine List.nodup_cons.mpr ⟨fun there => ?_, ih others⟩
      obtain ⟨m', there, same⟩ := List.mem_map.mp there
      rcases mem_put there with rfl | there
      · exact differs same.symm
      · exact new (List.mem_map.mpr ⟨m', there, same⟩)

theorem mem_iff_lookup (distinct : (members.map Prod.fst).Nodup) :
    (key, v) ∈ members ↔ members.lookup key = some v := by
  induction members with
  | nil => exact iff_of_false List.not_mem_nil nofun
  | cons m rest ih =>
    obtain ⟨k, w⟩ := m
    obtain ⟨new, others⟩ := List.nodup_cons.mp distinct
    rw [lookup_cons, List.mem_cons, ih others]
    split
    · rename_i same
      subst same
      have absent : rest.lookup key ≠ some v := fun there =>
        new (List.mem_map.mpr ⟨_, (ih others).mpr there, rfl⟩)
      simp [absent, eq_comm]
    · rename_i differs
      simp [differs]

end ConfigTree

namespace Environment

open ConfigTree

variable {env : Environment} {key text : String}

/-- What a key is set to. The last of its variables says it. -/
def text? (env : Environment) (key : String) : Option String :=
  (env.reverse.find? fun v => key? v.1 = some key).map Prod.snd

/-- The entries that variables make, in their order. -/
def entries (env : Environment) : Layer :=
  env.filterMap fun v => (key? v.1).map (·, value v.2)

/-- Entries put into a table one after the other. -/
def enter (members entries : Layer) : Layer :=
  entries.foldl (fun members m => put m.1 m.2 members) members

theorem nodup_enter (new : Layer) : ∀ {members : Layer}, (members.map Prod.fst).Nodup →
    ((enter members new).map Prod.fst).Nodup := by
  induction new with
  | nil => exact id
  | cons m rest ih => exact fun distinct => ih (nodup_put m.1 m.2 distinct)

theorem lookup_enter (key : String) (new : Layer) : ∀ members : Layer,
    (enter members new).lookup key = (new.reverse.lookup key).or (members.lookup key) := by
  induction new with
  | nil => exact fun members => rfl
  | cons m rest ih =>
    intro members
    refine (ih (put m.1 m.2 members)).trans ?_
    rw [lookup_put, List.reverse_cons, List.lookup_append, lookup_cons, Option.or_assoc]
    split <;> rfl

theorem lookup_filterMap (key : String) (vars : List (String × String)) :
    (vars.filterMap fun v => (key? v.1).map (·, value v.2)).lookup key =
      ((vars.find? fun v => key? v.1 = some key).map Prod.snd).map value := by
  induction vars with
  | nil => rfl
  | cons v rest ih =>
    rw [List.filterMap_cons, List.find?_cons]
    cases named : key? v.1 with
    | none => simpa using ih
    | some other =>
      rw [Option.map_some, lookup_cons]
      by_cases same : key = other
      · simp [same]
      · simpa [same, Ne.symm same] using ih

theorem lookup_layer (env : Environment) (key : String) :
    env.layer.lookup key = (env.text? key).map value := by
  have entered := lookup_enter key env.entries []
  rw [entries, ← List.filterMap_reverse, lookup_filterMap, List.lookup_nil, Option.or_none]
    at entered
  exact entered

theorem nodup_layer (env : Environment) : (env.layer.map Prod.fst).Nodup :=
  nodup_enter env.entries List.nodup_nil

theorem mem_layer_iff {v : ConfigTree} :
    (key, v) ∈ env.layer ↔ ∃ text, env.text? key = some text ∧ value text = v := by
  rw [mem_iff_lookup (nodup_layer env), lookup_layer, Option.map_eq_some_iff]

theorem exists_of_text? (set : env.text? key = some text) :
    ∃ v ∈ env, key? v.1 = some key ∧ v.2 = text := by
  obtain ⟨v, found, same⟩ := Option.map_eq_some_iff.mp set
  exact ⟨v, List.mem_reverse.mp (List.mem_of_find?_eq_some found),
    by simpa using List.find?_some found, same⟩

/-! ### Values -/

theorem isScalar_value (text : String) : (value text).isScalar = true := by
  unfold value
  dsimp only
  split
  · rfl
  · split
    · rfl
    · split
      · rfl
      · split <;> rfl

theorem isScalar_of_mem_layer {m : String × ConfigTree} (there : m ∈ env.layer) :
    m.2.isScalar = true := by
  obtain ⟨text, -, same⟩ := mem_layer_iff.mp there
  exact same ▸ isScalar_value text

theorem isLower_of_isDigit {c : Char} (digit : c.isDigit = true) : c.toLower.isLower = false := by
  have bounds : 48 ≤ c.toNat ∧ c.toNat ≤ 57 := by
    simpa [Char.isDigit, UInt32.le_iff_toNat_le] using digit
  rw [Text.toLower_of_not_upper (by omega), ← Bool.not_eq_true, Text.isLower_iff]
  omega

/-- There are no letters in a decimal. -/
theorem isLower_of_natural {n : Nat} {cs : List Char} (read : Decimal.natural? cs = some n) :
    ∀ c ∈ cs, c.toLower.isLower = false := by
  have digits {cs : List Char} (read : Decimal.ofDigits? cs = some n) :
      ∀ c ∈ cs, c.toLower.isLower = false := by
    intro c there
    unfold Decimal.ofDigits? at read
    split at read
    · rename_i all
      exact isLower_of_isDigit (List.all_eq_true.mp all.2 c there)
    · cases read
  unfold Decimal.natural? at read
  split at read
  · rename_i cs
    exact List.forall_mem_cons.mpr ⟨by decide, digits read⟩
  · exact digits read

theorem lower_ne {word : String} (plain : word.toList.all Text.isPlain = true)
    (named : word.toList ≠ []) (foreign : ∀ c ∈ text.toList, c.toLower.isLower = false) :
    Text.lower text ≠ word := by
  intro same
  obtain ⟨c, there⟩ := List.exists_mem_of_ne_nil _ named
  have letter := (Bool.and_eq_true _ _ ▸ List.all_eq_true.mp plain c there).1
  rw [← (Text.lower_eq_iff plain text).mp same, Text.toList_toLower] at there
  obtain ⟨c', inside, rfl⟩ := List.mem_map.mp there
  rw [foreign c' inside] at letter
  cases letter

theorem integer?_of_natural {n : Nat} {cs : List Char} (read : Decimal.natural? cs = some n) :
    Decimal.integer? cs = some (n : Int) := by
  unfold Decimal.integer?
  split
  · simp [Decimal.natural?, Decimal.ofDigits?] at read
  · rw [read]
    rfl

/-- A decimal stands for its number if that fits into 64 bits with a sign. -/
theorem value_of_natural {n : Nat} (read : Decimal.natural? text.toList = some n)
    (small : n < 2 ^ 63) : value text = .int n := by
  have foreign := isLower_of_natural read
  have fits : Decimal.fitsInt64 n = true := by
    have bound : Int.pow 2 63 = 9223372036854775808 := by decide
    rw [Decimal.fitsInt64, bound, Bool.and_eq_true, decide_eq_true_eq, decide_eq_true_eq]
    omega
  unfold value
  dsimp only
  rw [if_neg (lower_ne (by decide) (by decide) foreign),
    if_neg (lower_ne (by decide) (by decide) foreign), integer?_of_natural read,
    Option.filter_some_pos fits]

theorem exists_head_of_level (known : text.toLower ∈ LoggingConfig.levels) :
    ∃ c rest, text.toList = c :: rest ∧ c.toLower.isLower = true := by
  have begins : ∀ word ∈ LoggingConfig.levels, (word.toList.head?.any Char.isLower) = true := by
    decide
  have first := begins _ known
  rw [Text.toList_toLower] at first
  cases chars : text.toList with
  | nil =>
    rw [chars] at first
    cases first
  | cons c rest =>
    rw [chars] at first
    exact ⟨c, rest, rfl, first⟩

/-- The name of a level stands for itself. -/
theorem value_of_level (known : text.toLower ∈ LoggingConfig.levels) : value text = .text text := by
  obtain ⟨c, rest, chars, letter⟩ := exists_head_of_level known
  have differs {c' : Char} (other : c'.toLower.isLower = false) : c ≠ c' := by
    rintro rfl
    rw [other] at letter
    cases letter
  have digit : c.isDigit = false := by
    rw [← Bool.not_eq_true]
    intro digit
    exact differs (isLower_of_isDigit digit) rfl
  have word {w : String} (unknown : w ∉ LoggingConfig.levels) : Text.lower text ≠ w := by
    rintro rfl
    exact unknown (List.contains_iff_mem.mp (LoggingConfig.isLevel_iff.mpr known))
  have minus : c ≠ '-' := differs (by decide)
  have plus : c ≠ '+' := differs (by decide)
  have point : c ≠ '.' := differs (by decide)
  have integer : Decimal.integer? text.toList = none := by
    simp [chars, Decimal.integer?, Decimal.natural?, Decimal.ofDigits?, minus, plus, digit]
  have double : Double.ofText? text = none := by
    have name {w : String} (unknown : w ∉ LoggingConfig.levels) : text.toLower ≠ w := by
      rintro rfl
      exact unknown known
    have whole : String.ofList (c :: rest) = text := by
      rw [← chars, String.ofList_toList]
    have decimal : Double.readDecimal false (c :: rest) = none := by
      simp [Double.readDecimal, Decimal.takeDigits, digit, point]
    have inf := name (w := "inf") (by decide)
    have infinity := name (w := "infinity") (by decide)
    have nan := name (w := "nan") (by decide)
    simp [Double.ofText?, chars, minus, plus, whole, decimal, inf, infinity, nan]
  unfold value
  dsimp only
  rw [if_neg (word (by decide)), if_neg (word (by decide)), integer, double]
  rfl

end Environment

end Switchboard
