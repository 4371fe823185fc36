import Switchboard.Proofs.Settings.Order

/-!
# Settings that a variable overrides

A variable changes the one setting it names, whatever the file and the other variables say
(`load_overrides`). Where these leave the logging written as a list of its fields, the variable for
its level makes a table of it and the other fields are lost; and a variable that names an item of
such a list may be laid over the one that overrides (`overrides_lose`).
-/

namespace Switchboard

open ConfigTree

/-! ### Decoding -/

def ConfigTree.isList : ConfigTree → Bool
  | list _ => true
  | _ => false

theorem withDefault_congr {α : Type} {fields fields' : Layer} {name : String}
    (same : fields.lookup name = fields'.lookup name) (read : ConfigTree → Option α) (default : α) :
    withDefault fields name read default = withDefault fields' name read default := by
  rw [withDefault, withDefault, same]

theorem withDefault_some {α : Type} {fields : Layer} {name : String}
    {v : ConfigTree} (there : fields.lookup name = some v) (read : ConfigTree → Option α)
    (default : α) : withDefault fields name read default = read v := by
  rw [withDefault, there]

theorem LoggingConfig.ofTree?_table_iff {members : Layer} {c : LoggingConfig} :
    ofTree? (.table members) = some c ↔
      withDefault members "level" asText "info" = some c.level ∧
      withDefault members "format" (asName LogFormat.choices) .compact = some c.format ∧
      withDefault members "with_ansi" asBool true = some c.withAnsi ∧
      withDefault members "with_target" asBool true = some c.withTarget ∧
      withDefault members "targets" targetsOfTree? ∅ = some c.targets ∧
      withDefault members "file" (nullable FileConfig.ofTree?) none = some c.file := by
  unfold ofTree?
  simp only [ConfigTree.record, Option.bind_eq_bind, Option.bind_some,
    Option.bind_eq_some_iff, Option.pure_def, Option.some.injEq]
  constructor
  · rintro ⟨level, h₁, format, h₂, withAnsi, h₃, withTarget, h₄, targets, h₅, file, h₆, rfl⟩
    exact ⟨h₁, h₂, h₃, h₄, h₅, h₆⟩
  · rintro ⟨h₁, h₂, h₃, h₄, h₅, h₆⟩
    exact ⟨_, h₁, _, h₂, _, h₃, _, h₄, _, h₅, _, h₆, rfl⟩

/-- The level is read from a table, and the other fields with it. -/
theorem LoggingConfig.ofTree?_of_level {fields fields' : Layer}
    {c : LoggingConfig} {level : String} (agree : Agree "level" (.table fields) (.table fields'))
    (set : fields'.lookup "level" = some (.text level)) (read : ofTree? (.table fields) = some c) :
    ofTree? (.table fields') = some { c with level } := by
  obtain ⟨-, format, withAnsi, withTarget, targets, file⟩ := ofTree?_table_iff.mp read
  have same {α : Type} {name : String} (other : name ≠ "level") (f : ConfigTree → Option α)
      (default : α) : withDefault fields' name f default = withDefault fields name f default :=
    (withDefault_congr (agree name other) f default).symm
  refine ofTree?_table_iff.mpr ⟨withDefault_some set asText "info", ?_, ?_, ?_, ?_, ?_⟩
  · exact (same (by decide) _ _).trans format
  · exact (same (by decide) _ _).trans withAnsi
  · exact (same (by decide) _ _).trans withTarget
  · exact (same (by decide) _ _).trans targets
  · exact (same (by decide) _ _).trans file

/-- Logging that is not written as a list is written as the table of its members. -/
theorem LoggingConfig.ofTree?_members {members : Layer} {c : LoggingConfig}
    (unlisted : (child "logging" members).isList = false)
    (read : withDefault members "logging" ofTree? {} = some c) :
    ofTree? (.table (child "logging" members).members) = some c := by
  cases there : members.lookup "logging" with
  | none =>
    rw [withDefault, there] at read
    rw [child, there]
    exact read
  | some v =>
    rw [withDefault_some there] at read
    rw [child, there] at unlisted ⊢
    cases v with
    | table fields => exact read
    | list items => cases unlisted
    | _ => cases read

/-- A list has no members, so nothing of what it says about the logging is left in the table. -/
theorem LoggingConfig.ofTree?_members_of_list {v : ConfigTree} (listed : v.isList = true) :
    ofTree? (.table v.members) = some {} := by
  cases v with
  | list items => rfl
  | _ => cases listed

namespace Settings

theorem ofTree?_table_iff {members : Layer} {s : Settings} :
    ofTree? (.table members) = some s ↔
      withDefault members "broker" capacityOfTree? 1024 = some s.channelCapacity ∧
      withDefault members "destinations" (asList DestinationConfig.ofTree?) [] =
        some s.destinations ∧
      withDefault members "logging" LoggingConfig.ofTree? {} = some s.logging := by
  unfold ofTree?
  simp only [ConfigTree.record, Option.bind_eq_bind, Option.bind_some,
    Option.bind_eq_some_iff, Option.pure_def, Option.some.injEq]
  constructor
  · rintro ⟨capacity, h₁, destinations, h₂, logging, h₃, rfl⟩
    exact ⟨h₁, h₂, h₃⟩
  · rintro ⟨h₁, h₂, h₃⟩
    exact ⟨_, h₁, _, h₂, _, h₃, rfl⟩

theorem ofTree_ok_iff {v : ConfigTree} {s : Settings} :
    ofTree v = .ok s ↔ ofTree? v = some s ∧ s.validate = .ok () := by
  unfold ofTree
  cases ofTree? v with
  | none => exact iff_of_false nofun fun read => nomatch read.1
  | some s' =>
    dsimp only
    cases valid : s'.validate with
    | error e =>
      refine iff_of_false nofun ?_
      rintro ⟨same, accepted⟩
      cases same
      cases valid.symm.trans accepted
    | ok _ =>
      constructor
      · intro same
        cases same
        exact ⟨rfl, valid⟩
      · rintro ⟨same, -⟩
        cases same
        rfl

/-! ### Loading -/

variable {members members' : Layer} {s : Settings}

theorem ofTree?_of_capacity {n : Nat} (fits : n < 2 ^ 64)
    (agree : AgreeBut "broker" "channel_capacity" (table members) (table members'))
    (holds : Holds "broker" "channel_capacity" (.int n) (table members'))
    (read : ofTree? (table members) = some s) :
    ofTree? (table members') = some { s with channelCapacity := UInt64.ofNat n } := by
  obtain ⟨-, destinations, logging⟩ := ofTree?_table_iff.mp read
  obtain ⟨fields, broker, capacity⟩ := holds
  have bound : Int.pow 2 64 = 18446744073709551616 := by decide
  have number : asUInt64 (.int n) = some (UInt64.ofNat n) := by
    rw [asUInt64, if_pos ⟨by omega, by omega⟩, Int.toNat_natCast]
  refine ofTree?_table_iff.mpr ⟨?_, ?_, ?_⟩
  · refine (withDefault_some broker _ _).trans ?_
    exact (withDefault_some capacity asUInt64 1024).trans number
  · exact (withDefault_congr (agree.parts "destinations" (by decide)) _ _).symm.trans destinations
  · exact (withDefault_congr (agree.parts "logging" (by decide)) _ _).symm.trans logging

/-- The level is set next to what the members of the logging say, not next to what the logging was:
the two differ if it was written as a list. -/
theorem ofTree?_of_level {c : LoggingConfig} {level : String}
    (agree : AgreeBut "logging" "level" (table members) (table members'))
    (holds : Holds "logging" "level" (.text level) (table members'))
    (below : LoggingConfig.ofTree? (table (child "logging" members).members) = some c)
    (read : ofTree? (table members) = some s) :
    ofTree? (table members') = some { s with logging := { c with level } } := by
  obtain ⟨broker, destinations, -⟩ := ofTree?_table_iff.mp read
  obtain ⟨fields, logging, set⟩ := holds
  have others : Agree "level" (table (child "logging" members).members) (table fields) := by
    have same : child "logging" members' = table fields := by
      rw [child]
      exact congrArg (·.getD nil) logging
    have agree := agree.fields
    exact same ▸ agree
  refine ofTree?_table_iff.mpr ⟨?_, ?_, ?_⟩
  · exact (withDefault_congr (agree.parts "broker" (by decide)) _ _).symm.trans broker
  · exact (withDefault_congr (agree.parts "destinations" (by decide)) _ _).symm.trans destinations
  · refine (withDefault_some logging _ _).trans ?_
    exact LoggingConfig.ofTree?_of_level others set below

theorem Acceptable.with_capacity (sound : s.Acceptable) {n : Nat} (positive : 0 < n)
    (fits : n < 2 ^ 64) : { s with channelCapacity := UInt64.ofNat n }.Acceptable := by
  refine { sound with capacity := fun empty => ?_ }
  have size := congrArg UInt64.toNat empty
  rw [UInt64.toNat_ofNat_of_lt' (by simpa using fits)] at size
  exact Nat.ne_of_gt positive size

/-! ### Nothing is read from what is spoilt -/

theorem withDefault_of_spoilt {α : Type} {part field : String} {read : ConfigTree → Option α}
    (scalars : ∀ v, v.isScalar = true → read v = none)
    (compounds : ∀ (fields : Layer) (w : ConfigTree), fields.lookup field = some w →
      w.isScalar = false → read (.table fields) = none)
    (spoilt : Spoilt part field (table members)) (default : α) :
    withDefault members part read default = none := by
  obtain ⟨v, there, scalar | ⟨fields, w, rfl, inner, compound⟩⟩ := spoilt
  · exact (withDefault_some there read default).trans (scalars v scalar)
  · exact (withDefault_some there read default).trans (compounds fields w inner compound)

theorem capacityOfTree?_of_isScalar (v : ConfigTree) (scalar : v.isScalar = true) :
    capacityOfTree? v = none := by
  cases v with
  | list _ | table _ => cases scalar
  | _ => rfl

theorem capacityOfTree?_of_compound (fields : Layer) (w : ConfigTree)
    (there : fields.lookup "channel_capacity" = some w) (compound : w.isScalar = false) :
    capacityOfTree? (.table fields) = none := by
  refine (withDefault_some there asUInt64 1024).trans ?_
  cases w with
  | list _ | table _ => rfl
  | _ => cases compound

theorem ofTree_of_spoilt_capacity (members : Layer)
    (spoilt : Spoilt "broker" "channel_capacity" (table members)) (s : Settings) :
    ofTree (table members) ≠ .ok s := by
  intro loaded
  obtain ⟨broker, -, -⟩ := ofTree?_table_iff.mp (ofTree_ok_iff.mp loaded).1
  rw [withDefault_of_spoilt capacityOfTree?_of_isScalar capacityOfTree?_of_compound spoilt]
    at broker
  cases broker

theorem ofTree?_logging_of_isScalar (v : ConfigTree) (scalar : v.isScalar = true) :
    LoggingConfig.ofTree? v = none := by
  cases v with
  | list _ | table _ => cases scalar
  | _ => rfl

theorem ofTree?_logging_of_compound (fields : Layer) (w : ConfigTree)
    (there : fields.lookup "level" = some w) (compound : w.isScalar = false) :
    LoggingConfig.ofTree? (.table fields) = none := by
  refine Option.eq_none_iff_forall_ne_some.mpr fun c read => ?_
  have level := (LoggingConfig.ofTree?_table_iff.mp read).1
  rw [withDefault_some there] at level
  cases w with
  | list _ | table _ => cases level
  | _ => cases compound

theorem ofTree_of_spoilt_level (members : Layer)
    (spoilt : Spoilt "logging" "level" (table members)) (s : Settings) :
    ofTree (table members) ≠ .ok s := by
  intro loaded
  obtain ⟨-, -, logging⟩ := ofTree?_table_iff.mp (ofTree_ok_iff.mp loaded).1
  rw [withDefault_of_spoilt ofTree?_logging_of_isScalar ofTree?_logging_of_compound spoilt]
    at logging
  cases logging

/-! ### Loading -/

variable {read : FileReader} {files : Files} {name : Option String} {env env' : Environment}

/-- The logging is written as a list of its fields. -/
def listsLogging (root : ConfigTree) : Bool :=
  (child "logging" root.members).isList

/-- What a loading with a variable has in common with one without it that succeeds. -/
theorem mayLoad_of_overrides {setting key text part field : String}
    (succeeds : ∀ outcome, MayLoad read files name env outcome → outcome.isOk = true)
    (fails : ∀ members, Spoilt part field (table members) → ∀ s, ofTree (table members) ≠ .ok s)
    (unplaced : ¬ env.NamesPlace part) (overrides : env.Overrides setting text env')
    (named : Environment.key? setting = some key)
    (leads : Path.ofText key = [.key part, .key field]) {outcome : Except SettingsError Settings}
    (may : MayLoad read files name env' outcome) : ∃ members members' s,
      Makes read files name env (table members) ∧ ofTree (table members) = .ok s ∧
      AgreeBut part field (table members) (table members') ∧
      Holds part field (Environment.value text) (table members') ∧
      ∀ s', ofTree? (table members') = some s' → s'.Acceptable → outcome = .ok s' := by
  obtain ⟨layers, below⟩ := exists_under_of_succeeds succeeds
  rcases may with ⟨absent, -⟩ | ⟨root', makes', rfl⟩
  · cases absent.symm.trans below
  · have apart := apart_of_succeeds succeeds fails unplaced leads
    obtain ⟨root, makes, agree, holds⟩ := makes_of_overrides overrides named leads apart makes'
    obtain ⟨s, loaded⟩ := exists_ok_of_succeeds succeeds makes
    obtain ⟨members, rfl⟩ := makes.table
    obtain ⟨members', rfl⟩ := makes'.table
    exact ⟨members, members', s, makes, loaded, agree, holds, fun s' read sound =>
      ofTree_ok_iff.mpr ⟨read, (validate_ok_iff s').mpr sound⟩⟩

/-- However the texts of files are read: where settings are loaded in every order of the entries,
they are accepted. A variable for the capacity, and one for the level, leads in every order to what
is loaded without it in some order, but for that setting. What sets the other keys is the same in
both, and no other variable names an item of the part by its place. Of logging that is written as a
list nothing is left beside the level. -/
theorem load_overrides
    (succeeds : ∀ outcome, MayLoad read files name env outcome → outcome.isOk = true) :
    (∀ s, MayLoad read files name env (.ok s) → s.validate = .ok ()) ∧
    (¬ env.NamesPlace "broker" → ∀ text n, Decimal.natural? text.toList = some n →
      0 < n → n < 2 ^ 63 → ∀ env', env.Overrides "FLEXLINK_BROKER__CHANNEL_CAPACITY" text env' →
        ∀ outcome', MayLoad read files name env' outcome' →
          ∃ s, MayLoad read files name env (.ok s) ∧
            outcome' = .ok { s with channelCapacity := UInt64.ofNat n }) ∧
    (¬ env.NamesPlace "logging" → ∀ level : String, level.toLower ∈ LoggingConfig.levels →
      ∀ env', env.Overrides "FLEXLINK_LOGGING__LEVEL" level env' →
        ∀ outcome', MayLoad read files name env' outcome' →
          ∃ root s, Makes read files name env root ∧ ofTree root = .ok s ∧ outcome' = .ok { s with
            logging := if listsLogging root then { level } else { s.logging with level } }) := by
  refine ⟨?_, ?_, ?_⟩
  · rintro s (⟨-, refused⟩ | ⟨root, -, loaded⟩)
    · cases refused
    · exact (ofTree_ok_iff.mp loaded).2
  · intro unplaced text n decimal positive small env' overrides outcome' may
    have fits : n < 2 ^ 64 := by omega
    have named : Environment.key? "FLEXLINK_BROKER__CHANNEL_CAPACITY" =
        some "broker.channel_capacity" := by decide +kernel
    have leads : Path.ofText "broker.channel_capacity" =
        [.key "broker", .key "channel_capacity"] := by decide +kernel
    obtain ⟨members, members', s, makes, loaded, agree, holds, loads⟩ :=
      mayLoad_of_overrides succeeds ofTree_of_spoilt_capacity unplaced overrides named leads may
    rw [Environment.value_of_natural decimal small] at holds
    obtain ⟨decoded, valid⟩ := ofTree_ok_iff.mp loaded
    have sound := (validate_ok_iff s).mp valid
    exact ⟨s, Or.inr ⟨_, makes, loaded⟩,
      loads _ (ofTree?_of_capacity fits agree holds decoded) (sound.with_capacity positive fits)⟩
  · intro unplaced level known env' overrides outcome' may
    have named : Environment.key? "FLEXLINK_LOGGING__LEVEL" = some "logging.level" := by
      decide +kernel
    have leads : Path.ofText "logging.level" = [.key "logging", .key "level"] := by decide +kernel
    obtain ⟨members, members', s, makes, loaded, agree, holds, loads⟩ :=
      mayLoad_of_overrides succeeds ofTree_of_spoilt_level unplaced overrides named leads may
    rw [Environment.value_of_level known] at holds
    obtain ⟨decoded, valid⟩ := ofTree_ok_iff.mp loaded
    have sound := (validate_ok_iff s).mp valid
    obtain ⟨-, -, logging⟩ := ofTree?_table_iff.mp decoded
    refine ⟨_, s, makes, loaded, ?_⟩
    by_cases listed : (child "logging" members).isList = true
    · rw [listsLogging, ConfigTree.members, if_pos listed]
      have fields := LoggingConfig.ofTree?_members_of_list listed
      refine loads _ (ofTree?_of_level agree holds fields decoded)
        { sound with level := known, targetLevels := ?_, file := nofun }
      intro target level set
      simp at set
    · rw [listsLogging, ConfigTree.members, if_neg listed]
      have fields := LoggingConfig.ofTree?_members (Bool.eq_false_iff.mpr listed) logging
      exact loads _ (ofTree?_of_level agree holds fields decoded) { sound with level := known }

/-- Two variables set the layout of the lines, and the later one decides it. A file sets the
capacity, and other variables set another one and a level. -/
theorem load_overrides_file :
    let read : FileReader := fun _ => Format.Toml.read
    let files : Files := fun _ => some "broker.channel_capacity = 16"
    let name := some "flexlink.toml"
    let env : Environment :=
      [("FLEXLINK_LOGGING__FORMAT", "json"), ("FLEXLINK_LOGGING__FORMAT__PRETTY", "1")]
    let s (format : LogFormat) : Settings := { channelCapacity := 16, logging := { format } }
    (∀ format ∈ [LogFormat.json, .pretty], MayLoad read files name env (.ok (s format))) ∧
    (∀ outcome, MayLoad read files name (("flexlink_broker__channel_capacity", "064") :: env)
        outcome → ∃ format ∈ [LogFormat.json, .pretty],
          outcome = .ok { s format with channelCapacity := 64 }) ∧
    ∀ outcome, MayLoad read files name (env ++ [("FLEXLINK_LOGGING__LEVEL", "Warn")]) outcome →
      ∃ format ∈ [LogFormat.json, .pretty],
        outcome = .ok { s format with logging := { format, level := "Warn" } } := by
  intro read files name env s
  obtain ⟨good, known, both, unlisted⟩ :
      (∀ outcome ∈ outcomes read files name env, outcome.isOk = true) ∧
      (∀ outcome ∈ outcomes read files name env,
        ∃ format ∈ [LogFormat.json, .pretty], outcome.toOption = some (s format)) ∧
      (∀ format ∈ [LogFormat.json, .pretty],
        ∃ outcome ∈ outcomes read files name env, outcome.toOption = some (s format)) ∧
      ∀ root ∈ trees read files name env, listsLogging root = false := by
    decide +kernel
  have format {s' : Settings} (may : MayLoad read files name env (.ok s')) :
      ∃ format ∈ [LogFormat.json, .pretty], s' = s format := by
    obtain ⟨format, there, same⟩ := known _ (mayLoad_iff_mem.mp may)
    exact ⟨format, there, Option.some.inj same⟩
  obtain ⟨-, capacity, level⟩ :=
    load_overrides fun outcome may => good outcome (mayLoad_iff_mem.mp may)
  refine ⟨fun format there => mayLoad_ok_iff.mpr (both format there), ?_, ?_⟩
  · intro outcome may
    have overrides : env.Overrides "FLEXLINK_BROKER__CHANNEL_CAPACITY" "064"
        (("flexlink_broker__channel_capacity", "064") :: env) :=
      Environment.overrides_of_split [] env "broker.channel_capacity" (by decide +kernel)
        (by decide +kernel) (by decide +kernel)
    obtain ⟨s', without, rfl⟩ := capacity (by decide +kernel) "064" 64 (by decide) (by decide)
      (by decide) _ overrides outcome may
    obtain ⟨format, there, rfl⟩ := format without
    exact ⟨format, there, rfl⟩
  · intro outcome may
    have overrides : env.Overrides "FLEXLINK_LOGGING__LEVEL" "Warn"
        (env ++ [("FLEXLINK_LOGGING__LEVEL", "Warn")]) :=
      Environment.overrides_of_split env [] "logging.level" (by decide +kernel)
        (by decide +kernel) (by decide +kernel)
    obtain ⟨root, s', makes, loaded, rfl⟩ := level (by decide +kernel) "Warn" (by decide +kernel) _
      overrides outcome may
    obtain ⟨format, there, rfl⟩ := format (Or.inr ⟨root, makes, loaded⟩)
    exact ⟨format, there, by rw [unlisted root (makes_iff_mem.mp makes)]; rfl⟩

/-- The format that stands next to the level in a list is lost to a variable for the level. A
variable for the capacity is lost to one for the first item of the broker, and one for the level to
one for the first item of the logging. Where a variable below the capacity may come before it, the
settings load in one order and not in another. -/
theorem overrides_lose :
    let read : FileReader := fun _ => Format.Toml.read
    let name := some "flexlink.toml"
    let listed : Files := fun _ => some "logging = [\"debug\", \"json\"]"
    let empty : Files := fun _ => some ""
    let capacity (text : String) := ("FLEXLINK_BROKER__CHANNEL_CAPACITY", text)
    let level := ("FLEXLINK_LOGGING__LEVEL", "warn")
    let first := ("FLEXLINK_BROKER[0]", "5")
    let first' := ("FLEXLINK_LOGGING[0]", "debug")
    let below := ("FLEXLINK_BROKER__CHANNEL_CAPACITY__UNIT", "1")
    ((∀ outcome, MayLoad read listed name [] outcome →
        outcome = .ok { logging := { level := "debug", format := .json } }) ∧
      ∀ outcome, MayLoad read listed name [level] outcome →
        outcome ≠ .ok { logging := { level := "warn", format := .json } }) ∧
    ((∀ outcome, MayLoad read empty name [first] outcome →
        outcome = .ok { channelCapacity := 5 }) ∧
      MayLoad read empty name [first, capacity "16"] (.ok { channelCapacity := 5 })) ∧
    ((∀ outcome, MayLoad read empty name [first'] outcome →
        outcome = .ok { logging := { level := "debug" } }) ∧
      MayLoad read empty name [first', level] (.ok { logging := { level := "debug" } })) ∧
    MayLoad read empty name [below, capacity "16"] (.ok { channelCapacity := 16 }) ∧
      ∃ e, MayLoad read empty name [below, capacity "64"] (.error e) := by
  intro read name listed empty capacity level first first' below
  have loads {files env} {s : Settings}
      (all : ∀ outcome ∈ outcomes read files name env, outcome.toOption = some s) :
      ∀ outcome, MayLoad read files name env outcome → outcome = .ok s :=
    fun outcome may => ok_of_toOption (all outcome (mayLoad_iff_mem.mp may))
  have differs {files env} {s : Settings}
      (all : ∀ outcome ∈ outcomes read files name env, outcome.toOption ≠ some s) :
      ∀ outcome, MayLoad read files name env outcome → outcome ≠ .ok s := by
    rintro outcome may rfl
    exact all _ (mayLoad_iff_mem.mp may) rfl
  refine ⟨⟨loads (by decide +kernel), differs (by decide +kernel)⟩,
    ⟨loads (by decide +kernel), mayLoad_ok_iff.mpr (by decide +kernel)⟩,
    ⟨loads (by decide +kernel), mayLoad_ok_iff.mpr (by decide +kernel)⟩,
    mayLoad_ok_iff.mpr (by decide +kernel), ?_⟩
  have fails : ∃ outcome ∈ outcomes read empty name [below, capacity "64"],
      outcome.toOption = none := by decide +kernel
  obtain ⟨outcome, there, refused⟩ := fails
  cases outcome with
  | error e => exact ⟨e, mayLoad_iff_mem.mpr there⟩
  | ok s => cases refused

end Settings

end Switchboard
