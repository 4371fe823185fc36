import Switchboard.Proofs.Settings

/-!
# What a filter directive tells of its configuration

A directive is put together without any quoting, so a target whose name has a comma in it may read
like several targets. Configurations can be told apart by their directives as long as no name has a
level in it that stands between an equals sign and a comma. Split at its commas, a directive gives
the base level and one part for each target exactly if there is no comma in any name
(`directive_determines`).
-/

namespace Switchboard

theorem not_mem_of_mem_splitOn {α : Type} [DecidableEq α] {mark : α} {cs piece : List α}
    (split : piece ∈ cs.splitOn mark) : mark ∉ piece := by
  induction cs generalizing piece with
  | nil =>
    rw [List.splitOn_nil, List.mem_singleton] at split
    exact split ▸ List.not_mem_nil
  | cons c rest ih =>
    rw [List.splitOn_cons_eq_if_modifyHead] at split
    split at split
    · rcases List.mem_cons.mp split with rfl | later
      · exact List.not_mem_nil
      · exact ih later
    · rename_i other
      obtain ⟨first, others, pieces⟩ := List.exists_cons_of_ne_nil (List.splitOn_ne_nil mark rest)
      rw [pieces, List.modifyHead_cons] at split
      rcases List.mem_cons.mp split with rfl | later
      · have free := ih (pieces ▸ List.mem_cons_self)
        refine mt List.mem_cons.mp (not_or_intro ?_ free)
        exact fun same => other (beq_iff_eq.mpr same.symm)
      · exact ih (pieces ▸ List.mem_cons_of_mem first later)

namespace LoggingConfig

/-- The same base level and the same targets with the same levels, in letters of either case. -/
structure Agrees (c d : LoggingConfig) : Prop where
  level : c.level.toLower = d.level.toLower
  targets (target : String) :
    c.targets[target]?.map String.toLower = d.targets[target]?.map String.toLower

/-- Split at its commas, the directive gives the base level and then, in the order of the names, one
part for each target. -/
def FallsApart (c : LoggingConfig) : Prop :=
  ∃ ts : List (String × String), ts.Pairwise (·.1 < ·.1) ∧
    (∀ target level, (target, level) ∈ ts ↔ c.targets[target]? = some level) ∧
    c.directive.toList.splitOn ',' =
      (c.level.toLower :: ts.map fun t => t.1 ++ "=" ++ t.2.toLower).map String.toList

/-- Nowhere in the name does a level stand between an equals sign and a comma. -/
def Whole (target : String) : Prop :=
  ∀ level ∈ levels, ¬ '=' :: level.toList ++ [','] <:+: target.toList

instance (target : String) : Decidable (Whole target) :=
  inferInstanceAs (Decidable (∀ level ∈ levels, _))

/-! ### Known levels -/

/-- A level has none of the marks in it that parts of a directive are put together with. -/
theorem unmarked_of_level : ∀ level ∈ levels, ',' ∉ level.toList ∧ '=' ∉ level.toList := by
  decide

theorem level_known {c : LoggingConfig} (accepted : c.validate = .ok ()) :
    c.level.toLower ∈ levels := by
  by_contra unknown
  exact c.finds_validate.ok_iff.mp accepted (.level c.level) ⟨rfl, unknown⟩

theorem targetLevel_known {c : LoggingConfig} (accepted : c.validate = .ok ())
    {target level : String} (set : c.targets[target]? = some level) : level.toLower ∈ levels := by
  by_contra unknown
  exact c.finds_validate.ok_iff.mp accepted (.targetLevel target level) ⟨set, unknown⟩

/-! ### The parts of a directive -/

/-- The targets with their levels in lower case, in the order of the names. -/
def entries (c : LoggingConfig) : List (String × String) :=
  c.targets.toList.map fun t => (t.1, t.2.toLower)

/-- One target with its level. -/
def part (t : String × String) : String :=
  t.1 ++ "=" ++ t.2

/-- What stands behind the base level. -/
def rows (ts : List (String × String)) : List Char :=
  ts.flatMap fun t => ',' :: (part t).toList

theorem configured_iff {c : LoggingConfig} {target : String} :
    target ∈ c.targets ↔ ∃ level, c.targets[target]? = some level := by
  rw [← Std.ExtTreeMap.isSome_getElem?_iff_mem, Option.isSome_iff_exists]

theorem mem_entries_iff (c : LoggingConfig) {target level : String} :
    (target, level) ∈ c.entries ↔ c.targets[target]?.map String.toLower = some level := by
  rw [entries, List.mem_map, Option.map_eq_some_iff]
  constructor
  · rintro ⟨⟨target', level'⟩, listed, same⟩
    obtain ⟨rfl, rfl⟩ := Prod.mk.inj same
    exact ⟨level', Std.ExtTreeMap.mem_toList_iff_getElem?_eq_some.mp listed, rfl⟩
  · rintro ⟨level', set, rfl⟩
    exact ⟨(target, level'), Std.ExtTreeMap.mem_toList_iff_getElem?_eq_some.mpr set, rfl⟩

theorem directive_eq {c : LoggingConfig} (accepted : c.validate = .ok ()) :
    c.directive = ",".intercalate (c.level.toLower :: c.entries.map part) := by
  have lowered : ∀ t ∈ c.targets.toList,
      t.1 ++ "=" ++ Text.lower t.2 = part (t.1, t.2.toLower) := by
    rintro ⟨target, level⟩ listed
    have set := Std.ExtTreeMap.mem_toList_iff_getElem?_eq_some.mp listed
    rw [lower_of_level (targetLevel_known accepted set)]
    rfl
  rw [directive, lower_of_level (level_known accepted), List.map_congr_left lowered, entries,
    List.map_map]
  rfl

theorem toList_parts (ts : List (String × String)) (base : String) :
    (",".intercalate (base :: ts.map part)).toList = base.toList ++ rows ts := by
  induction ts generalizing base with
  | nil => simp [rows]
  | cons t rest ih =>
    rw [List.map_cons, String.intercalate_cons_cons, String.toList_append, ih (part t)]
    simp [rows]

/-! ### Reading the parts back -/

/-- `cs` is empty or begins with a comma. -/
def Stops (cs : List Char) : Prop :=
  ∀ c ∈ cs.head?, c = ','

theorem stops_rows (ts : List (String × String)) : Stops (rows ts) := by
  cases ts with
  | nil => exact nofun
  | cons t rest =>
    rintro c here
    exact (Option.some.inj here).symm

/-- Two words without a comma end together at the first comma. -/
theorem word_inj {word word' rest rest' : List Char} (free : ',' ∉ word) (free' : ',' ∉ word')
    (stops : Stops rest) (stops' : Stops rest') (same : word ++ rest = word' ++ rest') :
    word = word' ∧ rest = rest' := by
  have nothing {extra rest : List Char} (free : ',' ∉ extra) (stops : Stops (extra ++ rest)) :
      extra = [] := by
    cases extra with
    | nil => rfl
    | cons c more => exact absurd (stops c rfl ▸ List.mem_cons_self) free
  rcases List.append_eq_append_iff.mp same with ⟨extra, rfl, rfl⟩ | ⟨extra, rfl, rfl⟩
  · rw [nothing (fun found => free' (List.mem_append_right _ found)) stops]
    simp
  · rw [nothing (fun found => free (List.mem_append_right _ found)) stops']
    simp

/-- The name of a target cannot go on behind the equals sign of another one: it would have the level
and the comma in it, as a level has no equals sign in it. -/
theorem name_ends {target target' level : String} {extra rest rest' : List Char}
    (whole : Whole target') (known : level ∈ levels) (stops : Stops rest)
    (longer : target'.toList = target.toList ++ extra)
    (same : '=' :: level.toList ++ rest = extra ++ '=' :: rest') : extra = [] := by
  have unstopped : ¬ Stops ('=' :: rest') := fun stops => absurd (stops '=' rfl) (by decide)
  cases extra with
  | nil => rfl
  | cons c more =>
    obtain ⟨rfl, behind⟩ := List.cons.inj same
    rcases List.append_eq_append_iff.mp behind with ⟨beyond, rfl, rfl⟩ | ⟨left, split, there⟩
    · cases beyond with
      | nil => exact absurd stops unstopped
      | cons c beyond =>
        obtain rfl := stops c rfl
        refine absurd ?_ (whole level known)
        exact ⟨target.toList, beyond, by simp [longer]⟩
    · cases left with
      | nil => exact absurd (there ▸ stops) unstopped
      | cons c left =>
        obtain ⟨rfl, -⟩ := List.cons.inj there
        refine absurd ?_ (unmarked_of_level level known).2
        exact split ▸ List.mem_append_right more List.mem_cons_self

theorem part_inj {t t' : String × String} {rest rest' : List Char} (whole : Whole t.1)
    (whole' : Whole t'.1) (known : t.2 ∈ levels) (known' : t'.2 ∈ levels) (stops : Stops rest)
    (stops' : Stops rest') (same : (part t).toList ++ rest = (part t').toList ++ rest') :
    t = t' ∧ rest = rest' := by
  obtain ⟨target, level⟩ := t
  obtain ⟨target', level'⟩ := t'
  simp only [part, String.toList_append, List.append_assoc] at same
  have names : target.toList = target'.toList := by
    -- whichever name is the longer one, it goes on behind the equals sign of the other part
    rcases List.append_eq_append_iff.mp same with ⟨extra, longer, there⟩ | ⟨extra, longer, there⟩
    · rw [longer, name_ends whole' known stops longer there, List.append_nil]
    · rw [longer, name_ends whole known' stops' longer there, List.append_nil]
  rw [names] at same
  have behind := (List.cons.inj (List.append_cancel_left same)).2
  obtain ⟨same, rests⟩ := word_inj (unmarked_of_level level known).1
    (unmarked_of_level level' known').1 stops stops' behind
  exact ⟨Prod.ext (String.toList_inj.mp names) (String.toList_inj.mp same), rests⟩

/-- Targets can be read back from their parts, one part after the other. -/
theorem rows_inj {ts ts' : List (String × String)} (sound : ∀ t ∈ ts, Whole t.1 ∧ t.2 ∈ levels)
    (sound' : ∀ t ∈ ts', Whole t.1 ∧ t.2 ∈ levels) (same : rows ts = rows ts') : ts = ts' := by
  induction ts generalizing ts' with
  | nil =>
    cases ts' with
    | nil => rfl
    | cons t' rest' => cases same
  | cons t rest ih =>
    cases ts' with
    | nil => cases same
    | cons t' rest' =>
      obtain ⟨⟨whole, known⟩, others⟩ := List.forall_mem_cons.mp sound
      obtain ⟨⟨whole', known'⟩, others'⟩ := List.forall_mem_cons.mp sound'
      obtain ⟨first, more⟩ := part_inj whole whole' known known' (stops_rows rest)
        (stops_rows rest') (List.cons.inj same).2
      rw [first, ih others others' more]

theorem entries_sound {c : LoggingConfig} (accepted : c.validate = .ok ())
    (whole : ∀ target ∈ c.targets, Whole target) : ∀ t ∈ c.entries, Whole t.1 ∧ t.2 ∈ levels := by
  rintro ⟨target, level⟩ listed
  obtain ⟨level', set, rfl⟩ := Option.map_eq_some_iff.mp (c.mem_entries_iff.mp listed)
  exact ⟨whole target (configured_iff.mpr ⟨level', set⟩), targetLevel_known accepted set⟩

/-- Every comma in a name makes one more piece, and there are no other commas but those between the
parts. -/
theorem fallsApart_iff {c : LoggingConfig} (accepted : c.validate = .ok ()) :
    c.FallsApart ↔ ∀ target ∈ c.targets, ',' ∉ target.toList := by
  constructor
  · rintro ⟨ts, -, listed, split⟩ target configured found
    obtain ⟨level, set⟩ := configured_iff.mp configured
    have piece : (target ++ "=" ++ level.toLower).toList ∈ c.directive.toList.splitOn ',' := by
      rw [split]
      exact List.mem_map_of_mem (List.mem_cons_of_mem _
        (List.mem_map_of_mem ((listed target level).mpr set)))
    refine not_mem_of_mem_splitOn piece ?_
    simp [found]
  · intro free
    refine ⟨c.targets.toList, ?_, fun _ _ => Std.ExtTreeMap.mem_toList_iff_getElem?_eq_some, ?_⟩
    · refine Std.ExtTreeMap.ordered_keys_toList.imp ?_
      rintro t t' before
      exact compareOfLessAndEq_eq_lt.mp before
    · rw [directive_eq accepted, entries, List.map_map, String.toList_intercalate]
      refine List.splitOn_intercalate ',' ?_ (by simp)
      rw [List.forall_mem_map]
      refine List.forall_mem_cons.mpr ⟨(unmarked_of_level _ (level_known accepted)).1, ?_⟩
      rw [List.forall_mem_map]
      rintro ⟨target, level⟩ listed
      have set := Std.ExtTreeMap.mem_toList_iff_getElem?_eq_some.mp listed
      have name := free target (configured_iff.mpr ⟨level, set⟩)
      have unmarked := (unmarked_of_level _ (targetLevel_known accepted set)).1
      simp [part, name, unmarked]

/-- A configuration that is accepted falls apart at the commas of its directive exactly if no name
has one. It agrees with every other one that has the same directive, if all names are whole. -/
theorem directive_determines {c : LoggingConfig} (accepted : c.validate = .ok ()) :
    (c.FallsApart ↔ ∀ target ∈ c.targets, ',' ∉ target.toList) ∧
    ∀ d : LoggingConfig, d.validate = .ok () → (∀ target ∈ c.targets, Whole target) →
      (∀ target ∈ d.targets, Whole target) → c.directive = d.directive → c.Agrees d := by
  refine ⟨fallsApart_iff accepted, ?_⟩
  intro d accepted' whole whole' same
  rw [directive_eq accepted, directive_eq accepted', ← String.toList_inj, toList_parts,
    toList_parts] at same
  -- the base level ends at the first comma, and what is behind it is read back part by part
  obtain ⟨base, behind⟩ := word_inj (unmarked_of_level _ (level_known accepted)).1
    (unmarked_of_level _ (level_known accepted')).1 (stops_rows _) (stops_rows _) same
  have entries := rows_inj (entries_sound accepted whole) (entries_sound accepted' whole') behind
  refine ⟨String.toList_inj.mp base, fun target => Option.ext fun level => ?_⟩
  rw [← mem_entries_iff, ← mem_entries_iff, entries]

/-- Levels in other letters, and a name that has a comma in it but no level in front of the comma.
-/
theorem directive_determines_other_letters :
    let c : LoggingConfig :=
      { level := "WARN", targets := .ofList [("flexlink::adapter", "Debug"), ("x=y,z", "off")] }
    let d : LoggingConfig :=
      { level := "warn", targets := .ofList [("x=y,z", "OFF"), ("flexlink::adapter", "debug")] }
    c.validate = .ok () ∧ d.validate = .ok () ∧ (∀ target ∈ c.targets, Whole target) ∧
      (∀ target ∈ d.targets, Whole target) ∧
      c.directive = "warn,flexlink::adapter=debug,x=y,z=off" ∧ c.directive = d.directive ∧
      c.Agrees d ∧ ¬ c.FallsApart := by
  intro c d
  have accepted : c.validate = .ok () := by decide +kernel
  have accepted' : d.validate = .ok () := by decide +kernel
  have whole : ∀ target ∈ c.targets, Whole target := by
    simp only [← Std.ExtTreeMap.mem_keys]
    decide +kernel
  have whole' : ∀ target ∈ d.targets, Whole target := by
    simp only [← Std.ExtTreeMap.mem_keys]
    decide +kernel
  have same : c.directive = d.directive := by decide +kernel
  obtain ⟨apart, agrees⟩ := directive_determines accepted
  refine ⟨accepted, accepted', whole, whole', by decide +kernel, same,
    agrees d accepted' whole whole' same, fun falls => ?_⟩
  exact apart.mp falls "x=y,z" (by decide +kernel) (by decide)

/-- A name with a level and a comma in it passes for two targets. -/
theorem directive_ambiguous :
    let c : LoggingConfig := { targets := .ofList [("a=debug,b", "info")] }
    let d : LoggingConfig := { targets := .ofList [("a", "debug"), ("b", "info")] }
    c.validate = .ok () ∧ d.validate = .ok () ∧ c.directive = d.directive ∧ ¬ c.Agrees d ∧
      ¬ c.FallsApart := by
  intro c d
  have accepted : c.validate = .ok () := by decide +kernel
  refine ⟨accepted, by decide +kernel, by decide +kernel, fun agrees => ?_, fun falls => ?_⟩
  · exact absurd (agrees.targets "a") (by decide +kernel)
  · exact (fallsApart_iff accepted).mp falls "a=debug,b" (by decide +kernel) (by decide)

end LoggingConfig

end Switchboard
