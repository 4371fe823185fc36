import Mathlib.Data.List.Nodup
import Switchboard.Proofs.Text.Lower
import Switchboard.Settings.Basic

/-!
# Faults of settings

Settings are refused exactly if they have a fault, and what is told is the first of their faults:
the size of the inboxes comes before the destinations, these come in the order of the list, and the
logging comes last (`validate_finds_first`).
-/

namespace Switchboard

/-! ### Checks -/

/-- The check passes only if there is none of the faults `P`. Otherwise it tells the first of them
in the order `before`. -/
structure Finds {φ ε : Type} (before : φ → φ → Prop) (told : φ → ε) (P : φ → Prop)
    (check : Except ε Unit) : Prop where
  passes (passed : check = .ok ()) (f : φ) : ¬ P f
  tells {e : ε} (refused : check = .error e) :
    ∃ f, P f ∧ (∀ g, P g → g = f ∨ before f g) ∧ told f = e

theorem forIn_eq_forM {ε α : Type} (check : α → Except ε Unit) (l : List α) :
    (forIn l PUnit.unit fun x _ => do check x; pure (.yield PUnit.unit)) = l.forM check := by
  induction l with
  | nil => rfl
  | cons x rest ih =>
    rw [List.forIn_cons]
    change _ = (check x >>= fun _ => rest.forM check)
    rw [← ih]
    cases check x <;> rfl

namespace Finds

variable {φ ε α : Type} {before : φ → φ → Prop} {told : φ → ε} {P Q : φ → Prop}
  {check next : Except ε Unit}

theorem congr (same : ∀ f, P f ↔ Q f) (finds : Finds before told P check) :
    Finds before told Q check := by
  have equal : P = Q := funext fun f => propext (same f)
  exact equal ▸ finds

theorem of_ok (none : ∀ f, ¬ P f) : Finds before told P (.ok ()) :=
  ⟨fun _ => none, nofun⟩

theorem of_first (told : φ → ε) (f : φ) (found : P f) (first : ∀ g, P g → g = f ∨ before f g) :
    Finds before told P (.error (told f)) where
  passes := nofun
  tells refused := by
    cases refused
    exact ⟨f, found, first, rfl⟩

theorem ok_iff (finds : Finds before told P check) : check = .ok () ↔ ∀ f, ¬ P f := by
  refine ⟨finds.passes, ?_⟩
  intro sound
  rcases outcome : check with e | ⟨⟨⟩⟩
  · obtain ⟨f, found, -⟩ := finds.tells outcome
    exact absurd found (sound f)
  · rfl

theorem error_iff (finds : Finds before told P check)
    (asymm : ∀ {f g}, before f g → ¬ before g f) {e : ε} :
    check = .error e ↔ ∃ f, P f ∧ (∀ g, P g → g = f ∨ before f g) ∧ told f = e := by
  refine ⟨finds.tells, ?_⟩
  rintro ⟨f, found, first, rfl⟩
  rcases outcome : check with e | ⟨⟨⟩⟩
  · obtain ⟨g, found', first', rfl⟩ := finds.tells outcome
    rcases first g found' with rfl | before
    · rfl
    · rcases first' f found with rfl | before'
      · rfl
      · exact absurd before' (asymm before)
  · exact absurd found (finds.passes outcome f)

/-- One check after the other finds the faults of both, if those of the first one come first. -/
theorem bind (first : Finds before told P check) (second : Finds before told Q next)
    (ordered : ∀ f g, P f → Q g → before f g) :
    Finds before told (fun f => P f ∨ Q f) (check >>= fun _ => next) := by
  rcases outcome : check with e | ⟨⟨⟩⟩
  · obtain ⟨f, found, least, rfl⟩ := first.tells outcome
    refine of_first told f (Or.inl found) ?_
    rintro g (early | late)
    · exact least g early
    · exact Or.inr (ordered f g found late)
  · exact second.congr fun f => (or_iff_right (first.passes outcome f)).symm

theorem forM {P : α → φ → Prop} {check : α → Except ε Unit} {l : List α}
    (each : ∀ x ∈ l, Finds before told (P x) (check x))
    (ordered : l.Pairwise fun x y => ∀ f g, P x f → P y g → before f g) :
    Finds before told (fun f => ∃ x ∈ l, P x f) (l.forM check) := by
  induction l with
  | nil => exact of_ok fun f ⟨x, listed, _⟩ => nomatch listed
  | cons x rest ih =>
    obtain ⟨first, others⟩ := List.forall_mem_cons.mp each
    obtain ⟨early, ordered⟩ := List.pairwise_cons.mp ordered
    refine (first.bind (ih others ordered) ?_).congr ?_
    · rintro f g found ⟨y, listed, later⟩
      exact early y listed f g found later
    · intro f
      simp

theorem mapError {ψ ε' : Type} {before' : ψ → ψ → Prop} {told' : ψ → ε'} {wrap : φ → ψ}
    {reword : ε → ε'} (finds : Finds before told P check)
    (ordered : ∀ f g, before f g → before' (wrap f) (wrap g))
    (reworded : ∀ f, told' (wrap f) = reword (told f)) :
    Finds before' told' (fun g => ∃ f, P f ∧ wrap f = g) (check.mapError reword) := by
  rcases outcome : check with e | ⟨⟨⟩⟩
  · obtain ⟨f, found, least, rfl⟩ := finds.tells outcome
    change Finds before' told' _ (.error (reword (told f)))
    rw [← reworded]
    refine of_first told' (wrap f) ⟨f, found, rfl⟩ ?_
    rintro _ ⟨g, other, rfl⟩
    exact (least g other).imp (congrArg wrap) (ordered f g)
  · exact of_ok fun g ⟨f, found, _⟩ => finds.passes outcome f found

end Finds

/-- The text is empty or white space only. -/
def Text.Blank (s : String) : Prop :=
  ∀ c ∈ s.toList, isBlank c = true

theorem Text.isBlankText_iff {s : String} : isBlankText s = true ↔ Blank s :=
  List.all_eq_true

/-! ### Logging -/

namespace LoggingConfig

inductive Fault
  /-- The base level is none. -/
  | level (level : String)
  /-- The level of a target is none. -/
  | targetLevel (target level : String)
  | blankFile

/-- The base level comes before the targets, these come in ascending order, and the file is last. -/
def Fault.Before : Fault → Fault → Prop
  | .level _, .targetLevel .. => True
  | .level _, .blankFile => True
  | .targetLevel t _, .targetLevel t' _ => t < t'
  | .targetLevel .., .blankFile => True
  | _, _ => False

theorem Fault.Before.asymm {f g : Fault} (first : f.Before g) : ¬ g.Before f := by
  cases f <;> cases g <;> simp only [Fault.Before] at first ⊢ <;> try exact not_false
  exact String.lt_asymm first

def Fault.error : Fault → LoggingError
  | level name => .invalidLevel name
  | targetLevel _ name => .invalidLevel name
  | blankFile => .invalidFile "file prefix must not be empty"

/-- The faults of a configuration. A level is written in letters of either case; characters of other
scripts do not stand for any of them (`isLevel_iff`). -/
def HasFault (c : LoggingConfig) : Fault → Prop
  | .level name => name = c.level ∧ name.toLower ∉ levels
  | .targetLevel t name => c.targets[t]? = some name ∧ name.toLower ∉ levels
  | .blankFile => ∃ file, c.file = some file ∧ Text.Blank file.stem

theorem plain_of_level : ∀ level ∈ levels, level.toList.all Text.isPlain = true := by
  decide

theorem lower_of_level {level : String} (known : level.toLower ∈ levels) :
    Text.lower level = level.toLower :=
  (Text.lower_eq_iff (plain_of_level _ known) level).mpr rfl

theorem isLevel_iff {level : String} : isLevel level = true ↔ level.toLower ∈ levels := by
  rw [isLevel, List.contains_iff_mem]
  constructor
  · intro listed
    exact (Text.lower_eq_iff (plain_of_level _ listed) level).mp rfl ▸ listed
  · intro known
    exact (lower_of_level known).symm ▸ known

theorem finds_checkLevel {f : Fault} {level : String} (told : f.error = .invalidLevel level) :
    Finds Fault.Before Fault.error (fun g => g = f ∧ level.toLower ∉ levels)
      (checkLevel level) := by
  unfold checkLevel
  split
  · rename_i known
    exact .of_ok fun g ⟨_, unknown⟩ => unknown (isLevel_iff.mp known)
  · rename_i unknown
    rw [← told]
    exact .of_first Fault.error f ⟨rfl, mt isLevel_iff.mpr unknown⟩ fun g found => Or.inl found.1

theorem finds_targets (c : LoggingConfig) : Finds Fault.Before Fault.error
    (fun f => ∃ t ∈ c.targets.toList, f = .targetLevel t.1 t.2 ∧ t.2.toLower ∉ levels)
    (c.targets.toList.forM fun t => checkLevel t.2) := by
  refine .forM (fun t _ => finds_checkLevel rfl) ?_
  refine Std.ExtTreeMap.ordered_keys_toList.imp ?_
  rintro t t' before _ _ ⟨rfl, -⟩ ⟨rfl, -⟩
  exact compareOfLessAndEq_eq_lt.mp before

theorem finds_file (file : Option FileConfig) : Finds Fault.Before Fault.error
    (fun f => f = .blankFile ∧ ∃ f, file = some f ∧ Text.Blank f.stem)
    (match file with
    | none => .ok ()
    | some file =>
      if Text.isBlankText file.stem then .error (.invalidFile "file prefix must not be empty")
      else .ok ()) := by
  cases file with
  | none => exact .of_ok fun f ⟨_, _, found, _⟩ => nomatch found
  | some file =>
    dsimp only
    split
    · rename_i blank
      exact .of_first Fault.error .blankFile ⟨rfl, file, rfl, Text.isBlankText_iff.mp blank⟩
        fun g found => Or.inl found.1
    · rename_i named
      refine .of_ok ?_
      rintro f ⟨-, file', same, blank⟩
      cases same
      exact named (Text.isBlankText_iff.mpr blank)

theorem validate_eq (c : LoggingConfig) : c.validate = (do
    checkLevel c.level
    c.targets.toList.forM fun t => checkLevel t.2
    match c.file with
    | none => .ok ()
    | some file =>
      if Text.isBlankText file.stem then .error (.invalidFile "file prefix must not be empty")
      else .ok ()) := by
  rw [← forIn_eq_forM]
  rfl

theorem finds_validate (c : LoggingConfig) :
    Finds Fault.Before Fault.error c.HasFault c.validate := by
  rw [validate_eq]
  refine ((finds_checkLevel (f := .level c.level) rfl).bind
    ((finds_targets c).bind (finds_file c.file) ?_) ?_).congr ?_
  · rintro _ _ ⟨t, -, rfl, -⟩ ⟨rfl, -⟩
    trivial
  · rintro _ g ⟨rfl, -⟩ (⟨t, -, rfl, -⟩ | ⟨rfl, -⟩) <;> trivial
  · intro f
    cases f with
    | level name =>
      simp only [HasFault, Fault.level.injEq, reduceCtorEq, false_and, and_false, exists_false,
        or_false]
      exact and_congr_right fun same => by rw [same]
    | targetLevel t name => simp [HasFault, Std.ExtTreeMap.mem_toList_iff_getElem?_eq_some]
    | blankFile => simp [HasFault]

end LoggingConfig

/-! ### Settings -/

namespace Settings

inductive Fault
  | capacity
  /-- The id of the `n`th destination is blank. -/
  | blankId (n : Nat)
  /-- The `n`th destination has the id of one before it. -/
  | repeatedId (n : Nat) (id : String)
  | logging (f : LoggingConfig.Fault)

/-- The size of the inboxes comes first, then the destinations in the order of the list, and the
logging last. That an id is blank comes before that it is repeated. -/
def Fault.Before : Fault → Fault → Prop
  | .capacity, .capacity => False
  | .capacity, _ => True
  | _, .capacity => False
  | .blankId m, .blankId n => m < n
  | .blankId m, .repeatedId n _ => m ≤ n
  | .repeatedId m _, .blankId n => m < n
  | .repeatedId m _, .repeatedId n _ => m < n
  | .logging f, .logging g => f.Before g
  | .logging _, _ => False
  | _, .logging _ => True

def Fault.error : Fault → SettingsError
  | capacity => .invalid "broker.channel_capacity must be greater than zero"
  | blankId _ => .invalid "destination id must not be empty"
  | repeatedId _ id => .invalid ("destination '" ++ id ++ "' is declared twice")
  | logging f => .invalid f.error.message

def ids (s : Settings) : List String :=
  s.destinations.map (·.id)

def HasFault (s : Settings) : Fault → Prop
  | .capacity => s.channelCapacity = 0
  | .blankId n => ∃ id, s.ids[n]? = some id ∧ Text.Blank id
  | .repeatedId n id => s.ids[n]? = some id ∧ ∃ m < n, s.ids[m]? = some id
  | .logging f => s.logging.HasFault f

/-- The settings can be used. -/
structure Acceptable (s : Settings) : Prop where
  capacity : s.channelCapacity ≠ 0
  named (id : String) (declared : id ∈ s.ids) : ¬ Text.Blank id
  distinct : s.ids.Nodup
  level : s.logging.level.toLower ∈ LoggingConfig.levels
  targetLevels (target level : String) (set : s.logging.targets[target]? = some level) :
    level.toLower ∈ LoggingConfig.levels
  file (file : FileConfig) (configured : s.logging.file = some file) : ¬ Text.Blank file.stem

theorem Fault.Before.asymm {f g : Fault} (first : f.Before g) : ¬ g.Before f := by
  cases f <;> cases g
  case logging.logging => exact LoggingConfig.Fault.Before.asymm first
  all_goals
    simp only [Fault.Before, not_false_eq_true] at first ⊢
    try omega

/-- A fault of the destinations from the `n`th one on. -/
def HasIdFault (ids : List String) (n : Nat) : Fault → Prop
  | .blankId k => n ≤ k ∧ ∃ id, ids[k]? = some id ∧ Text.Blank id
  | .repeatedId k id => n ≤ k ∧ ids[k]? = some id ∧ ∃ m < k, ids[m]? = some id
  | _ => False

section Ids

variable {ids : List String} {n : Nat} {id : String} {f : Fault}

theorem before_of_blank (fault : HasIdFault ids n f) :
    f = .blankId n ∨ (Fault.blankId n).Before f := by
  cases f with
  | blankId k =>
    rcases Nat.eq_or_lt_of_le fault.1 with rfl | later
    · exact Or.inl rfl
    · exact Or.inr later
  | repeatedId k id => exact Or.inr fault.1
  | _ => cases fault

theorem before_of_repeated (here : ids[n]? = some id) (named : ¬ Text.Blank id)
    (fault : HasIdFault ids n f) :
    f = .repeatedId n id ∨ (Fault.repeatedId n id).Before f := by
  cases f with
  | blankId k =>
    obtain ⟨late, id', there, blank⟩ := fault
    rcases Nat.eq_or_lt_of_le late with rfl | later
    · cases here.symm.trans there
      exact absurd blank named
    · exact Or.inr later
  | repeatedId k id' =>
    obtain ⟨late, there, -⟩ := fault
    rcases Nat.eq_or_lt_of_le late with rfl | later
    · cases here.symm.trans there
      exact Or.inl rfl
    · exact Or.inr later
  | _ => cases fault

/-- A destination without a fault is passed over. -/
theorem hasIdFault_succ_iff (here : ids[n]? = some id) (named : ¬ Text.Blank id)
    (new : ∀ m < n, ids[m]? ≠ some id) : HasIdFault ids (n + 1) f ↔ HasIdFault ids n f := by
  cases f with
  | blankId k =>
    refine and_congr_left ?_
    rintro ⟨id', there, blank⟩
    refine ⟨Nat.le_of_succ_le, fun late => Nat.lt_of_le_of_ne late ?_⟩
    rintro rfl
    cases here.symm.trans there
    exact named blank
  | repeatedId k id' =>
    refine and_congr_left ?_
    rintro ⟨there, m, early, before⟩
    refine ⟨Nat.le_of_succ_le, fun late => Nat.lt_of_le_of_ne late ?_⟩
    rintro rfl
    cases here.symm.trans there
    exact new m early before
  | _ => exact Iff.rfl

end Ids

theorem finds_checkIds (ds : List DestinationConfig) : ∀ seen front : List String,
    (∀ id, id ∈ seen ↔ id ∈ front) → Finds Fault.Before Fault.error
      (HasIdFault (front ++ ds.map (·.id)) front.length) (checkIds seen ds) := by
  -- the ids in `front` are those already passed, which `seen` holds in the opposite order
  induction ds with
  | nil =>
    intro seen front same
    have nobody {k : Nat} {id : String} (late : front.length ≤ k) : front[k]? ≠ some id := by
      rw [List.getElem?_eq_none late]
      exact nofun
    rw [List.map_nil, List.append_nil]
    refine .of_ok ?_
    intro f fault
    cases f with
    | blankId k =>
      obtain ⟨late, id, there, -⟩ := fault
      exact nobody late there
    | repeatedId k id => exact nobody fault.1 fault.2.1
    | _ => exact fault
  | cons d rest ih =>
    intro seen front same
    have here : (front ++ (d :: rest).map (·.id))[front.length]? = some d.id := by simp
    have earlier {m : Nat} (early : m < front.length) :
        (front ++ (d :: rest).map (·.id))[m]? = front[m]? := List.getElem?_append_left early
    rw [checkIds]
    split
    · rename_i blank
      exact .of_first Fault.error (.blankId front.length)
        ⟨Nat.le_refl _, d.id, here, Text.isBlankText_iff.mp blank⟩ fun g => before_of_blank
    · rename_i unblank
      have named : ¬ Text.Blank d.id := mt Text.isBlankText_iff.mpr unblank
      split
      · rename_i repeated
        obtain ⟨m, early, there⟩ := List.mem_iff_getElem.mp
          ((same d.id).mp (List.contains_iff_mem.mp repeated))
        refine .of_first Fault.error (.repeatedId front.length d.id)
          ⟨Nat.le_refl _, here, m, early, ?_⟩ fun g => before_of_repeated here named
        rw [earlier early, List.getElem?_eq_getElem early, there]
      · rename_i unseen
        have others := ih (d.id :: seen) (front ++ [d.id]) (by simp [same, or_comm])
        rw [List.append_assoc, List.length_append] at others
        refine others.congr fun f => hasIdFault_succ_iff here named ?_
        intro m early there
        rw [earlier early] at there
        exact unseen (List.contains_iff_mem.mpr ((same d.id).mpr (List.mem_of_getElem? there)))

theorem validate_eq (s : Settings) : s.validate =
    ((if s.channelCapacity = 0 then .error Fault.capacity.error else .ok ()) >>= fun _ =>
      checkIds [] s.destinations >>= fun _ =>
        s.logging.validate.mapError fun e => .invalid e.message) := by
  unfold validate
  by_cases empty : s.channelCapacity = 0
  · simp only [empty, if_true]
    rfl
  · simp only [empty, if_false]
    rcases checkIds [] s.destinations with e | ⟨⟨⟩⟩
    · rfl
    · cases s.logging.validate <;> rfl

theorem finds_validate (s : Settings) : Finds Fault.Before Fault.error s.HasFault s.validate := by
  have capacity : Finds Fault.Before Fault.error (fun f => f = .capacity ∧ s.channelCapacity = 0)
      (if s.channelCapacity = 0 then .error Fault.capacity.error else .ok ()) := by
    split
    · rename_i empty
      exact .of_first Fault.error .capacity ⟨rfl, empty⟩ fun g found => Or.inl found.1
    · rename_i room
      exact .of_ok fun f fault => room fault.2
  have ids := finds_checkIds s.destinations [] [] fun id => Iff.rfl
  have logging : Finds Fault.Before Fault.error
      (fun f => ∃ fault, s.logging.HasFault fault ∧ .logging fault = f)
      (s.logging.validate.mapError fun e => .invalid e.message) :=
    s.logging.finds_validate.mapError (fun _ _ => id) fun _ => rfl
  rw [validate_eq]
  refine (capacity.bind (ids.bind logging ?_) ?_).congr ?_
  · rintro f _ fault ⟨g, -, rfl⟩
    cases f <;> trivial
  · rintro _ g ⟨rfl, -⟩ (fault | ⟨g, -, rfl⟩)
    · cases g <;> trivial
    · trivial
  · intro f
    cases f <;> simp [HasFault, HasIdFault, Settings.ids]

theorem acceptable_iff (s : Settings) : s.Acceptable ↔ ∀ f, ¬ s.HasFault f := by
  constructor
  · intro sound f fault
    cases f with
    | capacity => exact sound.capacity fault
    | blankId n =>
      obtain ⟨id, declared, blank⟩ := fault
      exact sound.named id (List.mem_of_getElem? declared) blank
    | repeatedId n id =>
      obtain ⟨there, m, early, before⟩ := fault
      have within := (List.getElem?_eq_some_iff.mp there).1
      exact List.nodup_iff_getElem?_ne_getElem?.mp sound.distinct m n early within
        (before.trans there.symm)
    | logging f =>
      cases f with
      | level name =>
        obtain ⟨rfl, unknown⟩ := fault
        exact unknown sound.level
      | targetLevel target name => exact fault.2 (sound.targetLevels target name fault.1)
      | blankFile =>
        obtain ⟨file, configured, blank⟩ := fault
        exact sound.file file configured blank
  · intro sound
    refine ⟨sound .capacity, ?_, ?_, ?_, ?_, ?_⟩
    · intro id declared blank
      obtain ⟨n, there⟩ := List.mem_iff_getElem?.mp declared
      exact sound (.blankId n) ⟨id, there, blank⟩
    · rw [List.nodup_iff_getElem?_ne_getElem?]
      intro m n early within same
      have there := List.getElem?_eq_getElem within
      exact sound (.repeatedId n s.ids[n]) ⟨there, m, early, same.trans there⟩
    · by_contra unknown
      exact sound (.logging (.level s.logging.level)) ⟨rfl, unknown⟩
    · intro target level set
      by_contra unknown
      exact sound (.logging (.targetLevel target level)) ⟨set, unknown⟩
    · intro file configured blank
      exact sound (.logging .blankFile) ⟨file, configured, blank⟩

theorem validate_ok_iff (s : Settings) : s.validate = .ok () ↔ s.Acceptable :=
  s.finds_validate.ok_iff.trans s.acceptable_iff.symm

/-- Settings are accepted exactly if nothing is wrong with them, and of several faults it is the
first one that is told. -/
theorem validate_finds_first (s : Settings) :
    (s.validate = .ok () ↔ s.Acceptable) ∧
    ∀ e, s.validate = .error e ↔
      ∃ f, s.HasFault f ∧ (∀ g, s.HasFault g → g = f ∨ f.Before g) ∧ f.error = e := by
  refine ⟨?_, fun e => s.finds_validate.error_iff Fault.Before.asymm⟩
  rw [acceptable_iff]
  exact s.finds_validate.ok_iff

end Settings

end Switchboard
