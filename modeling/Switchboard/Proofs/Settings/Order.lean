import Mathlib.Data.List.Permutation
import Switchboard.Proofs.Attempt
import Switchboard.Proofs.Settings.Environment
import Switchboard.Settings.Load

/-!
# Layers laid in any order

The entries of a layer come in any order, so what a variable sets stays only if no other entry
leads to the same place. Settings that can be loaded in every order have no such entry, items of
lists apart: laid last, it would leave something that cannot be read (`apart_of_succeeds`). So with
the variable each order leads to what some order without it leads to, but for the place that the
variable sets (`makes_of_overrides`).
-/

namespace Switchboard

open ConfigTree

/-! ### Paths -/

namespace Path

/-- The path leads into a list that is the part. -/
def isInList (part : String) : Path → Bool
  | .key name :: .index _ :: _ => name == part
  | _ => false

theorem readName_eq {cs rest : List Char} {name : String} (read : readName cs = some (name, rest)) :
    cs = name.toList ++ rest := by
  unfold readName at read
  split at read
  · cases read
  · cases read
    rw [String.toList_ofList, List.takeWhile_append_dropWhile]

/-- The steps end, or go on with a name after a point or with a place. -/
theorem readSteps_cases {fuel : Nat} {cs : List Char} {path : Path}
    (read : readSteps fuel cs = some path) :
    (cs = [] ∧ path = []) ∨
      (∃ name rest fuel' steps, cs = '.' :: (name.toList ++ rest) ∧
        readSteps fuel' rest = some steps ∧ path = .key name :: steps) ∨
      ∃ place steps, path = .index place :: steps := by
  unfold readSteps at read
  split at read
  · cases read
    exact Or.inl ⟨rfl, rfl⟩
  · cases read
  · obtain ⟨⟨name, rest⟩, named, read⟩ := Option.bind_eq_some_iff.mp read
    obtain ⟨steps, stepped, read⟩ := Option.bind_eq_some_iff.mp read
    cases read
    exact Or.inr (Or.inl ⟨name, rest, _, steps, by rw [readName_eq named], stepped, rfl⟩)
  · obtain ⟨_, -, read⟩ := Option.bind_eq_some_iff.mp read
    obtain ⟨_, -, read⟩ := Option.bind_eq_some_iff.mp read
    cases read
    exact Or.inr (Or.inr ⟨_, _, rfl⟩)
  · cases read

theorem readSteps_eq_field {fuel : Nat} {cs : List Char} {field : String}
    (read : readSteps fuel cs = some [.key field]) : cs = '.' :: field.toList := by
  obtain ⟨-, same⟩ | ⟨name, rest, fuel', steps, rfl, others, same⟩ | ⟨place, steps, same⟩ :=
    readSteps_cases read
  · cases same
  · cases same
    obtain ⟨rfl, -⟩ | ⟨_, _, _, _, -, -, same⟩ | ⟨_, _, same⟩ := readSteps_cases others
    · rw [List.append_nil]
    · cases same
    · cases same
  · cases same

/-- Only one name stands for the member of a part. -/
theorem eq_of_ofText {s part field : String} (leads : ofText s = [.key part, .key field]) :
    s.toList = part.toList ++ '.' :: field.toList := by
  unfold ofText at leads
  cases read : ofText? s with
  | none =>
    rw [read] at leads
    cases leads
  | some path =>
    rw [read] at leads
    cases leads
    obtain ⟨⟨name, rest⟩, named, read⟩ := Option.bind_eq_some_iff.mp read
    obtain ⟨steps, stepped, read⟩ := Option.bind_eq_some_iff.mp read
    cases read
    rw [readName_eq named, readSteps_eq_field stepped]

theorem ofText_inj {s s' part field : String} (leads : ofText s = [.key part, .key field])
    (leads' : ofText s' = [.key part, .key field]) : s = s' :=
  String.toList_inj.mp ((eq_of_ofText leads).trans (eq_of_ofText leads').symm)

/-- The path leads to a part or into its member, but not to the member. -/
def Spoils (part field : String) (path : Path) : Prop :=
  path = [.key part] ∨ ∃ step rest, path = .key part :: .key field :: step :: rest

theorem spoils_of_not_apart {part field s : String}
    (meets : ¬ (ofText s).Apart [.key part, .key field])
    (unlisted : (ofText s).isInList part = false)
    (differs : ofText s ≠ [.key part, .key field]) : (ofText s).Spoils part field := by
  obtain ⟨key, rest, path⟩ := ofText_eq_cons s
  rw [path] at meets unlisted differs ⊢
  by_cases same : key = part
  · subst same
    match rest with
    | [] => exact Or.inl rfl
    | .index place :: rest => simp [isInList] at unlisted
    | .key key' :: rest =>
      by_cases same' : key' = field
      · subst same'
        match rest with
        | [] => exact absurd rfl differs
        | step :: rest => exact Or.inr ⟨step, rest, rfl⟩
      · exact absurd (Or.inr (Or.inl same')) meets
  · exact absurd (Or.inl same) meets

end Path

namespace ConfigTree

variable {part field : String} {path : Path} {v : ConfigTree}

/-- The part is a scalar, or a table whose member is none. -/
def Spoilt (part field : String) (root : ConfigTree) : Prop :=
  ∃ v, root.members.lookup part = some v ∧ (v.isScalar = true ∨
    ∃ members w, v = table members ∧ members.lookup field = some w ∧ w.isScalar = false)

theorem spoilt_set (spoils : path.Spoils part field) (scalar : v.isScalar = true)
    (root : ConfigTree) : Spoilt part field (set path v root) := by
  rw [set_of_isScalar scalar]
  rcases spoils with rfl | ⟨step, rest, rfl⟩
  · exact ⟨v, lookup_put_self part v root.members, Or.inl scalar⟩
  · refine ⟨_, lookup_put_self part _ root.members,
      Or.inr ⟨_, _, rfl, lookup_put_self field _ _, ?_⟩⟩
    cases step <;> rfl

theorem apply_append (layer layer' : Layer) (root : ConfigTree) :
    apply (layer ++ layer') root = apply layer' (apply layer root) :=
  List.foldl_append

theorem apply_table (layer : Layer) :
    ∀ members, ∃ members', apply layer (table members) = table members' := by
  induction layer with
  | nil => exact fun members => ⟨members, rfl⟩
  | cons m rest ih =>
    intro members
    obtain ⟨key, steps, path⟩ := Path.ofText_eq_cons m.1
    change ∃ members', apply rest (set (Path.ofText m.1) m.2 (table members)) = table members'
    rw [path]
    exact ih _

end ConfigTree

/-! ### Variables -/

namespace Environment

variable {setting text key : String} {env env' : Environment}

/-- In `env'`, what `setting` names is set to `text`, and everything else to what it is set to in
`env`. -/
def Overrides (setting text : String) (env env' : Environment) : Prop :=
  ∃ key ∈ key? setting, env'.text? key = some text ∧
    ∀ other ≠ key, env'.text? other = env.text? other

/-- A variable names an item of the part by its place, as if the part were a list. -/
def NamesPlace (part : String) (env : Environment) : Prop :=
  ∃ v ∈ env, ∃ key ∈ key? v.1, (Path.ofText key).isInList part

instance (part : String) (env : Environment) : Decidable (env.NamesPlace part) :=
  inferInstanceAs (Decidable (∃ v ∈ env, _))

/-- A variable takes the place of those that set the same, anywhere among the others. -/
theorem overrides_of_split {name : String} (front back : Environment) (key : String)
    (named : key? name = some key) (same : key? setting = some key)
    (split : front ++ back = env.filter fun v => key? v.1 ≠ some key) :
    Overrides setting text env (front ++ (name, text) :: back) := by
  have foreign {v : String × String} (there : v ∈ front ++ back) : key? v.1 ≠ some key := by
    rw [split] at there
    simpa using (List.mem_filter.mp there).2
  refine ⟨key, same, ?_, ?_⟩
  · have later : back.reverse.find? (fun v => key? v.1 = some key) = none := by
      simpa using fun name text there => foreign (List.mem_append_right front there)
    simp [text?, later, named]
  · intro other differs
    have merged : (front ++ (name, text) :: back).text? other = (front ++ back).text? other := by
      simp [text?, named, Ne.symm differs]
    rw [merged, split, text?, text?, ← List.filter_reverse, List.find?_filter]
    congr 2
    funext v
    by_cases here : key? v.1 = some other <;> simp [here, differs]

theorem Overrides.mem_layer (overrides : Overrides setting text env env')
    (named : key? setting = some key) : (key, value text) ∈ env'.layer := by
  obtain ⟨key', named', set, -⟩ := overrides
  cases named.symm.trans named'
  exact mem_layer_iff.mpr ⟨text, set, rfl⟩

theorem Overrides.mem_layer_of_ne (overrides : Overrides setting text env env')
    (named : key? setting = some key) {m : String × ConfigTree} (differs : m.1 ≠ key) :
    m ∈ env'.layer ↔ m ∈ env.layer := by
  obtain ⟨other, v⟩ := m
  obtain ⟨key', named', -, others⟩ := overrides
  cases named.symm.trans named'
  rw [mem_layer_iff, mem_layer_iff, others other differs]

/-- The layers differ in one entry. -/
theorem Overrides.perm (overrides : Overrides setting text env env')
    (named : key? setting = some key) :
    (env'.layer.filter (·.1 ≠ key)).Perm (env.layer.filter (·.1 ≠ key)) := by
  have distinct (env : Environment) : (env.layer.filter (·.1 ≠ key)).Nodup :=
    (List.Nodup.of_map _ (nodup_layer env)).filter _
  refine (List.perm_ext_iff_of_nodup (distinct env') (distinct env)).mpr fun m => ?_
  rw [List.mem_filter, List.mem_filter]
  refine and_congr_left fun differs => overrides.mem_layer_of_ne named (by simpa using differs)

end Environment

namespace Settings

/-! ### Orders -/

variable {layer : Layer} {layers : List Layer} {root root' : ConfigTree}

theorem Overlaid.concat (overlaid : Overlaid layers root root') {entries : Layer}
    (order : entries.Perm layer) : Overlaid (layers ++ [layer]) root (apply entries root') := by
  induction overlaid with
  | done root => exact .next order (.done _)
  | next order' others ih => exact .next order' ih

theorem overlaid_concat_iff : Overlaid (layers ++ [layer]) root root' ↔
    ∃ mid, Overlaid layers root mid ∧
      ∃ entries, entries.Perm layer ∧ apply entries mid = root' := by
  constructor
  · induction layers generalizing root with
    | nil =>
      rintro (_ | ⟨order, ⟨⟩⟩)
      exact ⟨root, .done root, _, order, rfl⟩
    | cons first layers ih =>
      rintro (_ | ⟨order, others⟩)
      obtain ⟨mid, overlaid, last⟩ := ih others
      exact ⟨mid, .next order overlaid, last⟩
  · rintro ⟨mid, overlaid, entries, order, rfl⟩
    exact overlaid.concat order

theorem overlaid_foldl (layers : List Layer) : ∀ root,
    Overlaid layers root (layers.foldl (fun root layer => apply layer root) root) := by
  induction layers with
  | nil => exact .done
  | cons layer layers ih => exact fun root => .next (.refl layer) (ih _)

theorem Overlaid.table (overlaid : Overlaid layers root root') :
    (∃ members, root = .table members) → ∃ members, root' = .table members := by
  induction overlaid with
  | done root => exact id
  | next order others ih =>
    rintro ⟨members, rfl⟩
    exact ih (apply_table _ members)

/-- The trees that layers make up. -/
def overlays : List Layer → ConfigTree → List ConfigTree
  | [], root => [root]
  | layer :: layers, root =>
    layer.permutations'.flatMap fun entries => overlays layers (apply entries root)

theorem overlaid_iff_mem : Overlaid layers root root' ↔ root' ∈ overlays layers root := by
  constructor
  · intro overlaid
    induction overlaid with
    | done root => exact List.mem_singleton_self root
    | next order others ih =>
      exact List.mem_flatMap.mpr ⟨_, List.mem_permutations'.mpr order, ih⟩
  · induction layers generalizing root with
    | nil =>
      intro there
      obtain rfl := List.mem_singleton.mp there
      exact .done root'
    | cons layer layers ih =>
      intro there
      obtain ⟨entries, order, there⟩ := List.mem_flatMap.mp there
      exact .next (List.mem_permutations'.mp order) (ih there)

/-! ### Loading -/

variable {read : FileReader} {files : Files} {name : Option String} {env env' : Environment}
  {setting text key part field : String}

/-- What is loaded comes of one of the orders. So whatever holds of all of them holds of it. -/
theorem mayLoad_loadWith (read : FileReader) (files : Files) (name : Option String)
    (env : Environment) : MayLoad read files name env (loadWith read files name env) := by
  unfold loadWith
  cases below : under? read files name with
  | none => exact Or.inl ⟨below, rfl⟩
  | some layers => exact Or.inr ⟨_, ⟨layers, below, overlaid_foldl _ _⟩, rfl⟩

/-- The trees that the file and the environment make up. -/
def trees (read : FileReader) (files : Files) (name : Option String) (env : Environment) :
    List ConfigTree :=
  match under? read files name with
  | none => []
  | some layers => overlays (layers ++ [env.layer]) (.table [])

theorem makes_iff_mem :
    Makes read files name env root ↔ root ∈ trees read files name env := by
  unfold Makes trees
  cases under? read files name with
  | none => simp
  | some layers => simp [overlaid_iff_mem]

/-- What loading gives, order by order. -/
def outcomes (read : FileReader) (files : Files) (name : Option String) (env : Environment) :
    List (Except SettingsError Settings) :=
  match under? read files name with
  | none => [.error .load]
  | some _ => (trees read files name env).map ofTree

theorem mayLoad_iff_mem {outcome : Except SettingsError Settings} :
    MayLoad read files name env outcome ↔ outcome ∈ outcomes read files name env := by
  unfold MayLoad outcomes
  simp only [makes_iff_mem]
  cases below : under? read files name with
  | none => simp [trees, below]
  | some layers => simp

theorem mayLoad_ok_iff {s : Settings} : MayLoad read files name env (.ok s) ↔
    ∃ outcome ∈ outcomes read files name env, outcome.toOption = some s := by
  rw [mayLoad_iff_mem]
  constructor
  · exact fun there => ⟨.ok s, there, rfl⟩
  · rintro ⟨outcome, there, same⟩
    exact ok_of_toOption same ▸ there

theorem makes_iff : Makes read files name env root ↔ ∃ layers ∈ under? read files name,
    ∃ mid, Overlaid layers (.table []) mid ∧
      ∃ entries, entries.Perm env.layer ∧ apply entries mid = root :=
  exists_congr fun _ => and_congr_right fun _ => overlaid_concat_iff

theorem Makes.table (makes : Makes read files name env root) :
    ∃ members, root = .table members := by
  obtain ⟨layers, -, overlaid⟩ := makes
  exact overlaid.table ⟨[], rfl⟩

section Succeeds

variable (succeeds : ∀ outcome, MayLoad read files name env outcome → outcome.isOk = true)
include succeeds

theorem exists_under_of_succeeds : ∃ layers, under? read files name = some layers := by
  cases below : under? read files name with
  | none => cases succeeds _ (Or.inl ⟨below, rfl⟩)
  | some layers => exact ⟨layers, rfl⟩

theorem exists_ok_of_succeeds (makes : Makes read files name env root) :
    ∃ s, ofTree root = .ok s := by
  have good := succeeds _ (Or.inr ⟨root, makes, rfl⟩)
  cases outcome : ofTree root with
  | error e =>
    rw [outcome] at good
    cases good
  | ok s => exact ⟨s, rfl⟩

/-- No other variable leads to the place, into it or to what it is in: laid last, it would spoil
what is loaded. -/
theorem apart_of_succeeds
    (fails : ∀ members, Spoilt part field (.table members) → ∀ s, ofTree (.table members) ≠ .ok s)
    (unplaced : ¬ env.NamesPlace part) (leads : Path.ofText key = [.key part, .key field]) :
    ∀ m ∈ env.layer, m.1 ≠ key → (Path.ofText m.1).Apart [.key part, .key field] := by
  intro m there differs
  by_contra meets
  obtain ⟨text, set, -⟩ := Environment.mem_layer_iff.mp there
  obtain ⟨v, inside, named, -⟩ := Environment.exists_of_text? set
  have unlisted : (Path.ofText m.1).isInList part = false := by
    rw [← Bool.not_eq_true]
    exact fun listed => unplaced ⟨v, inside, m.1, named, listed⟩
  have spoils := Path.spoils_of_not_apart meets unlisted fun same =>
    differs (Path.ofText_inj same leads)
  obtain ⟨layers, below⟩ := exists_under_of_succeeds succeeds
  obtain ⟨front, back, split⟩ := List.append_of_mem there
  have order : (front ++ back ++ [m]).Perm env.layer := by
    rw [split]
    exact (List.perm_append_singleton m _).trans List.perm_middle.symm
  have makes := makes_iff.mpr ⟨layers, below, _, overlaid_foldl layers _, _, order, rfl⟩
  obtain ⟨s, loaded⟩ := exists_ok_of_succeeds succeeds makes
  have spoilt := spoilt_set spoils (Environment.isScalar_of_mem_layer there)
    (apply (front ++ back) (layers.foldl (fun root layer => apply layer root) (.table [])))
  obtain ⟨members, same⟩ := makes.table
  rw [same] at loaded
  rw [apply_append] at same
  exact fails members (same ▸ spoilt) s loaded

end Succeeds

/-- Each order of the entries with the variable has one without it that leads to the same tree but
for what the variable sets. -/
theorem makes_of_overrides (overrides : env.Overrides setting text env')
    (named : Environment.key? setting = some key)
    (leads : Path.ofText key = [.key part, .key field])
    (apart : ∀ m ∈ env.layer, m.1 ≠ key → (Path.ofText m.1).Apart [.key part, .key field])
    (makes : Makes read files name env' root') : ∃ root, Makes read files name env root ∧
      AgreeBut part field root root' ∧ Holds part field (Environment.value text) root' := by
  obtain ⟨layers, below, mid, overlaid, entries, order, rfl⟩ := makes_iff.mp makes
  have scalars : ∀ m ∈ entries, m.2.isScalar = true := fun m there =>
    Environment.isScalar_of_mem_layer (order.subset there)
  -- the other entries keep their order, and what set the same comes after them
  let entries' := entries.filter (·.1 ≠ key) ++ env.layer.filter fun m => !decide (m.1 ≠ key)
  have order' : entries'.Perm env.layer :=
    (((order.filter _).trans (overrides.perm named)).append_right _).trans
      (List.filter_append_perm _ _)
  refine ⟨apply entries' mid, makes_iff.mpr ⟨layers, below, mid, overlaid, _, order', rfl⟩, ?_, ?_⟩
  · have same : entries'.filter (·.1 ≠ key) = entries.filter (·.1 ≠ key) := by
      simp [entries', List.filter_append, List.filter_filter]
    have new := AgreeBut.apply leads scalars (AgreeBut.refl part field mid)
    have old := AgreeBut.apply leads
      (fun m there => Environment.isScalar_of_mem_layer (order'.subset there))
      (AgreeBut.refl part field mid)
    rw [same] at old
    exact old.trans new.symm
  · obtain ⟨front, back, rfl⟩ := List.append_of_mem (order.mem_iff.mpr (overrides.mem_layer named))
    rw [apply_append]
    change Holds part field _ (apply back (set (Path.ofText key) _ (apply front mid)))
    rw [leads]
    refine Holds.apply ?_ (holds_set (Environment.isScalar_value text) part field _)
    -- the key comes only once, so what is laid later is laid elsewhere
    intro m later
    have distinct := ((order.map Prod.fst).nodup_iff).mpr (Environment.nodup_layer env')
    have differs : m.1 ≠ key := by
      rw [List.map_append, List.map_cons] at distinct
      have absent := (List.nodup_cons.mp (List.nodup_append.mp distinct).2.1).1
      exact fun same => absent (List.mem_map.mpr ⟨m, later, same⟩)
    refine apart m ((overrides.mem_layer_of_ne named differs).mp (order.subset ?_)) differs
    exact List.mem_append_right front (List.mem_cons_of_mem _ later)

end Settings

end Switchboard
