import Switchboard.Settings.Path

/-!
# Setting values in configuration trees

Setting a member of a part changes nothing but that member, in the sense that what is no table has
no members: a list that stands in the way is lost (`AgreeBut.set_self`). Values that are set
elsewhere do the same to trees that agree but for the member (`AgreeBut.set`), and leave it as it is
(`Holds.set`).
-/

namespace Switchboard

/-- The paths part at a key, so neither leads into what the other one leads to. -/
def Path.Apart : Path → Path → Prop
  | .key a :: p, .key b :: q => a ≠ b ∨ Path.Apart p q
  | _, _ => False

instance Path.Apart.decidable : ∀ p q : Path, Decidable (p.Apart q)
  | .key a :: p, .key b :: q =>
    have := Path.Apart.decidable p q
    inferInstanceAs (Decidable (a ≠ b ∨ Path.Apart p q))
  | [], _ | .index _ :: _, _ | .key _ :: _, [] | .key _ :: _, .index _ :: _ => isFalse nofun

theorem Path.Apart.cases_field {part field : String} {path : Path}
    (apart : path.Apart [.key part, .key field]) : ∃ key rest, path = .key key :: rest ∧
      (part ≠ key ∨ ∃ key' rest', rest = .key key' :: rest' ∧ field ≠ key') := by
  match path, apart with
  | .key key :: rest, apart =>
    refine ⟨key, rest, rfl, ?_⟩
    rcases apart with differs | apart
    · exact Or.inl differs.symm
    · match rest, apart with
      | .key key' :: rest', apart =>
        rcases apart with differs | apart
        · exact Or.inr ⟨key', rest', rfl, differs.symm⟩
        · match rest', apart with
          | [], apart => exact apart.elim
          | .key _ :: _, apart => exact apart.elim
          | .index _ :: _, apart => exact apart.elim

theorem Path.ofText_eq_cons (s : String) : ∃ key rest, Path.ofText s = .key key :: rest := by
  unfold ofText
  cases read : ofText? s with
  | none => exact ⟨s, [], rfl⟩
  | some path =>
    obtain ⟨⟨key, cs⟩, -, read⟩ := Option.bind_eq_some_iff.mp read
    obtain ⟨rest, -, same⟩ := Option.bind_eq_some_iff.mp read
    cases same
    exact ⟨key, rest, rfl⟩

namespace ConfigTree

variable {v w : ConfigTree} {root root' : ConfigTree} {part field key : String} {path : Path}
  {members : Layer}

/-! ### Members -/

theorem lookup_cons (key other : String) (v : ConfigTree) (rest : Layer) :
    ((key, v) :: rest).lookup other = if other = key then some v else rest.lookup other := by
  rw [List.lookup_cons]
  by_cases same : other = key
  · rw [beq_iff_eq.mpr same, if_pos same]
  · rw [beq_eq_false_iff_ne.mpr same, if_neg same]

theorem lookup_put (key other : String) (v : ConfigTree) (members : Layer) :
    (put key v members).lookup other = if other = key then some v else members.lookup other := by
  induction members with
  | nil => exact lookup_cons key other v []
  | cons m rest ih =>
    obtain ⟨k, w⟩ := m
    rw [put]
    split
    · rename_i same
      subst same
      rw [lookup_cons, lookup_cons]
      split <;> rfl
    · rename_i differs
      rw [lookup_cons, lookup_cons, ih]
      by_cases same : other = key
      · subst same
        rw [if_pos rfl, if_neg (Ne.symm differs), if_pos rfl]
      · rw [if_neg same, if_neg same]

theorem lookup_put_self (key : String) (v : ConfigTree) (members : Layer) :
    (put key v members).lookup key = some v := by
  rw [lookup_put, if_pos rfl]

theorem lookup_put_other {key other : String} (differs : other ≠ key) (v : ConfigTree)
    (members : Layer) :
    (put key v members).lookup other = members.lookup other := by
  rw [lookup_put, if_neg differs]

theorem child_put (key other : String) (v : ConfigTree) (members : Layer) :
    child other (put key v members) = if other = key then v else child other members := by
  rw [child, lookup_put]
  split <;> rfl

/-! ### Trees that agree but for one member -/

/-- The values have the same members, `key` apart. What is no table has none. -/
def Agree (key : String) (v w : ConfigTree) : Prop :=
  ∀ other, other ≠ key → v.members.lookup other = w.members.lookup other

/-- The roots agree in all but the member `field` of `part`. -/
structure AgreeBut (part field : String) (root root' : ConfigTree) : Prop where
  parts : Agree part root root'
  fields : Agree field (child part root.members) (child part root'.members)

/-- Neither a list nor a table. -/
def isScalar : ConfigTree → Bool
  | list _ | table _ => false
  | _ => true

/-- A scalar takes the place of what it is laid over. -/
theorem set_of_isScalar (scalar : v.isScalar = true) (path : Path) (root : ConfigTree) :
    set path v root = alter (fun _ => v) path root := by
  have replaces (below : ConfigTree) : overlay v below = v := by
    cases v with
    | table members => cases scalar
    | _ => rfl
  rw [set, funext replaces]

theorem Agree.alter (agree : Agree key root root') (v : ConfigTree) (path : Path) :
    Agree key (alter (fun _ => v) path root) (alter (fun _ => v) path root') := by
  intro other differs
  match path with
  | [] => rfl
  | .index place :: rest => rfl
  | .key k :: rest =>
    change (put k _ root.members).lookup other = (put k _ root'.members).lookup other
    rw [lookup_put, lookup_put, agree other differs]
    split
    · rename_i here
      subst here
      rw [child, child, agree other differs]
    · rfl

namespace AgreeBut

theorem refl (part field : String) (root : ConfigTree) : AgreeBut part field root root :=
  ⟨fun _ _ => rfl, fun _ _ => rfl⟩

theorem symm (agree : AgreeBut part field root root') : AgreeBut part field root' root :=
  ⟨fun other differs => (agree.parts other differs).symm,
    fun other differs => (agree.fields other differs).symm⟩

theorem trans {root'' : ConfigTree} (agree : AgreeBut part field root root')
    (agree' : AgreeBut part field root' root'') : AgreeBut part field root root'' :=
  ⟨fun other differs => (agree.parts other differs).trans (agree'.parts other differs),
    fun other differs => (agree.fields other differs).trans (agree'.fields other differs)⟩

/-- The same value is set at the same place of both. -/
theorem set (agree : AgreeBut part field root root') (scalar : v.isScalar = true) (path : Path) :
    AgreeBut part field (ConfigTree.set path v root) (ConfigTree.set path v root') := by
  rw [set_of_isScalar scalar, set_of_isScalar scalar]
  refine ⟨agree.parts.alter v path, ?_⟩
  match path with
  | [] => exact fun _ _ => rfl
  | .index place :: rest => exact fun _ _ => rfl
  | .key k :: rest =>
    change Agree field (child part (put k _ root.members)) (child part (put k _ root'.members))
    rw [child_put, child_put]
    split
    · rename_i here
      subst here
      exact agree.fields.alter v rest
    · exact agree.fields

/-- A value is set in the member that may differ. -/
theorem set_self (scalar : v.isScalar = true) (part field : String) (root : ConfigTree) :
    AgreeBut part field (ConfigTree.set [.key part, .key field] v root) root := by
  rw [set_of_isScalar scalar]
  constructor
  · intro other differs
    exact lookup_put_other differs _ root.members
  · change Agree field (child part (put part _ root.members)) (child part root.members)
    rw [child_put, if_pos rfl]
    intro other differs
    exact lookup_put_other differs _ (child part root.members).members

/-- Layers that differ only in the value of the member lead from trees that agree to others. -/
theorem apply (named : Path.ofText key = [.key part, .key field])
    {layer : Layer} (scalars : ∀ m ∈ layer, m.2.isScalar = true) :
    ∀ {root root' : ConfigTree}, AgreeBut part field root root' →
      AgreeBut part field (ConfigTree.apply layer root)
        (ConfigTree.apply (layer.filter (·.1 ≠ key)) root') := by
  induction layer with
  | nil => exact id
  | cons m rest ih =>
    intro root root' agree
    obtain ⟨here, others⟩ := List.forall_mem_cons.mp scalars
    by_cases same : m.1 = key
    · rw [List.filter_cons_of_neg (by simpa using same)]
      refine ih others ?_
      change AgreeBut part field (ConfigTree.set (Path.ofText m.1) m.2 root) root'
      rw [same, named]
      exact (set_self here part field root).trans agree
    · rw [List.filter_cons_of_pos (by simpa using same)]
      exact ih others (agree.set here _)

end AgreeBut

/-! ### A value that stays where it was set -/

/-- The part is a table, and `v` is its member `field`. -/
def Holds (part field : String) (v root : ConfigTree) : Prop :=
  ∃ members, root.members.lookup part = some (table members) ∧ members.lookup field = some v

theorem holds_set (scalar : v.isScalar = true) (part field : String) (root : ConfigTree) :
    Holds part field v (set [.key part, .key field] v root) := by
  rw [set_of_isScalar scalar]
  exact ⟨_, lookup_put_self part _ root.members, lookup_put_self field v _⟩

theorem Holds.set (holds : Holds part field v root)
    (apart : path.Apart [.key part, .key field]) (w : ConfigTree) :
    Holds part field v (ConfigTree.set path w root) := by
  obtain ⟨members, there, member⟩ := holds
  obtain ⟨key, rest, rfl, parted⟩ := apart.cases_field
  by_cases here : part = key
  · subst here
    obtain ⟨key', rest', rfl, differs⟩ := parted.resolve_left fun differs => differs rfl
    have below : child part root.members = table members := by
      rw [child, there]
      rfl
    refine ⟨_, lookup_put_self part _ root.members, ?_⟩
    rw [below]
    exact (lookup_put_other differs _ members).trans member
  · exact ⟨members, (lookup_put_other here _ root.members).trans there, member⟩

theorem Holds.apply {layer : Layer}
    (apart : ∀ m ∈ layer, (Path.ofText m.1).Apart [.key part, .key field]) :
    ∀ {root : ConfigTree}, Holds part field v root →
      Holds part field v (ConfigTree.apply layer root) := by
  induction layer with
  | nil => exact id
  | cons m rest ih =>
    intro root holds
    obtain ⟨here, others⟩ := List.forall_mem_cons.mp apart
    exact ih others (holds.set here m.2)

end ConfigTree

end Switchboard
