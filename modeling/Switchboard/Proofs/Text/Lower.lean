import Switchboard.Text.Lower

/-!
# Lower case and the Latin alphabet

A text whose lower case is a word of the letters a to z is itself written in the letters of either
case (`lower_eq_iff`). The one letter of another script that turns into one of these is the kelvin
sign, so the words must do without k.
-/

namespace Switchboard.Text

/-- A letter from a to z, k excepted. -/
def isPlain (c : Char) : Bool :=
  c.isLower && c != 'k'

/-- No run of the case table beyond ASCII leads to a plain letter. -/
theorem lowerRuns_foreign : ∀ run ∈ lowerRuns,
    run.2.1 < 128 ∨ 122 < run.1 + run.2.2.2 ∨ (run.1 = run.2.1 ∧ run.1 + run.2.2.2 = 107) := by
  decide +kernel

theorem shifted_foreign {n m : Nat} (foreign : 128 ≤ n) (found : shifted n lowerRuns = some m) :
    122 < m ∨ m = 107 := by
  have table := lowerRuns_foreign
  generalize lowerRuns = runs at found table
  induction runs with
  | nil => cases found
  | cons run rest ih =>
    obtain ⟨first, last, step, shift⟩ := run
    obtain ⟨here, others⟩ := List.forall_mem_cons.mp table
    rw [shifted] at found
    split at found
    · rename_i within
      simp only [Bool.and_eq_true, decide_eq_true_eq] at within
      cases found
      dsimp only at here
      omega
    · exact ih found others

theorem isLower_iff {c : Char} : c.isLower = true ↔ 97 ≤ c.toNat ∧ c.toNat ≤ 122 := by
  change (decide (97 ≤ c.toNat) && decide (c.toNat ≤ 122)) = true ↔ _
  rw [Bool.and_eq_true, decide_eq_true_eq, decide_eq_true_eq]

theorem isPlain_iff {c : Char} :
    isPlain c = true ↔ (97 ≤ c.toNat ∧ c.toNat ≤ 122) ∧ c.toNat ≠ 107 := by
  rw [isPlain, Bool.and_eq_true, isLower_iff, bne_iff_ne, ne_eq, ← Char.toNat_inj]
  rfl

theorem toList_toLower (s : String) : s.toLower.toList = s.toList.map Char.toLower :=
  String.toList_map

/-- Only the letters from A to Z have another lower case in ASCII. -/
theorem toLower_of_not_upper {c : Char} (other : c.toNat < 65 ∨ 90 < c.toNat) : c.toLower = c := by
  refine dif_neg fun upper => ?_
  have upper : 65 ≤ c.toNat ∧ c.toNat ≤ 90 := upper
  omega

theorem toNat_ofNat_cases (n : Nat) : (Char.ofNat n).toNat = n ∨ (Char.ofNat n).toNat = 0 := by
  by_cases valid : n.isValidChar
  · have same : Char.ofNat n = Char.ofNatAux n valid := dif_pos valid
    exact Or.inl (congrArg Char.toNat same)
  · exact Or.inr (congrArg Char.toNat (dif_neg valid))

/-- A character beyond ASCII has no plain letters for a lower case. -/
theorem lowerChar_foreign (before after : List Char) {c : Char} (foreign : 128 ≤ c.toNat) :
    ∃ c' ∈ lowerChar before c after, isPlain c' = false := by
  unfold lowerChar
  rw [if_neg (by omega)]
  split
  · exact ⟨Char.ofNat 0x307, by simp, by decide⟩
  · split
    · split
      · exact ⟨_, List.mem_singleton_self _, by decide⟩
      · exact ⟨_, List.mem_singleton_self _, by decide⟩
    · split
      · rename_i n found
        refine ⟨_, List.mem_singleton_self _, ?_⟩
        have image := shifted_foreign foreign found
        have number := toNat_ofNat_cases n
        rw [← Bool.not_eq_true, isPlain_iff]
        omega
      · refine ⟨c, List.mem_singleton_self c, ?_⟩
        rw [← Bool.not_eq_true, isPlain_iff]
        omega

theorem lowerChars_eq_iff {cs : List Char} : ∀ {before word : List Char},
    (∀ c ∈ word, isPlain c = true) →
      (lowerChars before cs = word ↔ cs.map Char.toLower = word) := by
  induction cs with
  | nil => exact fun plain => Iff.rfl
  | cons c rest ih =>
    intro before word plain
    rw [lowerChars, List.map_cons]
    by_cases ascii : c.toNat < 128
    · have own : lowerChar before c rest = [c.toLower] := if_pos ascii
      rw [own, List.singleton_append]
      cases word with
      | nil => exact iff_of_false nofun nofun
      | cons first others =>
        obtain ⟨-, plain⟩ := List.forall_mem_cons.mp plain
        rw [List.cons.injEq, List.cons.injEq, ih plain]
    · -- neither map leads from such a character to a plain letter
      have foreign : 128 ≤ c.toNat := Nat.le_of_not_lt ascii
      refine iff_of_false ?_ ?_
      · rintro rfl
        obtain ⟨c', found, odd⟩ := lowerChar_foreign before rest foreign
        rw [plain c' (List.mem_append_left _ found)] at odd
        cases odd
      · rintro rfl
        have small := plain c.toLower List.mem_cons_self
        rw [toLower_of_not_upper (by omega), isPlain_iff] at small
        omega

/-- Lower case in the whole of Unicode and in the Latin alphabet lead to the same plain words. -/
theorem lower_eq_iff {word : String} (plain : word.toList.all isPlain = true) (s : String) :
    lower s = word ↔ s.toLower = word := by
  rw [lower, ← String.toList_inj, String.toList_ofList,
    lowerChars_eq_iff (List.all_eq_true.mp plain), ← String.toList_inj, toList_toLower]

end Switchboard.Text
